import CallRouting.Proofs.Modes
import CallRouting.Proofs.Versions

/-!
# Rules that filter nothing

A text may ask for no filtering: there is none, it is blank, or its rule is disabled or has no
conditions. Such a rule is always taken, whatever else it says, and while it is in force every call
goes to the whole pool, whatever plan an earlier rule has left.

* `Rule.Idle` : the texts that ask for no filtering, which are those with an invalid rule;
* `Compiler.admits_of_invalid` : an invalid rule is always taken;
* `Session.router_run_of_accepted` : the router stays until the next rule is taken;
* `Service.Transparent` : a service at which no rule is noticed;
* `Session.transparent_until_next` : what an idle text makes of a service.
-/

namespace CallRouting

/-! ## Texts -/

namespace Rule

/-- The text asks for no filtering. -/
inductive Idle : Option String → Prop
  | none : Idle none
  | blank {s : String} (h : ∀ c ∈ s.toList, Text.isBlank c = true) : Idle (some s)
  | disabled {text : Option String} {rule : Rule} (h : parse text = .ok rule)
      (hrule : rule.enabled = false) : Idle text
  | unconditional {text : Option String} {rule : Rule} (h : parse text = .ok rule)
      (hrule : rule.conditions = []) : Idle text

theorem isValid_eq_false_iff (r : Rule) :
    r.isValid = false ↔ r.enabled = false ∨ r.conditions = [] := by
  rw [isValid, Bool.and_eq_false_iff, Bool.not_eq_false', List.isEmpty_iff]

theorem parse_of_blank {s : String} (h : ∀ c ∈ s.toList, Text.isBlank c = true) :
    parse (some s) = .ok absent := by
  rw [parse, if_pos ((Text.trim_eq_nil_iff s.toList).2 h)]

/-- The idle texts are those of invalid rules. -/
theorem idle_iff {text : Option String} :
    Idle text ↔ ∃ rule, parse text = .ok rule ∧ rule.isValid = false := by
  constructor
  · intro h
    cases h with
    | none => exact ⟨absent, rfl, rfl⟩
    | blank h => exact ⟨absent, parse_of_blank h, rfl⟩
    | disabled h hrule => exact ⟨_, h, (isValid_eq_false_iff _).2 (Or.inl hrule)⟩
    | unconditional h hrule => exact ⟨_, h, (isValid_eq_false_iff _).2 (Or.inr hrule)⟩
  · rintro ⟨rule, h, hv⟩
    rcases (isValid_eq_false_iff rule).1 hv with hrule | hrule
    · exact .disabled h hrule
    · exact .unconditional h hrule

end Rule

/-- No clause of an invalid rule is looked at. -/
theorem Compiler.admits_of_invalid (compiler : Compiler) {rule : Rule} (h : rule.isValid = false) :
    compiler.admits rule := by
  rw [Snapshot.admits_iff, Snapshot.matchersOf, h]
  exact ⟨[], rfl⟩

/-! ## Between two rules -/

namespace Session

variable {s : Session}

theorem router_step_of_accepts {e : Event} (h : s.accepts e = false) :
    (s.step e).now.router = s.now.router := by
  cases e with
  | operation o =>
    rcases s.now.perform_cases o with hp | ⟨e, hr⟩ | ⟨rule, snapshot, ht⟩
    · exact hp.router
    · exact hr.router
    · rw [accepts, ht.answer] at h
      cases h
  | call i j call => rfl

/-- While no rule is taken the router stays. -/
theorem router_run_of_accepted {events : List Event} (h : s.accepted events = 0) :
    (s.run events).now.router = s.now.router := by
  induction events generalizing s with
  | nil => rfl
  | cons e es ih =>
    obtain ⟨hfirst, hrest⟩ := Nat.add_eq_zero_iff.1 h
    show ((s.step e).run es).now.router = _
    rw [ih hrest, router_step_of_accepts (Bool.toNat_eq_zero.1 hfirst)]

end Session

/-! ## Services -/

namespace Service

/-- No rule is noticed: calls go to the whole pool, and filtering any pool in advance or for a call
does nothing to it, and counts nothing. -/
structure Transparent (s : Service) : Prop where
  runtime : s.router.active.isRuntime = false
  route : ∀ call, (s.route call).1 = .ok s.chain.candidates.endpoints
  outcome : ∀ call pool, s.outcome s.router.active call pool = (.ok .noDecision, s)
  evaluate : ∀ call pool, s.evaluate s.router.active call pool = (.ok pool, s)

/-- Under an invalid rule a service is transparent, whatever plan it keeps. -/
theorem Reachable.transparent {compiler : Compiler} {key : String} {baseline : Call} {s : Service}
    (h : s.Reachable compiler key baseline) (hv : s.router.active.rule.isValid = false) :
    s.Transparent := by
  have hd : ∀ pool, s.router.active.decides pool = false :=
    fun pool => s.router.active.decides_of_invalid pool hv
  refine ⟨by rw [Snapshot.isRuntime, hv, Bool.false_and], fun call => ?_, fun call pool => ?_,
    fun call pool => ?_⟩
  · rw [h.result_route, Snapshot.destination_of_invalid _ _ _ _ _ hv]
  · simp only [Service.outcome, Snapshot.outcome, Snapshot.plan, hd]
    rfl
  · simp only [Service.evaluate, Snapshot.evaluated, Snapshot.evaluate, hd]
    rfl

end Service

namespace Session

/-- **A rule that filters nothing is not noticed.** However rules, pools and calls have come, an idle
text that is offered in any way is taken, with the rule that it says, be that forced or for single
calls and be there clauses that could not be read. Whatever happens then, until the next rule is
taken every call goes to the whole pool, and no pool is filtered. -/
theorem transparent_until_next {compiler : Compiler} {key : String} {first : Option String}
    {router : Router} (hbuild : Router.build compiler key first = .ok router) (capacity : Nat)
    (baseline : Call) (pool : Pool) (before : List Event) {o : Service.Operation}
    {text : Option String} (hidle : Rule.Idle text) :
    let s := (Session.mk (.ofRouter router capacity baseline pool) []).run before
    o.offer s.now.router.key = some ((Rule.parse text).mapError .rule) →
      ∃ rule snapshot, Rule.parse text = .ok rule ∧ s.now.answer? o = some (.ok snapshot) ∧
        snapshot.rule = rule ∧
        ∀ after, (s.step (.operation o)).accepted after = 0 →
          let t := (s.step (.operation o)).run after
          t.now.router.active = snapshot ∧ t.now.Transparent := by
  intro s hoffer
  obtain ⟨rule, hparse, hv⟩ := Rule.idle_iff.1 hidle
  rw [hparse] at hoffer
  rcases s.now.perform_cases o with hp | ⟨e, hr⟩ | ⟨rule', snapshot, ht⟩
  · rw [hp.offer] at hoffer
    cases hoffer
  · obtain ⟨offer, hgiven, hrefused⟩ := hr.offer
    obtain rfl := Option.some.inj (hgiven.symm.trans hoffer)
    exact absurd (Compiler.admits_of_invalid _ hv) (hrefused rule rfl)
  · obtain rfl : rule' = rule := Except.ok.inj (Option.some.inj (ht.offer.symm.trans hoffer))
    have hrule := (Snapshot.build_eq_ok ht.took.built).1
    refine ⟨rule', snapshot, hparse, ht.answer, hrule, fun after hafter => ?_⟩
    intro t
    have hactive : t.now.router.active = snapshot := by
      rw [router_run_of_accepted hafter]
      exact congrArg (·.active) ht.router
    have hreach : t.now.Reachable compiler key baseline :=
      ⟨first, router, capacity, pool, before ++ .operation o :: after, hbuild, by
        rw [run, List.foldl_append]
        rfl⟩
    exact ⟨hactive, hreach.transparent (by rw [hactive, hrule, hv])⟩

/-- A disabled rule that is forced and for single calls, with a clause that cannot be read. -/
def disabledText : Option String :=
  some "enabled: false\nforce: true\nruntime: true\nconditions:\n- '=> host = !'"

theorem parse_disabledText : Rule.parse disabledText =
    .ok { conditions := ["=> host = !"], force := true, runtime := true, enabled := false } :=
  eq_ok_of_toOption (by decide +kernel)

/-- A rule and a call under it. -/
def whileRuled : List Event :=
  [.operation (.installRule { conditions := ["=> host = b"], force := true }), .call 1 0 {}]

/-- The pool changes, a text is refused, and a call that came in under the rule before leaves its
plan. -/
def whileDisabled : List Event :=
  [.operation (.setPool (Service.hosts ["b", "a"])), .operation (.apply (some "conditions: [")),
    .call 2 9 {}]

def ruled : Session :=
  (Session.mk (.ofRouter unruled 16 {} (Service.hosts ["a"])) []).run whileRuled

def disabled : Session := (ruled.step (.operation (.apply disabledText))).run whileDisabled

theorem transparent_until_next_disabled :
    Rule.Idle disabledText ∧ disabled.now.chain.plan = some ⟨2, 1, some (Service.hosts ["b"])⟩ ∧
      disabled.now.router.active.isForce = true ∧
      disabled.now.router.active.rule.runtime = true ∧
      (disabled.now.route {}).1 = .ok (Service.hosts ["b", "a"]) := by
  have hidle : Rule.Idle disabledText := .disabled parse_disabledText rfl
  have hbuild : Router.build Compiler.clauses "k" none = .ok unruled := rfl
  obtain ⟨rule, snapshot, -, -, -, hafter⟩ := transparent_until_next hbuild 16 {}
    (Service.hosts ["a"]) whileRuled (o := .apply disabledText) hidle rfl
  have haccepted : (ruled.step (.operation (.apply disabledText))).accepted whileDisabled = 0 := by
    decide +kernel
  have htransparent : disabled.now.Transparent := (hafter whileDisabled haccepted).2
  have hroute := htransparent.route {}
  have hpool : disabled.now.chain.candidates.endpoints = Service.hosts ["b", "a"] := by
    decide +kernel
  rw [hpool] at hroute
  exact ⟨hidle, by decide +kernel, by decide +kernel, by decide +kernel, hroute⟩

end Session
end CallRouting
