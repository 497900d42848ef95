import CallRouting.Proofs.PlanCache

/-!
# What an operation does

Five operations offer a service a rule, each in its own way. The router takes the rule, or refuses
it; whatever the way, nothing else can become of the router.

* `Router.take`, `Router.take_cases` : a rule is taken with the snapshot built from it, or refused;
  `Router.Refuses` says why;
* `Service.Operation.offer` : what an operation offers the router that has this key;
* `Service.answer?` : what is answered to that;
* `Service.perform_cases` : an operation offers nothing, or is refused, or puts its rule in force;
* `Router.Faithful` : the snapshot in force is the one built from its rule;
* `Service.Reachable` : a service after any operations and calls; its router is faithful, and its
  calls go where they would go with no plan.
-/

namespace CallRouting

/-! ## Routers -/

namespace Router

variable (r : Router)

/-- The router after it was offered a rule, or was given a reason why there is none. -/
def take (offer : Except InstallError Rule) : Except InstallError Router :=
  offer.bind r.installRule

/-- The rule is in force, with the snapshot built from it. -/
structure Took (offer : Except InstallError Rule) (rule : Rule) (snapshot : Snapshot) : Prop where
  offered : offer = .ok rule
  built : Snapshot.build r.compiler rule (r.active.version + 1) = .ok snapshot
  take : r.take offer = .ok { r with active := snapshot }

/-- Why an offer is not taken: there is no rule in it, or a condition of its rule is refused. -/
inductive Refuses : Except InstallError Rule → InstallError → Prop where
  | noRule (e : InstallError) : Refuses (.error e) e
  | condition {rule : Rule} {i : Nat} {e : CompileError} (h : r.compiler.Refuses rule i e) :
    Refuses (.ok rule) (.clause e)

theorem take_cases (offer : Except InstallError Rule) :
    (∃ rule snapshot, r.Took offer rule snapshot) ∨
      ∃ e, r.take offer = .error e ∧ r.Refuses offer e ∧
        ∀ rule, offer = .ok rule → ¬ r.compiler.admits rule := by
  cases offer with
  | error e => exact Or.inr ⟨e, rfl, .noRule e, nofun⟩
  | ok rule =>
    by_cases h : r.compiler.admits rule
    · obtain ⟨snapshot, hs, -, -⟩ := Snapshot.build_of_admits h (r.active.version + 1)
      refine Or.inl ⟨rule, snapshot, rfl, hs, ?_⟩
      show r.installRule rule = _
      rw [installRule, hs]
      rfl
    · obtain ⟨i, e, he, hrefuses⟩ := Snapshot.build_of_not_admits h (r.active.version + 1)
      refine Or.inr ⟨.clause e, ?_, .condition hrefuses, ?_⟩
      · show r.installRule rule = _
        rw [installRule, he]
        rfl
      · rintro _ ⟨⟩
        exact h

theorem install_eq_take (text : Option String) :
    r.install text = r.take ((Rule.parse text).mapError .rule) := rfl

/-- The snapshot in force is the one built from its rule. -/
def Faithful : Prop :=
  Snapshot.build r.compiler r.active.rule r.active.version = .ok r.active

end Router

namespace Snapshot

theorem build_eq_ok {compiler : Compiler} {rule : Rule} {version : Nat} {s : Snapshot}
    (h : build compiler rule version = .ok s) :
    s.rule = rule ∧ s.version = version ∧ matchersOf compiler rule = .ok s.matchers := by
  rw [build_eq] at h
  cases hm : matchersOf compiler rule with
  | error e =>
    rw [hm] at h
    cases h
  | ok matchers =>
    rw [hm] at h
    cases h
    exact ⟨rfl, rfl, rfl⟩

end Snapshot

namespace Router

variable {r : Router}

theorem Took.faithful {offer : Except InstallError Rule} {rule : Rule} {snapshot : Snapshot}
    (h : r.Took offer rule snapshot) : Faithful { r with active := snapshot } := by
  obtain ⟨hrule, hversion, -⟩ := Snapshot.build_eq_ok h.built
  show Snapshot.build r.compiler snapshot.rule snapshot.version = .ok snapshot
  rw [hrule, hversion, h.built]

theorem faithful_of_build {compiler : Compiler} {key : String} {text : Option String}
    (h : build compiler key text = .ok r) : r.Faithful := by
  cases hp : Rule.parse text with
  | error e =>
    rw [build, hp] at h
    cases h
  | ok rule =>
    rw [build_of_parse hp] at h
    cases hb : Snapshot.build compiler rule 1 with
    | error e =>
      rw [hb] at h
      cases h
    | ok active =>
      obtain ⟨hrule, hversion, -⟩ := Snapshot.build_eq_ok hb
      rw [hb] at h
      cases h
      show Snapshot.build compiler active.rule active.version = .ok active
      rw [hrule, hversion, hb]

end Router

/-! ## Operations -/

namespace Service

/-- What an operation offers a router with this key: a rule, or the reason why it has none. -/
def Operation.offer (key : String) : Operation → Option (Except InstallError Rule)
  | .install text | .apply text | .resync (.ok text) => some ((Rule.parse text).mapError .rule)
  | .installRule rule => some (.ok rule)
  | .process change =>
    if change.key = key then some ((Rule.parse change.value).mapError .rule) else none
  | .resync (.error e) => some (.error (.source e))
  | .setPool _ | .invalidate => none

/-- The answer to an operation that offers something. -/
def answer? (s : Service) : Operation → Option (Except InstallError Snapshot)
  | .install text => some (s.install text).1
  | .installRule rule => some (s.installRule rule).1
  | .apply text => some (s.apply text).1
  | .process change => if change.key = s.router.key then some (s.process change).1 else none
  | .resync read => some (s.resync read).1
  | .setPool _ | .invalidate => none

variable (s : Service)

/-- What an offer comes to, whoever makes it. -/
def Meets (o : Operation) (offer : Except InstallError Rule) : Prop :=
  s.answer? o = some ((s.router.take offer).map (·.active)) ∧
    (s.perform o).router = (s.router.take offer).toOption.getD s.router

theorem meets_apply (text : Option String) {o : Operation}
    (ha : s.answer? o = some (s.apply text).1) (hp : s.perform o = (s.apply text).2) :
    s.Meets o ((Rule.parse text).mapError .rule) := by
  rw [Meets, ha, hp, apply_eq, Router.install_eq_take]
  cases s.router.take ((Rule.parse text).mapError .rule) <;> exact ⟨rfl, rfl⟩

theorem meets_of_offer {o : Operation} {offer : Except InstallError Rule}
    (h : o.offer s.router.key = some offer) : s.Meets o offer := by
  cases o with
  | install text =>
    cases h
    simp only [Meets, answer?, perform, install, Router.install_eq_take]
    cases s.router.take ((Rule.parse text).mapError .rule) <;> exact ⟨rfl, rfl⟩
  | installRule rule =>
    cases h
    have ht : s.router.take (.ok rule) = s.router.installRule rule := rfl
    simp only [Meets, answer?, perform, installRule, ht]
    cases s.router.installRule rule <;> exact ⟨rfl, rfl⟩
  | apply text =>
    cases h
    exact s.meets_apply text rfl rfl
  | process change =>
    simp only [Operation.offer] at h
    split at h
    · next hk =>
      cases h
      refine s.meets_apply change.value ?_ ?_
      · simp only [answer?, process, if_pos hk]
      · simp only [perform, process, if_pos hk]
    · cases h
  | resync read =>
    cases read with
    | ok text =>
      cases h
      exact s.meets_apply text rfl rfl
    | error e =>
      cases h
      exact ⟨rfl, rfl⟩
  | setPool pool => cases h
  | invalidate => cases h

/-- Nothing is offered, and the router stays. -/
structure Passes (o : Operation) : Prop where
  offer : o.offer s.router.key = none
  answer : s.answer? o = none
  router : (s.perform o).router = s.router

/-- What is offered is refused for this reason, and the router stays. -/
structure Refuses (o : Operation) (e : InstallError) : Prop where
  offer : ∃ offer, o.offer s.router.key = some offer ∧
    ∀ rule, offer = .ok rule → ¬ s.router.compiler.admits rule
  answer : s.answer? o = some (.error e)
  router : (s.perform o).router = s.router

/-- The rule that is offered is in force, with the snapshot built from it. -/
structure Takes (o : Operation) (rule : Rule) (snapshot : Snapshot) : Prop where
  offer : o.offer s.router.key = some (.ok rule)
  answer : s.answer? o = some (.ok snapshot)
  took : s.router.Took (.ok rule) rule snapshot
  router : (s.perform o).router = { s.router with active := snapshot }

theorem passes_of_offer {o : Operation} (h : o.offer s.router.key = none) : s.Passes o := by
  cases o with
  | install text => cases h
  | installRule rule => cases h
  | apply text => cases h
  | process change =>
    simp only [Operation.offer] at h
    split at h
    · cases h
    · next hk =>
      refine ⟨by rw [Operation.offer, if_neg hk], ?_, ?_⟩
      · rw [answer?, if_neg hk]
      · rw [perform, process, if_neg hk]
  | resync read => cases read <;> cases h
  | setPool pool => exact ⟨rfl, rfl, rfl⟩
  | invalidate => exact ⟨rfl, rfl, rfl⟩

/-- All that an operation can do to the router. -/
theorem perform_cases (o : Operation) :
    s.Passes o ∨ (∃ e, s.Refuses o e) ∨ ∃ rule snapshot, s.Takes o rule snapshot := by
  cases h : o.offer s.router.key with
  | none => exact Or.inl (s.passes_of_offer h)
  | some offer =>
    obtain ⟨hanswer, hrouter⟩ := s.meets_of_offer h
    rcases s.router.take_cases offer with ⟨rule, snapshot, htook⟩ | ⟨e, he, -, hno⟩
    · obtain rfl := htook.offered
      rw [htook.take] at hanswer hrouter
      exact Or.inr (Or.inr ⟨rule, snapshot, h, hanswer, htook, hrouter⟩)
    · rw [he] at hanswer hrouter
      exact Or.inr (Or.inl ⟨e, ⟨offer, h, hno⟩, hanswer, hrouter⟩)

theorem faithful_perform (h : s.router.Faithful) (o : Operation) :
    (s.perform o).router.Faithful := by
  rcases s.perform_cases o with hp | ⟨e, hr⟩ | ⟨rule, snapshot, ht⟩
  · rw [hp.router]
    exact h
  · rw [hr.router]
    exact h
  · rw [ht.router]
    exact ht.took.faithful

theorem compiler_perform (o : Operation) :
    (s.perform o).router.compiler = s.router.compiler := by
  rcases s.perform_cases o with hp | ⟨e, hr⟩ | ⟨rule, snapshot, ht⟩
  · rw [hp.router]
  · rw [hr.router]
  · rw [ht.router]

end Service

/-! ## Reachable services -/

namespace Session

/-- A router stays faithful, and keeps its compiler. -/
theorem run_faithful {router : Router} (h : router.Faithful) (capacity : Nat) (baseline : Call)
    (pool : Pool) (events : List Event) :
    let s := (Session.mk (.ofRouter router capacity baseline pool) []).run events
    s.now.router.Faithful ∧ s.now.router.compiler = router.compiler := by
  refine run_induction (P := fun s =>
    s.now.router.Faithful ∧ s.now.router.compiler = router.compiler) (fun s e hs => ?_) ⟨h, rfl⟩
    events
  cases e with
  | operation o =>
    exact ⟨s.now.faithful_perform hs.1 o, (s.now.compiler_perform o).trans hs.2⟩
  | call i j call => exact hs

theorem moment_length (s : Session) : s.moment s.past.length = s.now := by
  rw [moment, List.getElem?_eq_none (Nat.le_refl _), Option.getD_none]

/-- A call that is not late goes where it would go with no plan. -/
theorem result_route {s : Session} {key : String} {baseline : Call} (hs : s.Sound key baseline)
    (hp : s.Planned baseline) (call : Call) :
    (s.now.route call).1 =
      s.now.router.active.destination key baseline s.now.chain.candidates.endpoints call := by
  have h := result_answer hs hp s.past.length s.past.length call
  rw [answer, moment_length] at h
  exact h

end Session

/-- A service of this key, compiler and baseline, after any operations and calls. -/
def Service.Reachable (compiler : Compiler) (key : String) (baseline : Call) (s : Service) : Prop :=
  ∃ (text : Option String) (router : Router) (capacity : Nat) (pool : Pool)
    (events : List Session.Event), Router.build compiler key text = .ok router ∧
      s = ((Session.mk (.ofRouter router capacity baseline pool) []).run events).now

namespace Service.Reachable

variable {compiler : Compiler} {key : String} {baseline : Call} {s : Service}
  (h : s.Reachable compiler key baseline)

include h

theorem faithful : s.router.Faithful ∧ s.router.compiler = compiler := by
  obtain ⟨text, router, capacity, pool, events, hbuild, rfl⟩ := h
  have hrun := Session.run_faithful (Router.faithful_of_build hbuild) capacity baseline pool events
  exact ⟨hrun.1, hrun.2.trans (Router.build_eq_ok hbuild).2.1⟩

/-- The matchers in force are those of the rule in force. -/
theorem matchersOf_eq : Snapshot.matchersOf compiler s.router.active.rule =
    .ok s.router.active.matchers := by
  obtain ⟨hfaithful, hcompiler⟩ := h.faithful
  rw [Router.Faithful, hcompiler] at hfaithful
  exact (Snapshot.build_eq_ok hfaithful).2.2

/-- A call goes where it would go with no plan. -/
theorem result_route (call : Call) :
    (s.route call).1 =
      s.router.active.destination key baseline s.chain.candidates.endpoints call := by
  obtain ⟨text, router, capacity, pool, events, hbuild, rfl⟩ := h
  obtain ⟨hs, hp⟩ := Session.run_sound router capacity baseline pool events
  rw [Session.result_route hs hp, (Router.build_eq_ok hbuild).1]

end Service.Reachable
end CallRouting
