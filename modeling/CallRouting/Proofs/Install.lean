import CallRouting.Service

/-!
# New rules

A text puts a rule in force if it parses and all clauses of the rule compile; if not, nothing
changes. Whatever a service does with a text, it asks its router to install it.

* `FirstFails` : the place of a list at which reading it fails, and why;
* `Compiler.admits`, `Compiler.rule?` : the rules that a router takes, and the rule that a text puts
  in force;
* `Compiler.Refuses` : the condition for which a rule is not taken, and the error that it gives;
* `Router.Replaced` : the router after it took a rule;
* `Router.install_cases` : a router takes the rule of a text, or refuses the text;
* `Service.apply_eq` : a service that applies a text announces what its router makes of it;
* `Service.Heard` : what becomes of the router.
-/

namespace CallRouting

/-! ## The first that fails -/

section

variable {α β ε : Type} {f : α → Except ε β} {a : α} {e : ε}

/-- Reading the elements fails at this place for this reason, and at none before it. -/
structure FirstFails (f : α → Except ε β) (l : List α) (i : Nat) (e : ε) : Prop where
  fails : ∃ a, l[i]? = some a ∧ f a = .error e
  before : ∀ j < i, ∀ a, l[j]? = some a → ∃ b, f a = .ok b

theorem FirstFails.head (h : f a = .error e) (l : List α) : FirstFails f (a :: l) 0 e :=
  ⟨⟨a, rfl, h⟩, nofun⟩

theorem FirstFails.cons {b : β} (h : f a = .ok b) {l : List α} {i : Nat}
    (hl : FirstFails f l i e) : FirstFails f (a :: l) (i + 1) e := by
  refine ⟨hl.fails, fun j hj a' ha' => ?_⟩
  cases j with
  | zero => exact ⟨b, Option.some.inj ha' ▸ h⟩
  | succ j => exact hl.before j (by omega) a' ha'

theorem firstFails_of_mapM {l : List α} (h : l.mapM f = .error e) : ∃ i, FirstFails f l i e := by
  induction l with
  | nil => cases h
  | cons a l ih =>
    rw [List.mapM_cons] at h
    cases ha : f a with
    | error e' =>
      rw [ha] at h
      cases h
      exact ⟨0, .head ha l⟩
    | ok b =>
      rw [ha] at h
      cases hl : l.mapM f with
      | error e' =>
        rw [hl] at h
        cases h
        obtain ⟨i, hi⟩ := ih hl
        exact ⟨i + 1, hi.cons ha⟩
      | ok bs =>
        rw [hl] at h
        cases h

end

/-! ## Building -/

/-- Whether a router takes the rule: the version that it would get does not matter. -/
def Compiler.admits (compiler : Compiler) (rule : Rule) : Bool :=
  (Snapshot.build compiler rule 0).isOk

/-- The rule that a text puts in force. -/
def Compiler.rule? (compiler : Compiler) (text : Option String) : Option Rule :=
  (Rule.parse text).toOption.filter compiler.admits

/-- The rule is valid, and the first of its conditions that is refused is the one in this place. -/
structure Compiler.Refuses (compiler : Compiler) (rule : Rule) (i : Nat) (e : CompileError) :
    Prop where
  valid : rule.isValid
  first : FirstFails (compiler · rule.force) rule.conditions i e

namespace Snapshot

variable (compiler : Compiler) (rule : Rule)

/-- The clauses of a valid rule, compiled. -/
def matchersOf : Except CompileError (List Matcher) :=
  if rule.isValid then rule.conditions.mapM (compiler · rule.force) else .ok []

theorem build_eq (version : Nat) :
    build compiler rule version =
      (matchersOf compiler rule).map ({ rule, matchers := ·, version }) := by
  unfold build matchersOf
  split
  · cases rule.conditions.mapM (compiler · rule.force) <;> rfl
  · rfl

theorem admits_iff :
    compiler.admits rule ↔ ∃ matchers, matchersOf compiler rule = .ok matchers := by
  rw [Compiler.admits, build_eq]
  cases matchersOf compiler rule with
  | error e => exact ⟨nofun, fun ⟨_, h⟩ => nomatch h⟩
  | ok matchers => exact ⟨fun _ => ⟨matchers, rfl⟩, fun _ => rfl⟩

variable {compiler rule}

theorem build_of_admits (h : compiler.admits rule) (version : Nat) :
    ∃ s, build compiler rule version = .ok s ∧ s.rule = rule ∧ s.version = version := by
  obtain ⟨matchers, hm⟩ := (admits_iff compiler rule).1 h
  rw [build_eq, hm]
  exact ⟨_, rfl, rfl, rfl⟩

theorem refuses_of_matchersOf {e : CompileError} (h : matchersOf compiler rule = .error e) :
    ∃ i, compiler.Refuses rule i e := by
  unfold matchersOf at h
  split at h
  · next hv =>
    obtain ⟨i, hi⟩ := firstFails_of_mapM h
    exact ⟨i, hv, hi⟩
  · cases h

theorem build_of_not_admits (h : ¬ compiler.admits rule) (version : Nat) :
    ∃ i e, build compiler rule version = .error e ∧ compiler.Refuses rule i e := by
  rw [admits_iff] at h
  rw [build_eq]
  cases hm : matchersOf compiler rule with
  | error e =>
    obtain ⟨i, hi⟩ := refuses_of_matchersOf hm
    exact ⟨i, e, rfl, hi⟩
  | ok matchers => exact absurd ⟨matchers, hm⟩ h

end Snapshot

/-! ## Routers -/

namespace Router

/-- The second router is the first one after it took the rule. -/
structure Replaced (r r' : Router) (rule : Rule) : Prop where
  rule : r'.active.rule = rule
  version : r'.active.version = r.active.version + 1
  key : r'.key = r.key
  compiler : r'.compiler = r.compiler

theorem installRule_cases (r : Router) (rule : Rule) :
    (∃ r', r.installRule rule = .ok r' ∧ r.compiler.admits rule ∧ r.Replaced r' rule) ∨
      ∃ e, r.installRule rule = .error e ∧ ¬ r.compiler.admits rule := by
  by_cases h : r.compiler.admits rule
  · obtain ⟨s, hs, hrule, hversion⟩ := Snapshot.build_of_admits h (r.active.version + 1)
    refine Or.inl ⟨{ r with active := s }, ?_, h, hrule, hversion, rfl, rfl⟩
    rw [installRule, hs]
    rfl
  · obtain ⟨-, e, he, -⟩ := Snapshot.build_of_not_admits h (r.active.version + 1)
    refine Or.inr ⟨.clause e, ?_, h⟩
    rw [installRule, he]
    rfl

theorem install_of_parse_error {r : Router} {text : Option String} {e : RuleError}
    (h : Rule.parse text = .error e) : r.install text = .error (.rule e) := by
  rw [install, h]
  rfl

theorem install_of_parse {r : Router} {text : Option String} {rule : Rule}
    (h : Rule.parse text = .ok rule) : r.install text = r.installRule rule := by
  rw [install, h]
  rfl

/-- A router takes the rule of a text, or refuses the text. -/
theorem install_cases (r : Router) (text : Option String) :
    (∃ r' rule, r.install text = .ok r' ∧ r.compiler.rule? text = some rule ∧ r.Replaced r' rule) ∨
      ∃ e, r.install text = .error e ∧ r.compiler.rule? text = none := by
  rw [Compiler.rule?]
  cases h : Rule.parse text with
  | error e => exact Or.inr ⟨.rule e, install_of_parse_error h, rfl⟩
  | ok rule =>
    rw [install_of_parse h]
    rcases r.installRule_cases rule with ⟨r', hr, ha, hrep⟩ | ⟨e, he, ha⟩
    · exact Or.inl ⟨r', rule, hr, Option.filter_eq_some_iff.2 ⟨rfl, ha⟩, hrep⟩
    · refine Or.inr ⟨e, he, ?_⟩
      simp only [Except.toOption, Option.filter_some, if_neg ha]

theorem build_of_parse {compiler : Compiler} {key : String} {text : Option String} {rule : Rule}
    (h : Rule.parse text = .ok rule) :
    build compiler key text = match Snapshot.build compiler rule 1 with
      | .ok active => .ok { key, compiler, active }
      | .error e => .error (.clause e) := by
  rw [build, h]
  show ((Snapshot.build compiler rule 1).mapError InstallError.clause).bind _ = _
  cases Snapshot.build compiler rule 1 <;> rfl

/-- A new router takes its first rule the same way. -/
theorem build_eq_ok {compiler : Compiler} {key : String} {text : Option String} {r : Router}
    (h : build compiler key text = .ok r) :
    r.key = key ∧ r.compiler = compiler ∧ compiler.rule? text = some r.active.rule ∧
      r.active.version = 1 := by
  cases hp : Rule.parse text with
  | error e =>
    rw [build, hp] at h
    cases h
  | ok rule =>
    rw [build_of_parse hp] at h
    by_cases ha : compiler.admits rule
    · obtain ⟨s, hs, hrule, hversion⟩ := Snapshot.build_of_admits ha 1
      rw [hs, Except.ok.injEq] at h
      subst h
      refine ⟨rfl, rfl, ?_, hversion⟩
      rw [Compiler.rule?, hp, hrule]
      exact Option.filter_eq_some_iff.2 ⟨rfl, ha⟩
    · obtain ⟨-, e, he, -⟩ := Snapshot.build_of_not_admits ha 1
      rw [he] at h
      cases h

end Router

/-! ## Services -/

namespace Service

variable (s : Service)

/-- A service that applies a text announces what its router makes of it, or rejects it. -/
theorem apply_eq (text : Option String) :
    s.apply text = match s.router.install text with
      | .ok router => s.announce router
      | .error e => s.reject e := by
  unfold apply applyRule
  cases h : Rule.parse text with
  | error e => simp only [Router.install_of_parse_error h]; rfl
  | ok rule =>
    simp only [Router.install_of_parse h]
    show (match s.router.installRule rule with | .ok router => _ | .error e => _) = _
    cases s.router.installRule rule <;> rfl

/-- The router of a service once it has heard of the text. -/
structure Heard (s s' : Service) (text : Option String) : Prop where
  took : ∀ rule, s.router.compiler.rule? text = some rule → s.router.Replaced s'.router rule
  kept : s.router.compiler.rule? text = none → s'.router = s.router

theorem heard_apply (text : Option String) : s.Heard (s.apply text).2 text := by
  rw [apply_eq]
  rcases s.router.install_cases text with ⟨r', rule, hr, hrule, hrep⟩ | ⟨e, he, hrule⟩
  · rw [hr]
    refine ⟨fun rule' h => ?_, fun h => ?_⟩
    · obtain rfl : rule = rule' := Option.some.inj (hrule.symm.trans h)
      exact hrep
    · rw [hrule] at h
      cases h
  · rw [he]
    refine ⟨fun rule' h => ?_, fun _ => rfl⟩
    rw [hrule] at h
    cases h

namespace Heard

variable {s s' : Service} {text : Option String} (h : s.Heard s' text)

include h

theorem key : s'.router.key = s.router.key := by
  cases hr : s.router.compiler.rule? text with
  | none => rw [h.kept hr]
  | some rule => exact (h.took rule hr).key

theorem compiler : s'.router.compiler = s.router.compiler := by
  cases hr : s.router.compiler.rule? text with
  | none => rw [h.kept hr]
  | some rule => exact (h.took rule hr).compiler

/-- The version tells whether the text was taken. -/
theorem version_ne_iff :
    s'.router.active.version ≠ s.router.active.version ↔
      (s.router.compiler.rule? text).isSome := by
  cases hr : s.router.compiler.rule? text with
  | none =>
    rw [h.kept hr]
    simp
  | some rule =>
    rw [(h.took rule hr).version]
    simp

end Heard
end Service
end CallRouting
