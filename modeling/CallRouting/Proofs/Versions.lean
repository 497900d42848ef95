import CallRouting.Proofs.Operations

/-!
# Snapshots and their versions

The snapshot in force is always a whole one, made from one rule by the compiler of clauses, and its
version says how many rules there have been.

* `Snapshot.Whole` : each clause of the rule has its matcher, in its place;
* `Compiler.admits_clauses_iff` : the rules that are taken, read off their clauses;
* `Session.accepted` : how many rules a run has put in force;
* `Session.version_run` : the version counts them;
* `Session.snapshots_of_run` : all this together, with what one more operation does.
-/

namespace CallRouting

/-! ## Clauses of a rule -/

section

variable {α β ε : Type} {f : α → Except ε β}

theorem mapM_cons_eq_ok {a : α} {l : List α} {r : List β} :
    (a :: l).mapM f = .ok r ↔ ∃ b t, f a = .ok b ∧ l.mapM f = .ok t ∧ r = b :: t := by
  rw [List.mapM_cons]
  cases f a with
  | error e => exact ⟨nofun, fun ⟨_, _, h, _⟩ => nomatch h⟩
  | ok b =>
    cases l.mapM f with
    | error e => exact ⟨nofun, fun ⟨_, _, _, h, _⟩ => nomatch h⟩
    | ok t =>
      refine ⟨fun h => ⟨b, t, rfl, rfl, (Except.ok.inj h).symm⟩, ?_⟩
      rintro ⟨b', t', hb, ht, rfl⟩
      cases hb
      cases ht
      rfl

/-- What is read can be changed one by one or when all of it has been read. -/
theorem mapM_map_eq {γ : Type} (f : α → Except ε β) (g : β → γ) (l : List α) :
    l.mapM (fun a => (f a).map g) = (l.mapM f).map (List.map g) := by
  induction l with
  | nil => rfl
  | cons a l ih =>
    rw [List.mapM_cons, List.mapM_cons, ih]
    cases f a with
    | error e => rfl
    | ok b => cases l.mapM f <;> rfl

/-- The results stand in the places of what they come from. -/
theorem mapM_getElem? {l : List α} {r : List β} (h : l.mapM f = .ok r) :
    r.length = l.length ∧ ∀ (i : Nat) (a : α), l[i]? = some a → ∃ b, f a = .ok b ∧ r[i]? = some b := by
  induction l generalizing r with
  | nil =>
    cases h
    exact ⟨rfl, nofun⟩
  | cons a l ih =>
    obtain ⟨b, t, hb, ht, rfl⟩ := mapM_cons_eq_ok.1 h
    obtain ⟨hlength, hget⟩ := ih ht
    refine ⟨congrArg Nat.succ hlength, fun i => ?_⟩
    cases i with
    | zero =>
      rintro _ ⟨⟩
      exact ⟨b, hb, rfl⟩
    | succ i => exact hget i

theorem eq_ok_of_toOption {x : Except ε β} {b : β} (h : x.toOption = some b) : x = .ok b := by
  cases x with
  | error e => cases h
  | ok b' => exact congrArg Except.ok (Option.some.inj h)

theorem exists_ok_of_isOk {x : Except ε β} (h : x.isOk = true) : ∃ b, x = .ok b := by
  cases x with
  | error e => cases h
  | ok b => exact ⟨b, rfl⟩

theorem exists_error_of {x : Except ε β} {p : ε → Bool}
    (h : (match x with | .ok _ => false | .error e => p e) = true) : ∃ e, x = .error e ∧ p e := by
  cases x with
  | error e => exact ⟨e, rfl, h⟩
  | ok b => cases h

theorem exists_mapM_iff {l : List α} : (∃ r, l.mapM f = .ok r) ↔ ∀ a ∈ l, ∃ b, f a = .ok b := by
  induction l with
  | nil => exact ⟨fun _ => nofun, fun _ => ⟨[], rfl⟩⟩
  | cons a l ih =>
    simp only [mapM_cons_eq_ok, List.forall_mem_cons, ← ih]
    constructor
    · rintro ⟨_, b, t, hb, ht, rfl⟩
      exact ⟨⟨b, hb⟩, t, ht⟩
    · rintro ⟨⟨b, hb⟩, t, ht⟩
      exact ⟨_, b, t, hb, ht, rfl⟩

/-- Each result comes from some element, and each element has its result. -/
theorem mem_mapM_iff {l : List α} {r : List β} (h : l.mapM f = .ok r) {b : β} :
    b ∈ r ↔ ∃ a ∈ l, f a = .ok b := by
  induction l generalizing r with
  | nil =>
    cases h
    simp
  | cons a l ih =>
    obtain ⟨b', t, hb, ht, rfl⟩ := mapM_cons_eq_ok.1 h
    simp [ih ht, hb, eq_comm (a := b)]

end

theorem Clause.source_of_compile {text : String} {force : Bool} {c : Clause}
    (h : compile text force = .ok c) : c.source = Text.trimmed text :=
  (compiled_of_compile h).source

theorem Compiler.clauses_eq_ok {text : String} {force : Bool} {m : Matcher} :
    clauses text force = .ok m ↔ ∃ c, Clause.compile text force = .ok c ∧ m = c.matcher := by
  unfold clauses
  cases Clause.compile text force with
  | error e => exact ⟨nofun, fun ⟨_, h, _⟩ => nomatch h⟩
  | ok c =>
    refine ⟨fun h => ⟨c, rfl, (Except.ok.inj h).symm⟩, ?_⟩
    rintro ⟨c', hc, rfl⟩
    cases hc
    rfl

/-- Every clause of the rule can be read, if the rule is valid. -/
def Rule.Compiles (r : Rule) : Prop :=
  r.isValid → ∀ text ∈ r.conditions, ∃ c, Clause.compile text r.force = .ok c

theorem Compiler.admits_clauses_iff (rule : Rule) : clauses.admits rule ↔ rule.Compiles := by
  rw [Snapshot.admits_iff, Snapshot.matchersOf, Rule.Compiles]
  cases rule.isValid with
  | false => exact ⟨fun _ => nofun, fun _ => ⟨[], rfl⟩⟩
  | true =>
    simp only [if_true, exists_mapM_iff, clauses_eq_ok, forall_const]
    constructor
    · intro h text ht
      obtain ⟨m, c, hc, -⟩ := h text ht
      exact ⟨c, hc⟩
    · intro h text ht
      obtain ⟨c, hc⟩ := h text ht
      exact ⟨c.matcher, c, hc, rfl⟩

/-! ## Whole snapshots -/

namespace Snapshot

/-- Each clause of the rule has its matcher, read under the force of the rule; an invalid rule has
no matchers. -/
structure Whole (s : Snapshot) : Prop where
  length : s.matchers.length = if s.rule.isValid then s.rule.conditions.length else 0
  matcher : s.rule.isValid → ∀ (i : Nat) (text : String), s.rule.conditions[i]? = some text →
    ∃ c, Clause.compile text s.rule.force = .ok c ∧ s.matchers[i]? = some c.matcher

theorem whole_of_matchersOf {s : Snapshot}
    (h : matchersOf Compiler.clauses s.rule = .ok s.matchers) : s.Whole := by
  unfold matchersOf at h
  split at h
  · next hv =>
    obtain ⟨hlength, hget⟩ := mapM_getElem? h
    refine ⟨by rw [if_pos hv, hlength], fun _ i text ht => ?_⟩
    obtain ⟨m, hm, hi⟩ := hget i text ht
    obtain ⟨c, hc, rfl⟩ := Compiler.clauses_eq_ok.1 hm
    exact ⟨c, hc, hi⟩
  · next hv =>
    refine ⟨?_, fun h => absurd h hv⟩
    rw [if_neg hv, ← Except.ok.inj h, List.length_nil]

theorem Whole.isConsistent {s : Snapshot} (h : s.Whole) : s.isConsistent = true := by
  have hlength := h.length
  unfold Snapshot.isConsistent
  split
  · next hv =>
    rw [if_pos hv] at hlength
    rw [decide_eq_true_eq]
    refine List.ext_getElem? fun i => ?_
    rw [List.getElem?_map, List.getElem?_map]
    cases ht : s.rule.conditions[i]? with
    | none =>
      rw [List.getElem?_eq_none_iff] at ht
      rw [List.getElem?_eq_none (hlength ▸ ht)]
      rfl
    | some text =>
      obtain ⟨c, hc, hi⟩ := h.matcher hv i text ht
      rw [hi, Option.map_some, Option.map_some, ← Clause.source_of_compile hc]
      rfl
  · next hv =>
    rw [if_neg hv] at hlength
    rw [List.isEmpty_iff]
    exact List.length_eq_zero_iff.1 hlength

end Snapshot

/-! ## Versions -/

namespace Session

/-- Whether the event puts a rule in force. -/
def accepts (s : Session) : Event → Bool
  | .operation o => (s.now.answer? o).any Except.isOk
  | .call _ _ _ => false

/-- How many rules the events put in force. -/
def accepted (s : Session) : List Event → Nat
  | [] => 0
  | e :: es => (s.accepts e).toNat + (s.step e).accepted es

theorem version_step (s : Session) (e : Event) :
    (s.step e).now.router.active.version =
      s.now.router.active.version + (s.accepts e).toNat := by
  cases e with
  | operation o =>
    rcases s.now.perform_cases o with hp | ⟨e, hr⟩ | ⟨rule, snapshot, ht⟩
    · simp only [step, accepts, hp.router, hp.answer]
      rfl
    · simp only [step, accepts, hr.router, hr.answer]
      rfl
    · simp only [step, accepts, ht.router, ht.answer]
      exact (Snapshot.build_eq_ok ht.took.built).2.1
  | call i j call => rfl

theorem version_run (s : Session) (events : List Event) :
    (s.run events).now.router.active.version =
      s.now.router.active.version + s.accepted events := by
  induction events generalizing s with
  | nil => rfl
  | cons e es ih =>
    show ((s.step e).run es).now.router.active.version = _
    rw [ih, version_step, accepted, Nat.add_assoc]

end Session

namespace Service

/-- What an operation makes of the snapshot in force. -/
structure Moves (s : Service) (o : Service.Operation) : Prop where
  /-- What is taken is in force with the next version, and has exactly the rule that was offered. -/
  taken : ∀ snapshot, s.answer? o = some (.ok snapshot) →
    (s.perform o).router.active = snapshot ∧ snapshot.version = s.router.active.version + 1 ∧
      o.offer s.router.key = some (.ok snapshot.rule)
  /-- What is not taken changes nothing. -/
  kept : (∀ snapshot, s.answer? o ≠ some (.ok snapshot)) →
    (s.perform o).router.active = s.router.active
  /-- A rule is taken if all its clauses can be read. -/
  accepts : ∀ rule, o.offer s.router.key = some (.ok rule) →
    ((∃ snapshot, s.answer? o = some (.ok snapshot)) ↔ rule.Compiles)

theorem moves {s : Service} (hc : s.router.compiler = Compiler.clauses) (o : Service.Operation) :
    Moves s o := by
  rcases s.perform_cases o with hp | ⟨e, hr⟩ | ⟨rule, snapshot, ht⟩
  · refine ⟨fun snapshot h => ?_, fun _ => by rw [hp.router], fun rule h => ?_⟩
    · rw [hp.answer] at h
      cases h
    · rw [hp.offer] at h
      cases h
  · refine ⟨fun snapshot h => ?_, fun _ => by rw [hr.router], fun rule h => ?_⟩
    · rw [hr.answer] at h
      cases h
    · obtain ⟨offer, hoffer, hno⟩ := hr.offer
      obtain rfl := Option.some.inj (hoffer.symm.trans h)
      have hno := hno rule rfl
      rw [hc, Compiler.admits_clauses_iff] at hno
      rw [hr.answer]
      exact ⟨nofun, fun h => absurd h hno⟩
  · obtain ⟨hrule, hversion, hmatchers⟩ := Snapshot.build_eq_ok ht.took.built
    refine ⟨fun snapshot' h => ?_, fun h => absurd ht.answer (h snapshot), fun rule' h => ?_⟩
    · obtain rfl := Except.ok.inj (Option.some.inj (ht.answer.symm.trans h))
      exact ⟨by rw [ht.router], hversion, by rw [hrule, ht.offer]⟩
    · obtain rfl := Except.ok.inj (Option.some.inj (ht.offer.symm.trans h))
      refine ⟨fun _ => ?_, fun _ => ⟨snapshot, ht.answer⟩⟩
      rw [← Compiler.admits_clauses_iff, ← hc, Snapshot.admits_iff]
      exact ⟨_, hmatchers⟩

end Service

namespace Session

/-- **Snapshots are whole, and versions count them.** However rules and calls have come, the
snapshot in force is made of one rule and all its clauses; its version is one more than the number
of rules that were put in force since the first, so no two snapshots ever had the same version; and
the next rule is in force as it is, or refused because of one of its clauses, or of its text, with
nothing changed. -/
theorem snapshots_of_run {key : String} {text : Option String} {router : Router}
    (h : Router.build Compiler.clauses key text = .ok router) (capacity : Nat) (baseline : Call)
    (pool : Pool) (events : List Event) :
    let start := Session.mk (.ofRouter router capacity baseline pool) []
    let s := start.run events
    let active := s.now.router.active
    active.Whole ∧ active.isConsistent ∧ active.version = 1 + start.accepted events ∧
      (∀ a ∈ s.states, ∀ b ∈ s.states, a.router.active.version = b.router.active.version →
        a.router.active = b.router.active) ∧
      ∀ o, s.now.Moves o := by
  intro start s active
  have hreach : s.now.Reachable Compiler.clauses key baseline :=
    ⟨text, router, capacity, pool, events, h, rfl⟩
  have hwhole := Snapshot.whole_of_matchersOf hreach.matchersOf_eq
  have hsound := (run_sound router capacity baseline pool events).1
  refine ⟨hwhole, hwhole.isConsistent, ?_, fun a ha b hb => hsound.snapshot_eq ha hb,
    Service.moves hreach.faithful.2⟩
  rw [version_run]
  exact congrArg (· + start.accepted events) (Router.build_eq_ok h).2.2.2

/-- A rule with blanks around its clause, a text whose second clause is refused, and a text that
could not be read. -/
def oneOfThree : List Event :=
  [.operation (.installRule { conditions := [" method=get => host = a "], force := true }),
    .operation (.apply (some "conditions:\n- => host = b\n- => host = ,")),
    .operation (.resync (.error (.notAFileName "")))]

/-- A router that has no rule yet. -/
def unruled : Router := ⟨"k", Compiler.clauses, .absent, [], 1⟩

theorem snapshots_after_oneOfThree :
    ((Session.mk (.ofRouter unruled 16 {} []) []).run oneOfThree).now.router.active.isConsistent ∧
      ((Session.mk (.ofRouter unruled 16 {} []) []).run oneOfThree).now.router.active.version = 2 ∧
      ((Session.mk (.ofRouter unruled 16 {} []) []).run oneOfThree).now.router.active.matchers.map
        (·.source) = ["method=get => host = a"] := by
  have hbuild : Router.build Compiler.clauses "k" none = .ok unruled := rfl
  have haccepted : (Session.mk (.ofRouter unruled 16 {} []) []).accepted oneOfThree = 1 := by
    decide +kernel
  have h := snapshots_of_run hbuild 16 {} [] oneOfThree
  exact ⟨h.2.1, h.2.2.1.trans (congrArg (1 + ·) haccepted), by decide +kernel⟩

end Session
end CallRouting
