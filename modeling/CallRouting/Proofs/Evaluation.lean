import CallRouting.Proofs.Narrowing

/-!
# What a rule leaves of a pool

A clause leaves the endpoints that it permits, and passes a pool over that has none of them, unless
it is forced or a blacklist. From this it follows what a list of clauses does.

* `Clause.apply_eq` : one clause;
* `Clause.applyAll_of_sublist` : what the clauses left of a pool they leave as it is, and any part of
  it too;
* `Clause.applyAll_of_force` : forced clauses leave what all of them permit;
* `Clause.applyAll_eq_nil_iff` : clauses that are not forced leave nothing only if one is a blacklist
  for the call;
* `Rule.evaluated_idempotent`, `Rule.evaluated_of_force`, `Rule.evaluated_eq_nil_iff` : the same for
  rules, and where calls go under a rule that leaves nothing.
-/

namespace CallRouting

/-! ## One clause -/

namespace Clause

variable (c : Clause) (call : Call) (pool : Pool)

/-- Whether the call may go to the endpoint; a call that is not selected may go anywhere. -/
def permits (e : Endpoint) : Bool := !c.selects call || c.accepts call e

/-- Whether the clause is a blacklist for this call. -/
def bars : Bool := c.blacklists && c.selects call

theorem filter_permits_of_bars (h : c.bars call = true) : pool.filter (c.permits call) = [] := by
  obtain ⟨hblack, hselects⟩ := Bool.and_eq_true_iff.1 h
  have hnone : c.thenPart = none := Option.isNone_iff_eq_none.1 hblack
  refine List.filter_eq_nil_iff.2 fun e _ => ?_
  simp [permits, accepts, hselects, hnone]

/-- What a clause leaves of a pool: what it permits, or all if it permits nothing there and neither
force nor a blacklist stands against that. -/
theorem apply_eq :
    c.apply call pool =
      if pool.filter (c.permits call) = [] ∧ c.force = false ∧ c.bars call = false then pool
      else pool.filter (c.permits call) := by
  by_cases hp : pool = []
  · subst hp
    simp [apply]
  have hne : pool.isEmpty = false := List.isEmpty_eq_false_iff.2 hp
  by_cases hselects : c.selects call = true
  · have hpermits : c.permits call = c.accepts call := by
      funext e
      simp [permits, hselects]
    have hbars : c.bars call = c.blacklists := by simp [bars, hselects]
    cases hblack : c.blacklists with
    | true =>
      have hkept := c.filter_permits_of_bars call pool (hbars.trans hblack)
      simp [apply, hne, hselects, hbars, hblack, hkept]
    | false => simp [apply, hne, hselects, hbars, hblack, hpermits]
  · have hall : pool.filter (c.permits call) = pool :=
      List.filter_eq_self.2 fun e _ => by simp [permits, hselects]
    simp [apply, hselects, hall]

theorem apply_of_force (h : c.force = true) :
    c.apply call pool = pool.filter (c.permits call) := by
  rw [apply_eq, if_neg (by simp [h])]

/-- What a clause has left it leaves again, whatever was lost in between. -/
theorem apply_of_sublist {kept : Pool} (h : kept.Sublist (c.apply call pool)) :
    c.apply call kept = kept := by
  rw [apply_eq] at h ⊢
  split at h
  · next hpassed =>
    -- The pool was passed over, so there is nothing in it that the clause permits.
    have hnone : kept.filter (c.permits call) = [] :=
      List.eq_nil_of_sublist_nil (hpassed.1 ▸ h.filter (c.permits call))
    rw [if_pos ⟨hnone, hpassed.2⟩]
  · have hall : kept.filter (c.permits call) = kept :=
      List.filter_eq_self.2 fun e he => (List.mem_filter.1 (h.subset he)).2
    rw [hall, ite_self]

/-- A clause that is not forced leaves nothing only as a blacklist. -/
theorem apply_eq_nil_iff (hforce : c.force = false) :
    c.apply call pool = [] ↔ pool = [] ∨ c.bars call = true := by
  rw [apply_eq]
  cases hbars : c.bars call with
  | true => simp [c.filter_permits_of_bars call pool hbars]
  | false =>
    split
    · simp
    · next hkept =>
      have hne : pool.filter (c.permits call) ≠ [] := fun hnil => hkept ⟨hnil, hforce, rfl⟩
      have hpool : pool ≠ [] := fun hnil => hne (by rw [hnil]; rfl)
      simp [hne, hpool]

end Clause

/-! ## Clause after clause -/

namespace Clause

variable {cs : List Clause} (call : Call) (pool : Pool)

theorem applyAll_of_sublist {kept : Pool} (h : kept.Sublist (applyAll cs call pool)) :
    applyAll cs call kept = kept := by
  induction cs generalizing pool with
  | nil => rfl
  | cons c cs ih =>
    have hfirst := c.apply_of_sublist call pool (h.trans (applyAll_sublist cs call _))
    show applyAll cs call (c.apply call kept) = kept
    rw [hfirst]
    exact ih (c.apply call pool) h

/-- Forced clauses leave what all of them permit. -/
theorem applyAll_of_force (h : ∀ c ∈ cs, c.force = true) :
    applyAll cs call pool = pool.filter fun e => cs.all (·.permits call e) := by
  induction cs generalizing pool with
  | nil => exact (List.filter_eq_self.2 fun _ _ => rfl).symm
  | cons c cs ih =>
    obtain ⟨hc, hcs⟩ := List.forall_mem_cons.1 h
    calc applyAll cs call (c.apply call pool)
        = (pool.filter (c.permits call)).filter fun e => cs.all (·.permits call e) := by
          rw [ih _ hcs, c.apply_of_force call pool hc]
      _ = pool.filter fun e => (c :: cs).all (·.permits call e) := by
          rw [List.filter_filter]
          exact List.filter_congr fun e _ => Bool.and_comm _ _

/-- Clauses that are not forced leave nothing only if one of them is a blacklist. -/
theorem applyAll_eq_nil_iff (h : ∀ c ∈ cs, c.force = false) :
    applyAll cs call pool = [] ↔ pool = [] ∨ ∃ c ∈ cs, c.bars call = true := by
  induction cs generalizing pool with
  | nil => simp [applyAll]
  | cons c cs ih =>
    obtain ⟨hc, hcs⟩ := List.forall_mem_cons.1 h
    show applyAll cs call (c.apply call pool) = [] ↔ _
    rw [ih _ hcs, c.apply_eq_nil_iff call pool hc, or_assoc]
    simp

end Clause

/-! ## Rules -/

namespace Rule

variable (r : Rule) (call : Call)

/-- Each clause that selects the call accepts the endpoint. -/
def Permits (e : Endpoint) : Prop :=
  ∀ text ∈ r.conditions, ∀ c, Clause.compile text r.force = .ok c →
    c.selects call = true → c.accepts call e = true

instance (e : Endpoint) : Decidable (r.Permits call e) :=
  decidable_of_iff (∀ text ∈ r.conditions, ∀ c ∈ (Clause.compile text r.force).toOption,
      c.selects call = true → c.accepts call e = true) <| by
    refine forall₂_congr fun text _ => forall_congr' fun c => ?_
    cases Clause.compile text r.force <;> simp [Except.toOption]

/-- Some clause is a blacklist and selects the call. -/
def Bars : Prop :=
  ∃ text ∈ r.conditions, ∃ c, Clause.compile text r.force = .ok c ∧
    c.blacklists = true ∧ c.selects call = true

instance : Decidable (r.Bars call) :=
  decidable_of_iff (∃ text ∈ r.conditions, ∃ c ∈ (Clause.compile text r.force).toOption,
      c.blacklists = true ∧ c.selects call = true) <| by
    refine exists_congr fun text => and_congr_right fun _ => exists_congr fun c => ?_
    cases Clause.compile text r.force <;> simp [Except.toOption]

end Rule

namespace Snapshot

theorem exists_clausal_of_compiles {rule : Rule} (h : rule.Compiles) (version : Nat) :
    ∃ s cs, build Compiler.clauses rule version = .ok s ∧ s.rule = rule ∧ s.Clausal cs := by
  obtain ⟨s, hs, hrule, -⟩ := build_of_admits ((Compiler.admits_clauses_iff rule).2 h) version
  obtain ⟨-, -, hmatchers⟩ := build_eq_ok hs
  rw [← hrule] at hmatchers
  obtain ⟨cs, hcs⟩ := exists_clausal hmatchers
  exact ⟨s, cs, hs, hrule, hcs⟩

namespace Clausal

variable {s : Snapshot} {cs : List Clause} (h : s.Clausal cs)

include h

/-- Where no run takes place, the clauses would leave the pool as it is. -/
theorem evaluated_eq (call : Call) (pool : Pool) :
    s.evaluated call pool = .ok (Clause.applyAll cs call pool) := by
  cases hd : s.decides pool with
  | true => simp only [evaluated, evaluate, hd, if_true, h.result_run]
  | false =>
    have hsame : Clause.applyAll cs call pool = pool := by
      rw [decides, Bool.and_eq_false_iff, Bool.not_eq_false', List.isEmpty_iff] at hd
      rcases hd with rfl | hv
      · exact List.eq_nil_of_sublist_nil (Clause.applyAll_sublist cs call [])
      · rw [h.nil hv]
        rfl
    simp only [evaluated, evaluate, hd, Bool.false_eq_true, if_false, hsame]

theorem mem_iff (hv : s.rule.isValid) {c : Clause} :
    c ∈ cs ↔ ∃ text ∈ s.rule.conditions, Clause.compile text s.rule.force = .ok c :=
  mem_mapM_iff (h.compiled hv)

theorem force_eq : ∀ c ∈ cs, c.force = s.rule.force := by
  intro c hc
  cases hv : s.rule.isValid with
  | true =>
    obtain ⟨text, -, hcompile⟩ := (h.mem_iff hv).1 hc
    exact (Clause.compiled_of_compile hcompile).force
  | false =>
    rw [h.nil hv] at hc
    cases hc

theorem permits_iff (hv : s.rule.isValid) (call : Call) (e : Endpoint) :
    (cs.all (·.permits call e)) = true ↔ s.rule.Permits call e := by
  have hclause : ∀ c : Clause, c.permits call e = true ↔
      (c.selects call = true → c.accepts call e = true) := fun c => by
    cases hs : c.selects call <;> simp [Clause.permits, hs]
  simp only [List.all_eq_true, hclause, h.mem_iff hv, Rule.Permits]
  exact ⟨fun hall text ht c hc => hall c ⟨text, ht, hc⟩, fun hall c ⟨text, ht, hc⟩ => hall text ht c hc⟩

theorem bars_iff (hv : s.rule.isValid) (call : Call) :
    (∃ c ∈ cs, c.bars call = true) ↔ s.rule.Bars call := by
  simp only [h.mem_iff hv, Clause.bars, Bool.and_eq_true, Rule.Bars]
  constructor
  · rintro ⟨c, ⟨text, ht, hc⟩, hbars⟩
    exact ⟨text, ht, c, hc, hbars⟩
  · rintro ⟨text, ht, c, hc, hbars⟩
    exact ⟨c, ⟨text, ht, hc⟩, hbars⟩

end Clausal
end Snapshot

namespace Rule

/-- **A rule has its whole effect at once.** What a rule leaves of a pool for a call, it leaves again
as it is. -/
theorem evaluated_idempotent {rule : Rule} (hc : rule.Compiles) (version : Nat) :
    ∃ s, Snapshot.build Compiler.clauses rule version = .ok s ∧
      ∀ call pool, ∃ kept, s.evaluated call pool = .ok kept ∧ s.evaluated call kept = .ok kept := by
  obtain ⟨s, cs, hs, -, hcs⟩ := Snapshot.exists_clausal_of_compiles hc version
  refine ⟨s, hs, fun call pool => ⟨Clause.applyAll cs call pool, hcs.evaluated_eq call pool, ?_⟩⟩
  rw [hcs.evaluated_eq, Clause.applyAll_of_sublist call pool (List.Sublist.refl _)]

/-- The second clause is passed over the first time, and again when less is left. -/
theorem evaluated_idempotent_passedOver :
    let rule : Rule := { conditions := ["=> host = a,b", "=> host = c", "=> host != a"] }
    rule.Compiles ∧ ∃ s, Snapshot.build Compiler.clauses rule 1 = .ok s ∧
      s.evaluated {} (Service.hosts ["a", "b", "c"]) = .ok (Service.hosts ["b"]) ∧
      s.evaluated {} (Service.hosts ["b"]) = .ok (Service.hosts ["b"]) := by
  intro rule
  have hc : rule.Compiles := (Compiler.admits_clauses_iff rule).1 (by decide +kernel)
  obtain ⟨s, hs, hall⟩ := evaluated_idempotent hc 1
  obtain ⟨kept, hkept, hagain⟩ := hall {} (Service.hosts ["a", "b", "c"])
  have hrun : (Snapshot.build Compiler.clauses rule 1).toOption.bind
      (·.evaluated {} (Service.hosts ["a", "b", "c"]) |>.toOption) = some (Service.hosts ["b"]) := by
    decide +kernel
  rw [hs] at hrun
  obtain rfl : kept = Service.hosts ["b"] :=
    Option.some.inj ((congrArg Except.toOption hkept).symm.trans hrun)
  exact ⟨hc, s, hs, hkept, hagain⟩

/-- A forced rule leaves what it permits. -/
theorem evaluated_eq_filter {s : Snapshot} {cs : List Clause} (h : s.Clausal cs)
    (hv : s.rule.isValid) (hf : s.rule.force = true) (call : Call) (pool : Pool) :
    s.evaluated call pool = .ok (pool.filter fun e => s.rule.Permits call e) := by
  have hforce : ∀ c ∈ cs, c.force = true := fun c hc => (h.force_eq c hc).trans hf
  rw [h.evaluated_eq, Clause.applyAll_of_force call pool hforce]
  refine congrArg Except.ok (List.filter_congr fun e _ => ?_)
  rw [Bool.eq_iff_iff, decide_eq_true_iff, h.permits_iff hv]

/-- Nothing is permitted that a blacklist is for. -/
theorem Bars.not_permits {r : Rule} {call : Call} (h : r.Bars call) (e : Endpoint) :
    ¬ r.Permits call e := by
  obtain ⟨text, ht, c, hc, hblack, hselects⟩ := h
  intro hall
  have haccepts := hall text ht c hc hselects
  rw [Clause.accepts, Option.isNone_iff_eq_none.1 hblack] at haccepts
  cases haccepts

section

variable {r : Rule} {texts : List String} (h : ∀ text, text ∈ texts ↔ text ∈ r.conditions)

include h

/-- What a rule permits is a matter of which clauses it has. -/
theorem permits_congr (call : Call) (e : Endpoint) :
    Permits { r with conditions := texts } call e ↔ r.Permits call e := by
  simp only [Permits, h]

theorem isValid_congr : isValid { r with conditions := texts } = r.isValid := by
  have hempty : texts.isEmpty = r.conditions.isEmpty := by
    rw [Bool.eq_iff_iff]
    simp only [List.isEmpty_iff, List.eq_nil_iff_forall_not_mem, h]
  rw [isValid, isValid, hempty]

theorem Compiles.congr (hc : r.Compiles) : Compiles { r with conditions := texts } := by
  intro hv text ht
  rw [isValid_congr h] at hv
  exact hc hv text ((h text).1 ht)

end

/-- **A forced rule is the conjunction of its clauses.** Of every pool it leaves the endpoints that
each clause accepts which selects the call; so it leaves none if one of these is a blacklist. It
does not matter in which order the clauses stand and how often, and of two pools in a row there is
left what is left of each. -/
theorem evaluated_of_force {rule : Rule} (hv : rule.isValid) (hf : rule.force = true)
    (hc : rule.Compiles) (version : Nat) :
    ∃ s, Snapshot.build Compiler.clauses rule version = .ok s ∧
      (∀ call pool, s.evaluated call pool = .ok (pool.filter fun e => rule.Permits call e)) ∧
      (∀ call, rule.Bars call → ∀ pool, s.evaluated call pool = .ok []) ∧
      (∀ texts version', (∀ text, text ∈ texts ↔ text ∈ rule.conditions) →
        ∃ s', Snapshot.build Compiler.clauses { rule with conditions := texts } version' = .ok s' ∧
          ∀ call pool, s'.evaluated call pool = s.evaluated call pool) ∧
      ∀ call pool more, ∃ kept kept', s.evaluated call pool = .ok kept ∧
        s.evaluated call more = .ok kept' ∧ s.evaluated call (pool ++ more) = .ok (kept ++ kept') := by
  obtain ⟨s, cs, hs, rfl, hcs⟩ := Snapshot.exists_clausal_of_compiles hc version
  have hleft := evaluated_eq_filter hcs hv hf
  refine ⟨s, hs, hleft, fun call hbars pool => ?_, fun texts version' h => ?_,
    fun call pool more => ⟨_, _, hleft call pool, hleft call more, ?_⟩⟩
  · rw [hleft, List.filter_eq_nil_iff.2]
    simpa using fun e _ => hbars.not_permits e
  · obtain ⟨s', cs', hs', hrule, hcs'⟩ := Snapshot.exists_clausal_of_compiles (hc.congr h) version'
    refine ⟨s', hs', fun call pool => ?_⟩
    have hv' : s'.rule.isValid := by rw [hrule, isValid_congr h, hv]
    have hf' : s'.rule.force = true := by rw [hrule, hf]
    rw [hleft, evaluated_eq_filter hcs' hv' hf', hrule]
    simp only [permits_congr h]
  · rw [hleft, List.filter_append]

/-- Two clauses of which the first one looks at the call; in the other order, and one of them
twice. -/
theorem evaluated_of_force_twice :
    let rule : Rule := { conditions := ["method = get => host = a,b", "=> host != b"], force := true }
    let texts := ["=> host != b", "method = get => host = a,b", "=> host != b"]
    let call : Call := { method := some "get" }
    let pool := Service.hosts ["a", "b", "c", "a"]
    rule.isValid ∧ rule.force ∧ rule.Compiles ∧ (∀ text, text ∈ texts ↔ text ∈ rule.conditions) ∧
      ∃ s s', Snapshot.build Compiler.clauses rule 1 = .ok s ∧
        Snapshot.build Compiler.clauses { rule with conditions := texts } 2 = .ok s' ∧
        s.evaluated call pool = .ok (Service.hosts ["a", "a"]) ∧
        s'.evaluated call pool = .ok (Service.hosts ["a", "a"]) := by
  intro rule texts call pool
  have hv : rule.isValid := by decide
  have hc : rule.Compiles := (Compiler.admits_clauses_iff rule).1 (by decide +kernel)
  have htexts : ∀ text, text ∈ texts ↔ text ∈ rule.conditions := fun text => by
    simp [texts, rule, or_comm]
  obtain ⟨s, hs, hleft, -, htwice, -⟩ := evaluated_of_force hv rfl hc 1
  obtain ⟨s', hs', hsame⟩ := htwice texts 2 htexts
  have hkept : (pool.filter fun e => rule.Permits call e) = Service.hosts ["a", "a"] := by
    decide +kernel
  have hfirst := hkept ▸ hleft call pool
  exact ⟨hv, rfl, hc, htexts, s, s', hs, hs', hfirst, (hsame call pool).trans hfirst⟩

/-- **A rule that is not forced leaves nothing only by a blacklist.** Of a pool that is not empty it
leaves nothing exactly if a blacklist selects the call; and then the call goes to the whole pool,
be it filtered for this call or be this call the baseline of all. -/
theorem evaluated_eq_nil_iff {rule : Rule} (hv : rule.isValid) (hf : rule.force = false)
    (hc : rule.Compiles) {pool : Pool} (hp : pool ≠ []) (call : Call) :
    (∀ version, ∃ s kept, Snapshot.build Compiler.clauses rule version = .ok s ∧
        s.evaluated call pool = .ok kept ∧ (kept = [] ↔ rule.Bars call)) ∧
      (rule.Bars call → ∀ (key : String) (baseline other : Call) (s : Service),
        s.Reachable Compiler.clauses key baseline → s.router.active.rule = rule →
        s.chain.candidates.endpoints = pool →
        call = (if rule.runtime then other else baseline) → (s.route other).1 = .ok pool) := by
  have hnil : ∀ {s : Snapshot} {cs : List Clause}, s.Clausal cs → s.rule = rule →
      (Clause.applyAll cs call pool = [] ↔ rule.Bars call) := by
    rintro s cs hcs rfl
    have hforce : ∀ c ∈ cs, c.force = false := fun c hc => (hcs.force_eq c hc).trans hf
    rw [Clause.applyAll_eq_nil_iff call pool hforce, hcs.bars_iff hv, or_iff_right hp]
  refine ⟨fun version => ?_, fun hbars key baseline other s hreach hrule hpool hcall => ?_⟩
  · obtain ⟨s, cs, hs, hrule, hcs⟩ := Snapshot.exists_clausal_of_compiles hc version
    exact ⟨s, _, hs, hcs.evaluated_eq call pool, hnil hcs hrule⟩
  · obtain ⟨cs, hcs⟩ := Snapshot.exists_clausal hreach.matchersOf_eq
    have hforce : s.router.active.isForce = false := by rw [Snapshot.isForce, hrule, hf]
    rw [hreach.result_route, hpool,
      Snapshot.destination_eq_runTo _ _ _ _ _ (by rw [hrule, hv]) hp, hrule, ← hcall,
      Snapshot.runTo, hcs.result_run, (hnil hcs hrule).2 hbars]
    show s.router.active.conclude key pool (some []) = _
    simp [Snapshot.conclude, hforce]

/-- The first clause leaves one endpoint and the second one none, so the call may go to either. -/
theorem evaluated_eq_nil_blacklist :
    let rule : Rule := { conditions := ["=> host = a", "method = get => false"] }
    let call : Call := { method := some "get" }
    let pool := Service.hosts ["a", "b"]
    rule.isValid ∧ rule.force = false ∧ rule.Compiles ∧ pool ≠ [] ∧ rule.Bars call ∧
      (∃ s, Snapshot.build Compiler.clauses rule 1 = .ok s ∧ s.evaluated call pool = .ok []) ∧
      ((Service.retuned rule call pool).route {}).1 = .ok pool := by
  intro rule call pool
  have hv : rule.isValid := by decide
  have hc : rule.Compiles := (Compiler.admits_clauses_iff rule).1 (by decide +kernel)
  have hp : pool ≠ [] := by decide
  have hbars : rule.Bars call := by decide +kernel
  obtain ⟨hleft, hroute⟩ := evaluated_eq_nil_iff hv rfl hc hp call
  obtain ⟨s, kept, hs, hkept, hiff⟩ := hleft 1
  obtain rfl := hiff.2 hbars
  exact ⟨hv, rfl, hc, hp, hbars, ⟨s, hs, hkept⟩,
    hroute hbars "k" call {} (Service.retuned rule call pool)
      (Service.reachable_retuned rule call pool) (by decide +kernel) (by decide +kernel) rfl⟩

end Rule
end CallRouting
