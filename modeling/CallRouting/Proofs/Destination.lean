import CallRouting.Chain

/-!
# Where calls go

What a chain answers, said without the plan that it keeps.

* `Snapshot.planned` : what is left of a pool for all calls;
* `Snapshot.destination` : where a call goes;
* `Chain.chain_serve` : what a call leaves behind in the chain;
* `Chain.result_serve_of_none`, `Chain.result_serve_of_some` : a chain that has no plan for the call
  gives its destination, and one that has such a plan concludes from that.
-/

namespace CallRouting

namespace Snapshot

variable (s : Snapshot)

/-- What is left of a pool for all calls; nothing if no rule applies. -/
def planned (baseline : Call) (pool : Pool) : Except RoutingError (Option Pool) :=
  match s.plan baseline pool with
  | some run => run.result.map some
  | none => .ok none

/-- Where a call goes. -/
def destination (key : String) (baseline : Call) (pool : Pool) (call : Call) :
    Except RoutingError Pool :=
  if s.isRuntime then (s.evaluated call pool).bind (s.conclude key pool <| some ·)
  else (s.planned baseline pool).bind (s.conclude key pool)

/-- Under a rule for all calls, all calls go the same way. -/
theorem destination_eq_of_not_runtime (h : s.isRuntime = false) (key : String) (baseline : Call)
    (pool : Pool) (call call' : Call) :
    s.destination key baseline pool call = s.destination key baseline pool call' := by
  simp only [destination, h, Bool.false_eq_true, if_false]

end Snapshot

namespace Chain

variable (c : Chain) (key : String) (s : Snapshot) (candidates : Candidates) (call : Call)

/-- A run that did not fail leaves a plan. -/
theorem servePlanned_eq :
    (c.servePlanned key s candidates).result =
        (s.planned c.baseline candidates.endpoints).bind (s.conclude key candidates.endpoints) ∧
      (c.servePlanned key s candidates).chain =
        match s.planned c.baseline candidates.endpoints with
        | .ok kept => { c with plan := some ⟨s.version, candidates.serial, kept⟩ }
        | .error _ => c := by
  unfold servePlanned Snapshot.planned
  cases s.plan c.baseline candidates.endpoints with
  | none => exact ⟨rfl, rfl⟩
  | some run =>
    obtain ⟨result, exclusions⟩ := run
    cases result <;> exact ⟨rfl, rfl⟩

theorem serve_of_runtime (h : s.isRuntime) :
    c.serve key s candidates call = c.serveCall key s candidates call := by
  rw [serve, if_pos h]

theorem serve_of_none (h : s.isRuntime = false) (hp : c.currentPlan? s candidates = none) :
    c.serve key s candidates call = c.servePlanned key s candidates := by
  rw [serve, h, hp]
  rfl

theorem serve_of_some (h : s.isRuntime = false) {p : Plan}
    (hp : c.currentPlan? s candidates = some p) :
    c.serve key s candidates call =
      { result := s.conclude key candidates.endpoints p.filtered, chain := c } := by
  rw [serve, h, hp]
  rfl

/-- A call leaves the chain as it is, or with a new plan for the snapshot and the pool. -/
theorem chain_serve :
    (c.serve key s candidates call).chain = c ∨
      ∃ kept, s.planned c.baseline candidates.endpoints = .ok kept ∧
        (c.serve key s candidates call).chain =
          { c with plan := some ⟨s.version, candidates.serial, kept⟩ } := by
  cases h : s.isRuntime with
  | true => exact Or.inl (by rw [serve_of_runtime _ _ _ _ _ h]; rfl)
  | false =>
    cases hp : c.currentPlan? s candidates with
    | some p => exact Or.inl (by rw [serve_of_some _ _ _ _ _ h hp])
    | none =>
      rw [serve_of_none _ _ _ _ _ h hp, (c.servePlanned_eq key s candidates).2]
      cases hk : s.planned c.baseline candidates.endpoints with
      | error e => exact Or.inl rfl
      | ok kept => exact Or.inr ⟨kept, rfl, rfl⟩

theorem result_serve_of_runtime (h : s.isRuntime) (baseline : Call) :
    (c.serve key s candidates call).result =
      s.destination key baseline candidates.endpoints call := by
  rw [serve_of_runtime _ _ _ _ _ h, Snapshot.destination, if_pos h]
  rfl

/-- A chain that has no plan for the call finds out by itself. -/
theorem result_serve_of_none (hp : c.currentPlan? s candidates = none) :
    (c.serve key s candidates call).result =
      s.destination key c.baseline candidates.endpoints call := by
  cases h : s.isRuntime with
  | true => exact c.result_serve_of_runtime key s candidates call h c.baseline
  | false =>
    rw [serve_of_none _ _ _ _ _ h hp, (c.servePlanned_eq key s candidates).1, Snapshot.destination,
      h]
    rfl

/-- A chain that has a plan for the call gives its destination if the plan is right. -/
theorem result_serve_of_some {p : Plan} (hp : c.currentPlan? s candidates = some p)
    (hk : s.planned c.baseline candidates.endpoints = .ok p.filtered) :
    (c.serve key s candidates call).result =
      s.destination key c.baseline candidates.endpoints call := by
  cases h : s.isRuntime with
  | true => exact c.result_serve_of_runtime key s candidates call h c.baseline
  | false =>
    rw [serve_of_some _ _ _ _ _ h hp, Snapshot.destination, h, hk]
    rfl

theorem currentPlan?_eq_some {p : Plan} (h : c.currentPlan? s candidates = some p) :
    c.plan = some p ∧ p.version = s.version ∧ p.serial = candidates.serial := by
  obtain ⟨hp, hcur⟩ := Option.filter_eq_some_iff.1 h
  simp only [Plan.isCurrent, Bool.and_eq_true, decide_eq_true_eq] at hcur
  exact ⟨hp, hcur⟩

end Chain
end CallRouting
