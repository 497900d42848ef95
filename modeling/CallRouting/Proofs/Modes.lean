import CallRouting.Proofs.Operations

/-!
# Rules for single calls and for all calls

A rule for single calls filters the pool for every call anew; a rule for all calls filters it once,
for the baseline of the chain, and keeps the result. Apart from that the two mean the same, so a
call should go the same way under either, if the baseline is that call.

* `Snapshot.runTo` : where a call goes after a run of the matchers;
* `Snapshot.destination_eq_runTo`, `Snapshot.destination_nil` : where it goes with and without one;
* `Snapshot.Twins` : two snapshots of one rule that differ in this alone;
* `Snapshot.Twins.destination_eq_iff` : they agree but for an empty pool under a forced rule, which
  fails single calls and lets all calls pass;
* `Service.modes_agree_iff` : so do two services, whatever plans they keep.
-/

namespace CallRouting

namespace Snapshot

section

variable (s : Snapshot) (key : String) (baseline call : Call) (pool : Pool)

/-- Where a call goes after a run for this one. -/
def runTo (call : Call) : Except RoutingError Pool :=
  (s.run call pool).result.bind (s.conclude key pool <| some ·)

theorem isRuntime_of_isValid (h : s.rule.isValid) : s.isRuntime = s.rule.runtime := by
  rw [isRuntime, h, Bool.true_and]

theorem decides_eq (h : s.rule.isValid) : s.decides pool = !pool.isEmpty := by
  rw [decides, h, Bool.and_true]

theorem decides_of_invalid (h : s.rule.isValid = false) : s.decides pool = false := by
  rw [decides, h, Bool.and_false]

theorem planned_of_not_decides (h : s.decides pool = false) :
    s.planned baseline pool = .ok none := by
  rw [planned, plan, h]
  rfl

/-- A rule that decides runs for the call itself, or for the baseline. -/
theorem destination_eq_runTo (hv : s.rule.isValid) (hp : pool ≠ []) :
    s.destination key baseline pool call =
      s.runTo key pool (if s.rule.runtime then call else baseline) := by
  have hd : s.decides pool = true := by
    rw [s.decides_eq pool hv, Bool.not_eq_true', List.isEmpty_eq_false_iff]
    exact hp
  rw [destination, s.isRuntime_of_isValid hv]
  cases hr : s.rule.runtime with
  | true => simp only [if_true, evaluated, evaluate, hd, runTo]
  | false =>
    have hplan : s.plan baseline pool = some (s.run baseline pool) := by
      rw [plan, hd, hr]
      rfl
    simp only [Bool.false_eq_true, if_false, planned, hplan, runTo]
    cases (s.run baseline pool).result <;> rfl

/-- A rule that is not valid sends every call to the whole pool. -/
theorem destination_of_invalid (hv : s.rule.isValid = false) :
    s.destination key baseline pool call = .ok pool := by
  have hr : s.isRuntime = false := by rw [isRuntime, hv, Bool.false_and]
  rw [destination, hr, s.planned_of_not_decides baseline pool (s.decides_of_invalid pool hv)]
  rfl

/-- An empty pool is an empty result for single calls, and no decision for all calls. -/
theorem destination_nil (hv : s.rule.isValid) :
    s.destination key baseline [] call =
      if s.rule.runtime ∧ s.rule.force then .error (.forcedEmpty key) else .ok [] := by
  have hd : s.decides [] = false := s.decides_eq [] hv
  rw [destination, s.isRuntime_of_isValid hv, s.planned_of_not_decides baseline [] hd, evaluated,
    evaluate, hd]
  cases s.rule.runtime with
  | true =>
    show s.conclude key [] (some []) = _
    cases hf : s.rule.force <;> simp [conclude, isForce, hf]
  | false => rfl

end

/-- Two snapshots of one rule, the first for single calls and the second for all calls. -/
structure Twins (rule : Rule) (single all : Snapshot) : Prop where
  rule_single : single.rule = { rule with runtime := true }
  rule_all : all.rule = { rule with runtime := false }
  matchers : single.matchers = all.matchers

namespace Twins

variable {rule : Rule} {single all : Snapshot} (h : Twins rule single all)

include h

theorem isValid_single : single.rule.isValid = rule.isValid := by
  rw [h.rule_single]
  rfl

theorem isValid_all : all.rule.isValid = rule.isValid := by
  rw [h.rule_all]
  rfl

theorem runTo_eq (key : String) (pool : Pool) (call : Call) :
    single.runTo key pool call = all.runTo key pool call := by
  have hrun : single.run call pool = all.run call pool := by rw [run, run, h.matchers]
  have hforce : single.isForce = all.isForce := by rw [isForce, isForce, h.rule_single, h.rule_all]
  have hconclude : single.conclude key pool = all.conclude key pool := by
    funext kept
    cases kept <;> simp only [conclude, hforce]
  rw [runTo, runTo, hrun, hconclude]

theorem runtime_single : single.rule.runtime = true := by rw [h.rule_single]

theorem runtime_all : all.rule.runtime = false := by rw [h.rule_all]

/-- A call goes the same way under either rule, except to an empty pool under a forced rule. -/
theorem destination_eq_iff (key : String) (pool : Pool) (baseline call other : Call) :
    single.destination key baseline pool call = all.destination key call pool other ↔
      ¬ (pool = [] ∧ rule.isValid ∧ rule.force) := by
  cases hv : rule.isValid with
  | false =>
    rw [destination_of_invalid _ _ _ _ _ (h.isValid_single.trans hv),
      destination_of_invalid _ _ _ _ _ (h.isValid_all.trans hv)]
    simp
  | true =>
    have hv₁ := h.isValid_single.trans hv
    have hv₂ := h.isValid_all.trans hv
    by_cases hp : pool = []
    · subst hp
      rw [destination_nil _ _ _ _ hv₁, destination_nil _ _ _ _ hv₂, h.rule_single, h.rule_all]
      cases rule.force <;> simp
    · rw [destination_eq_runTo _ _ _ _ _ hv₁ hp, destination_eq_runTo _ _ _ _ _ hv₂ hp,
        h.runtime_single, h.runtime_all]
      simp only [if_true, Bool.false_eq_true, if_false, h.runTo_eq, hp, false_and, not_false_eq_true]

end Twins
end Snapshot

namespace Service

variable {compiler : Compiler} {key : String}

/-- The snapshots of two services with the same compiler. -/
theorem Reachable.twins {baseline₁ baseline₂ : Call} {single all : Service} {rule : Rule}
    (h₁ : single.Reachable compiler key baseline₁) (h₂ : all.Reachable compiler key baseline₂)
    (hsingle : single.router.active.rule = { rule with runtime := true })
    (hall : all.router.active.rule = { rule with runtime := false }) :
    Snapshot.Twins rule single.router.active all.router.active := by
  refine ⟨hsingle, hall, ?_⟩
  have hm₁ := h₁.matchersOf_eq
  have hm₂ := h₂.matchersOf_eq
  rw [hsingle] at hm₁
  rw [hall] at hm₂
  -- What is compiled does not depend on the mode.
  exact Except.ok.inj (hm₁.symm.trans hm₂)

/-- **When the two modes agree.** Whatever plans two services keep, the one under a rule for single
calls and the other under the same rule for all calls, with the call as its baseline, they answer
the call in the same way; except that an empty pool under a forced rule fails the single call only.
Either rule can be in force if the other can. -/
theorem modes_agree_iff (rule : Rule) (pool : Pool) (call : Call) :
    (compiler.admits { rule with runtime := true } ↔
      compiler.admits { rule with runtime := false }) ∧
    ∀ (baseline : Call) (single all : Service), single.Reachable compiler key baseline →
      all.Reachable compiler key call →
      single.router.active.rule = { rule with runtime := true } →
      all.router.active.rule = { rule with runtime := false } →
      single.chain.candidates.endpoints = pool → all.chain.candidates.endpoints = pool →
      ∀ other, ((single.route call).1 = (all.route other).1 ↔
        ¬ (pool = [] ∧ rule.isValid ∧ rule.force)) := by
  refine ⟨?_, fun baseline single all h₁ h₂ hsingle hall hpool₁ hpool₂ other => ?_⟩
  · rw [Snapshot.admits_iff, Snapshot.admits_iff]
    rfl
  · rw [h₁.result_route, h₂.result_route, hpool₁, hpool₂]
    exact (h₁.twins h₂ hsingle hall).destination_eq_iff key pool baseline call other

/-- A service that was asked to filter for host `b`, and after a call took this rule. -/
def retuned (rule : Rule) (baseline : Call) (pool : Pool) : Service :=
  ((Session.mk (.ofRouter ⟨"k", Compiler.clauses, .absent, [], 1⟩ 16 baseline pool) []).run
    [.operation (.installRule { conditions := ["=> host = b"] }), .call 1 0 {},
      .operation (.installRule rule), .call 1 0 {}]).now

theorem reachable_retuned (rule : Rule) (baseline : Call) (pool : Pool) :
    (retuned rule baseline pool).Reachable Compiler.clauses "k" baseline :=
  ⟨none, _, 16, pool, _, rfl, rfl⟩

def hosts : List String → Pool := List.map fun host => { id := host, host }

/-- The call decides, though both services keep a plan of another rule. -/
theorem modes_agree_retuned :
    let rule : Rule := { conditions := ["method = get => host = a"], force := true }
    let call : Call := { method := some "get" }
    let single := retuned { rule with runtime := true } {} (hosts ["a", "b"])
    let all := retuned { rule with runtime := false } call (hosts ["a", "b"])
    single.chain.plan ≠ none ∧ all.chain.plan ≠ none ∧
      (single.route call).1 = (all.route {}).1 ∧ (all.route {}).1.toOption = some (hosts ["a"]) := by
  intro rule call single all
  refine ⟨by decide +kernel, by decide +kernel, ?_, by decide +kernel⟩
  exact ((modes_agree_iff rule (hosts ["a", "b"]) call).2 {} single all
    (reachable_retuned _ _ _) (reachable_retuned _ _ _) (by decide +kernel) (by decide +kernel)
    (by decide +kernel) (by decide +kernel) {}).2 (by decide +kernel)

/-- An empty pool under a forced rule fails a single call and lets all calls pass. -/
theorem not_modes_agree :
    ¬ ∀ (compiler : Compiler) (key : String) (rule : Rule) (pool : Pool) (call baseline : Call)
      (single all : Service), single.Reachable compiler key baseline →
        all.Reachable compiler key call →
        single.router.active.rule = { rule with runtime := true } →
        all.router.active.rule = { rule with runtime := false } →
        single.chain.candidates.endpoints = pool → all.chain.candidates.endpoints = pool →
        (single.route call).1 = (all.route call).1 := by
  intro h
  let rule : Rule := { conditions := ["=> host = a"], force := true }
  have h1 := h Compiler.clauses "k" rule [] {} {} (retuned { rule with runtime := true } {} [])
    (retuned { rule with runtime := false } {} []) (reachable_retuned _ {} [])
    (reachable_retuned _ {} []) (by decide +kernel) (by decide +kernel) (by decide +kernel)
    (by decide +kernel)
  have h2 := congrArg Except.toOption h1
  revert h2
  decide +kernel

end Service
end CallRouting
