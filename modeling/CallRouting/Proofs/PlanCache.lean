import CallRouting.Proofs.ServiceRun

/-!
# The plan does not show

A chain keeps a plan for all calls. Rules and pools change while it is kept, and a call that is late
may put a plan there that was already outdated when it came. Still nobody is ever served a plan that
is not for the snapshot and the pool of the call: the plan says which ones it was made from, and the
numbers by which it does so are never used twice.

* `Plan.MadeFrom` : the plan is the one for this snapshot and this pool;
* `Session.Planned` : the plan was made from what was current at some moment; every step keeps that;
* `Session.result_answer` : so a call goes where it would go with no plan;
* `Session.result_route_ofRouter` : which is where a new service sends it.
-/

namespace CallRouting

/-- The plan is the one for this snapshot and this pool. -/
structure Plan.MadeFrom (p : Plan) (baseline : Call) (s : Snapshot) (c : Candidates) : Prop where
  version : p.version = s.version
  serial : p.serial = c.serial
  filtered : s.planned baseline c.endpoints = .ok p.filtered

namespace Session

variable {s : Session} {key : String} {baseline : Call}

/-- The plan was made from a snapshot and a pool that were current at some moment. -/
def Planned (s : Session) (baseline : Call) : Prop :=
  ∀ p, s.now.chain.plan = some p → ∃ a ∈ s.states, ∃ b ∈ s.states,
    p.MadeFrom baseline a.router.active b.chain.candidates

theorem planned_nil {s : Service} (h : s.chain.plan = none) (baseline : Call) :
    Planned { now := s } baseline := by
  intro p hp
  rw [h] at hp
  cases hp

theorem Planned.step_operation (h : s.Planned baseline) (o : Service.Operation) :
    (s.step (.operation o)).Planned baseline := by
  intro p hp
  rcases s.now.chain_perform o with hc | ⟨pool, hc⟩ | hc
  · obtain ⟨a, ha, b, hb, hmade⟩ := h p (by rwa [← hc])
    exact ⟨a, mem_states_step ha _, b, mem_states_step hb _, hmade⟩
  · simp only [Session.step, hc] at hp
    cases hp
  · simp only [Session.step, hc] at hp
    cases hp

theorem Planned.step_call (h : s.Planned baseline) (hs : s.Sound key baseline) (i j : Nat)
    (call : Call) : (s.step (.call i j call)).Planned baseline := by
  intro p hp
  rw [chain_step_call] at hp
  rcases s.now.chain.chain_serve s.now.router.key
    (s.moment i).router.active (s.moment j).chain.candidates call with hc | ⟨kept, hk, hc⟩
  · rw [hc] at hp
    obtain ⟨a, ha, b, hb, hmade⟩ := h p hp
    exact ⟨a, mem_states_step ha _, b, mem_states_step hb _, hmade⟩
  · -- However late the call was, its plan is right for what it took.
    rw [hc, Option.some.injEq] at hp
    subst hp
    rw [hs.baseline_eq] at hk
    exact ⟨_, mem_states_step (s.moment_mem i) _, _, mem_states_step (s.moment_mem j) _,
      rfl, rfl, hk⟩

theorem Planned.step (h : s.Planned baseline) (hs : s.Sound key baseline) (e : Event) :
    (s.step e).Planned baseline := by
  cases e with
  | operation o => exact h.step_operation o
  | call i j call => exact h.step_call hs i j call

/-- A call goes where it would go with no plan. -/
theorem result_answer (hs : s.Sound key baseline) (hp : s.Planned baseline) (i j : Nat)
    (call : Call) :
    (s.answer i j call).1 = (s.moment i).router.active.destination key baseline
      (s.moment j).chain.candidates.endpoints call := by
  show (s.now.chain.serve s.now.router.key _ _ call).result = _
  rw [hs.key_eq, ← hs.baseline_eq]
  cases hcur : s.now.chain.currentPlan? (s.moment i).router.active
      (s.moment j).chain.candidates with
  | none => exact s.now.chain.result_serve_of_none key _ _ call hcur
  | some p =>
    obtain ⟨hplan, hversion, hserial⟩ := s.now.chain.currentPlan?_eq_some _ _ hcur
    obtain ⟨a, ha, b, hb, hmade⟩ := hp p hplan
    have hsnapshot := hs.snapshot_eq ha (s.moment_mem i) (hmade.version.symm.trans hversion)
    have hpool := hs.candidates_eq hb (s.moment_mem j) (hmade.serial.symm.trans hserial)
    refine s.now.chain.result_serve_of_some key _ _ call hcur ?_
    rw [← hsnapshot, ← hpool, hs.baseline_eq]
    exact hmade.filtered

/-- Where a new service sends a call. -/
theorem result_route_ofRouter (router : Router) (capacity : Nat) (baseline : Call) (pool : Pool)
    (call : Call) :
    ((Service.ofRouter router capacity baseline pool).route call).1 =
      router.active.destination router.key baseline pool call :=
  (Chain.ofPool baseline pool).result_serve_of_none router.key router.active { endpoints := pool }
    call rfl

theorem run_sound (router : Router) (capacity : Nat) (baseline : Call) (pool : Pool)
    (events : List Event) :
    let s := (Session.mk (.ofRouter router capacity baseline pool) []).run events
    s.Sound router.key baseline ∧ s.Planned baseline :=
  run_induction (P := fun s => s.Sound router.key baseline ∧ s.Planned baseline)
    (fun _ e ⟨hs, hp⟩ => ⟨hs.step e, hp.step hs e⟩) ⟨sound_nil _, planned_nil rfl baseline⟩ events

/-- **The plan does not show.** However rules, pools and calls have come, a call is answered as by a
new service that has the snapshot in force and the pool that the call took. Under a rule for all
calls, it is answered as any other call. -/
theorem answer_eq_route (router : Router) (capacity : Nat) (baseline : Call) (pool : Pool)
    (events : List Event) (i j : Nat) (call : Call) :
    let s := (Session.mk (.ofRouter router capacity baseline pool) []).run events
    let snapshot := (s.moment i).router.active
    let candidates := (s.moment j).chain.candidates
    (s.answer i j call).1 =
        ((Service.ofRouter { router with active := snapshot } capacity baseline
          candidates.endpoints).route call).1 ∧
      (snapshot.isRuntime = false → ∀ call', (s.answer i j call).1 = (s.answer i j call').1) := by
  intro s snapshot candidates
  obtain ⟨hs, hp⟩ := run_sound router capacity baseline pool events
  have hanswer := result_answer hs hp i j
  refine ⟨?_, fun hruntime call' => ?_⟩
  · rw [result_route_ofRouter]
    exact hanswer call
  · rw [hanswer call, hanswer call']
    exact snapshot.destination_eq_of_not_runtime hruntime router.key baseline _ call call'

/-- A router whose clauses each name the one endpoint that they leave. -/
def byId : Router where
  key := "k"
  compiler text _ := .ok { source := text, apply := fun _ pool => .ok (pool.filter (·.id = text)) }
  active := ⟨.absent, [], 1⟩

/-- A rule comes and another one after it, and then a call that took the first one. -/
def lateCall : List Event :=
  [.operation (.installRule { conditions := ["a"] }),
    .operation (.installRule { conditions := ["b"] }), .call 1 0 {}]

/-- The plan of the late call is kept, and nobody else is served it. -/
theorem answer_after_lateCall :
    let pool : Pool := [⟨"a", "10.0.0.1", 0, .empty⟩, ⟨"b", "10.0.0.2", 0, .empty⟩]
    let s := (Session.mk (.ofRouter byId 16 {} pool) []).run lateCall
    s.now.chain.plan = some ⟨2, 0, some [⟨"a", "10.0.0.1", 0, .empty⟩]⟩ ∧
      s.now.router.active.version = 3 ∧
      (s.answer 3 3 {}).1.toOption = some [⟨"b", "10.0.0.2", 0, .empty⟩] ∧
      (s.answer 3 3 {}).1 = (s.answer 3 3 { method := some "get" }).1 := by
  intro pool s
  have h := answer_eq_route byId 16 {} pool lateCall 3 3 {}
  refine ⟨by decide +kernel, by decide +kernel, ?_, h.2 (by decide +kernel) _⟩
  rw [h.1]
  decide +kernel

end Session
end CallRouting
