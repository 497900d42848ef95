import CallRouting.Proofs.Narrowing

/-!
# Calls that a matcher fails

A run gives each matcher what the one before it left, and ends with the first that fails. Then the
call fails too, and that is all that comes of it: no plan is made, and the one that is kept stays,
be it for this rule or for an earlier one.

* `Run.Passes`, `Run.StopsAt` : matchers of which none fails, and the first that does;
* `Run.ofMatchers_append` : what follows matchers that pass is a run on what they leave;
* `Run.ofMatchers_of_stopsAt` : so a run is settled by the matchers up to the first that fails;
* `Snapshot.destination_eq_matcher_iff` : only a run can fail a call in a matcher;
* `Chain.serve_of_failed_run` : a chain stays as it is when the run for a call fails;
* `Service.route_matcher_failure` : when a call fails in a matcher, and what is left of it.
-/

namespace CallRouting

/-! ## Runs -/

namespace Run

/-- Each matcher takes what the one before it left of the pool, and none fails. -/
inductive Passes (call : Call) : List Matcher → Pool → Pool → Prop
  | nil (pool : Pool) : Passes call [] pool pool
  | cons {m : Matcher} {ms : List Matcher} {pool left kept : Pool} (h : m.apply call pool = .ok left)
      (rest : Passes call ms left kept) : Passes call (m :: ms) pool kept

/-- The first matcher that fails is `m`: those before it pass, and it fails on what they leave. -/
structure StopsAt (call : Call) (ms : List Matcher) (pool : Pool) (before : List Matcher)
    (m : Matcher) (reason : String) : Prop where
  split : ∃ after, ms = before ++ m :: after
  fails : ∃ left, Passes call before pool left ∧ m.apply call left = .error reason

variable {call : Call} {ms : List Matcher} {pool : Pool}

theorem passes_or_stopsAt (call : Call) (ms : List Matcher) (pool : Pool) :
    (∃ kept, Passes call ms pool kept) ∨ ∃ before m reason, StopsAt call ms pool before m reason := by
  induction ms generalizing pool with
  | nil => exact Or.inl ⟨pool, .nil pool⟩
  | cons m ms ih =>
    cases h : m.apply call pool with
    | error reason => exact Or.inr ⟨[], m, reason, ⟨ms, rfl⟩, pool, .nil pool, h⟩
    | ok left =>
      rcases ih left with ⟨kept, hrest⟩ | ⟨before, m', reason, ⟨after, rfl⟩, left', hbefore, hfails⟩
      · exact Or.inl ⟨kept, .cons h hrest⟩
      · exact Or.inr ⟨m :: before, m', reason, ⟨after, rfl⟩, left', .cons h hbefore, hfails⟩

theorem exclusions_after (m : Matcher) (excluded : Nat) (r : Run) :
    (r.after m excluded).exclusions =
      (if excluded = 0 then [] else [(m.source, excluded)]) ++ r.exclusions := by
  unfold after
  split <;> rfl

/-- What follows matchers that pass is a run on what they leave. -/
theorem ofMatchers_append {before : List Matcher} {left : Pool} (h : Passes call before pool left)
    (ms : List Matcher) :
    ofMatchers call (before ++ ms) pool =
      { result := (ofMatchers call ms left).result
        exclusions := (ofMatchers call before pool).exclusions ++
          (ofMatchers call ms left).exclusions } := by
  induction h with
  | nil pool => rfl
  | cons hm _ ih =>
    simp only [List.cons_append, ofMatchers, hm]
    rw [ih]
    rw [mk.injEq, result_after, exclusions_after, exclusions_after, List.append_assoc]
    exact ⟨rfl, rfl⟩

theorem result_of_passes {kept : Pool} (h : Passes call ms pool kept) :
    (ofMatchers call ms pool).result = .ok kept := by
  have hrun := congrArg result (ofMatchers_append h [])
  rwa [List.append_nil] at hrun

/-- A run counts what was excluded before it stopped, and does not see what comes after. -/
theorem ofMatchers_of_stopsAt {before : List Matcher} {m : Matcher} {reason : String}
    (h : StopsAt call ms pool before m reason) :
    ofMatchers call ms pool =
      { result := .error (.matcher m.source reason)
        exclusions := (ofMatchers call before pool).exclusions } := by
  obtain ⟨⟨after, rfl⟩, left, hbefore, hfails⟩ := h
  rw [ofMatchers_append hbefore]
  simp only [ofMatchers, hfails, List.append_nil]

theorem StopsAt.replace {before : List Matcher} {m : Matcher} {reason : String}
    (h : StopsAt call ms pool before m reason) (later : List Matcher) :
    StopsAt call (before ++ m :: later) pool before m reason :=
  ⟨⟨later, rfl⟩, h.fails⟩

theorem result_eq_matcher_iff {clause reason : String} :
    (ofMatchers call ms pool).result = .error (.matcher clause reason) ↔
      ∃ before m, StopsAt call ms pool before m reason ∧ m.source = clause := by
  constructor
  · intro h
    rcases passes_or_stopsAt call ms pool with ⟨kept, hpass⟩ | ⟨before, m, reason', hstops⟩
    · rw [result_of_passes hpass] at h
      cases h
    · rw [ofMatchers_of_stopsAt hstops] at h
      cases h
      exact ⟨before, m, hstops, rfl⟩
  · rintro ⟨before, m, hstops, rfl⟩
    rw [ofMatchers_of_stopsAt hstops]

end Run

/-! ## Chains -/

namespace Snapshot

variable (s : Snapshot)

/-- The call that a run is for: the one that came, or the baseline of the chain. -/
def caller (baseline call : Call) : Call := if s.isRuntime then call else baseline

theorem conclude_ne_matcher (key : String) (pool : Pool) (kept : Option Pool)
    (clause reason : String) : s.conclude key pool kept ≠ .error (.matcher clause reason) := by
  unfold conclude
  split
  · exact nofun
  · split
    · exact nofun
    · split <;> exact nofun

theorem runTo_eq_matcher_iff (key : String) (pool : Pool) (call : Call) (clause reason : String) :
    s.runTo key pool call = .error (.matcher clause reason) ↔
      (s.run call pool).result = .error (.matcher clause reason) := by
  rw [runTo]
  cases (s.run call pool).result with
  | error e => exact Iff.rfl
  | ok kept =>
    refine iff_of_false (s.conclude_ne_matcher key pool (some kept) clause reason) ?_
    intro h
    cases h

/-- Only a run can fail a call in a matcher. -/
theorem destination_eq_matcher_iff (key : String) (baseline : Call) (pool : Pool) (call : Call)
    (clause reason : String) :
    s.destination key baseline pool call = .error (.matcher clause reason) ↔
      s.decides pool = true ∧
        (s.run (s.caller baseline call) pool).result = .error (.matcher clause reason) := by
  cases hv : s.rule.isValid with
  | false =>
    rw [destination_of_invalid _ _ _ _ _ hv, s.decides_of_invalid pool hv]
    exact ⟨nofun, nofun⟩
  | true =>
    by_cases hp : pool = []
    · subst hp
      rw [destination_nil _ _ _ _ hv, s.decides_eq [] hv]
      refine ⟨fun h => ?_, nofun⟩
      split at h <;> cases h
    · have hd : s.decides pool = true := by simpa [s.decides_eq pool hv] using hp
      rw [destination_eq_runTo _ _ _ _ _ hv hp, runTo_eq_matcher_iff, caller,
        s.isRuntime_of_isValid hv, hd]
      exact ⟨fun h => ⟨rfl, h⟩, And.right⟩

end Snapshot

namespace Chain

variable {c : Chain} {key : String} {s : Snapshot} {candidates : Candidates} {call : Call}

/-- A call that a matcher fails finds no plan. -/
theorem run_of_serve_eq_matcher {clause reason : String}
    (h : (c.serve key s candidates call).result = .error (.matcher clause reason)) :
    (s.isRuntime = true ∨ c.currentPlan? s candidates = none) ∧
      s.destination key c.baseline candidates.endpoints call =
        .error (.matcher clause reason) := by
  cases hr : s.isRuntime with
  | true =>
    rw [c.result_serve_of_runtime key s candidates call hr c.baseline] at h
    exact ⟨Or.inl rfl, h⟩
  | false =>
    cases hp : c.currentPlan? s candidates with
    | some p =>
      rw [c.serve_of_some key s candidates call hr hp] at h
      exact absurd h (s.conclude_ne_matcher key _ _ clause reason)
    | none =>
      rw [c.result_serve_of_none key s candidates call hp] at h
      exact ⟨Or.inr rfl, h⟩

/-- A chain without a plan for the call tells it why the run failed, and stays as it is. -/
theorem serve_of_failed_run {e : RoutingError}
    (hplan : s.isRuntime = true ∨ c.currentPlan? s candidates = none)
    (hd : s.decides candidates.endpoints = true)
    (hrun : (s.run (s.caller c.baseline call) candidates.endpoints).result = .error e) :
    c.serve key s candidates call =
      { result := .error e
        chain := c
        run := some (s.run (s.caller c.baseline call) candidates.endpoints) } := by
  cases hr : s.isRuntime with
  | true =>
    have hcaller : s.caller c.baseline call = call := if_pos hr
    rw [hcaller] at hrun ⊢
    rw [serve_of_runtime _ _ _ _ _ hr, serveCall]
    simp only [Snapshot.evaluated, Snapshot.evaluate, hd, if_true, hrun]
    rfl
  | false =>
    have hcaller : s.caller c.baseline call = c.baseline := if_neg (by simp [hr])
    have hruntime : s.rule.runtime = false := by
      rw [← s.isRuntime_of_isValid (Bool.and_eq_true_iff.1 hd).2, hr]
    have hnone : c.currentPlan? s candidates = none := hplan.resolve_left (by simp [hr])
    rw [hcaller] at hrun ⊢
    rw [serve_of_none _ _ _ _ _ hr hnone, servePlanned]
    simp only [Snapshot.plan, hd, hruntime, Bool.not_false, Bool.and_self, if_true, hrun]

end Chain

/-! ## Services -/

namespace Service

theorem Reachable.baseline_eq {compiler : Compiler} {key : String} {baseline : Call} {s : Service}
    (h : s.Reachable compiler key baseline) : s.chain.baseline = baseline := by
  obtain ⟨text, router, capacity, pool, events, -, rfl⟩ := h
  exact (Session.run_sound router capacity baseline pool events).1.baseline_eq

/-- A matcher in force is that of the clause in its place. -/
theorem Reachable.compiled {compiler : Compiler} {key : String} {baseline : Call} {s : Service}
    (h : s.Reachable compiler key baseline) {before after : List Matcher} {m : Matcher}
    (hsplit : s.router.active.matchers = before ++ m :: after) :
    s.router.active.rule.isValid = true ∧
      ∃ text, s.router.active.rule.conditions[before.length]? = some text ∧
        compiler text s.router.active.rule.force = .ok m := by
  have hm := h.matchersOf_eq
  rw [hsplit, Snapshot.matchersOf] at hm
  split at hm
  · next hv =>
    obtain ⟨hlength, hget⟩ := mapM_getElem? hm
    have hlt : before.length < s.router.active.rule.conditions.length := by
      rw [← hlength, List.length_append, List.length_cons]
      omega
    obtain ⟨m', hm', hplace⟩ := hget _ _ (List.getElem?_eq_getElem hlt)
    rw [List.getElem?_append_right (Nat.le_refl _), Nat.sub_self] at hplace
    cases hplace
    exact ⟨hv, _, List.getElem?_eq_getElem hlt, hm'⟩
  · have hnil := Except.ok.inj hm
    simp at hnil

/-- A call whose run stops is told where, and nothing but counters changes. What comes after the
matcher that fails is not in the result. -/
theorem routeWith_of_stopsAt {s : Service} {snapshot : Snapshot} {candidates : Candidates}
    {call : Call} {before : List Matcher} {m : Matcher} {reason : String}
    (hplan : snapshot.isRuntime = true ∨ s.chain.currentPlan? snapshot candidates = none)
    (hd : snapshot.decides candidates.endpoints = true)
    (hstops : Run.StopsAt (snapshot.caller s.chain.baseline call) snapshot.matchers
      candidates.endpoints before m reason) :
    s.routeWith snapshot candidates call =
      (.error (.matcher m.source reason),
        { s with
          meters := { s.meters with
            exclusions := (s.meters.addRun
              (.ofMatchers (snapshot.caller s.chain.baseline call) before candidates.endpoints)
              ).exclusions } }) := by
  have hrun := Run.ofMatchers_of_stopsAt hstops
  have hserve : s.chain.serve s.router.key snapshot candidates call = _ :=
    Chain.serve_of_failed_run hplan hd (congrArg Run.result hrun)
  simp only [routeWith, hserve, Snapshot.run, hrun, Meters.addRun?, Option.elim_some, Meters.addRun]

/-- **A matcher that fails takes down one call.** However rules, pools and calls have come, and
whatever plan is kept, a call fails in a matcher exactly if the run for it comes to one that fails,
and it is told of the first; that is the matcher of the clause in its place. The matchers after it
might be any others. Of the service nothing is changed but the counters of what the clauses before it
excluded: neither the snapshot in force nor the pool or the plan, nor the listener, nor the number of
runs. -/
theorem route_matcher_failure {compiler : Compiler} {key : String} {baseline : Call} {s : Service}
    (h : s.Reachable compiler key baseline) (call : Call) :
    let active := s.router.active
    let pool := s.chain.candidates.endpoints
    let caller := active.caller baseline call
    (∀ clause reason, (s.route call).1 = .error (.matcher clause reason) ↔
        pool ≠ [] ∧ ∃ before m, Run.StopsAt caller active.matchers pool before m reason ∧
          m.source = clause) ∧
      ∀ before m reason, pool ≠ [] → Run.StopsAt caller active.matchers pool before m reason →
        (∃ text, active.rule.conditions[before.length]? = some text ∧
            compiler text active.rule.force = .ok m) ∧
          (∀ later, s.routeWith { active with matchers := before ++ m :: later }
            s.chain.candidates call = s.route call) ∧
          (s.route call).2 = { s with
            meters := { s.meters with
              exclusions := (s.meters.addRun (.ofMatchers caller before pool)).exclusions } } := by
  intro active pool caller
  have hfails : ∀ clause reason, (s.route call).1 = .error (.matcher clause reason) ↔
      pool ≠ [] ∧ ∃ before m, Run.StopsAt caller active.matchers pool before m reason ∧
        m.source = clause := by
    intro clause reason
    rw [h.result_route, Snapshot.destination_eq_matcher_iff, Snapshot.run,
      Run.result_eq_matcher_iff]
    refine and_congr_left ?_
    rintro ⟨before, m, ⟨⟨after, hsplit⟩, -⟩, -⟩
    rw [Snapshot.decides_eq _ _ (h.compiled hsplit).1]
    simp [pool]
  refine ⟨hfails, fun before m reason hpool hstops => ?_⟩
  obtain ⟨hplan, hdestination⟩ := Chain.run_of_serve_eq_matcher
    ((hfails m.source reason).2 ⟨hpool, before, m, hstops, rfl⟩)
  obtain ⟨hd, -⟩ := (Snapshot.destination_eq_matcher_iff _ _ _ _ _ _ _).1 hdestination
  obtain ⟨after, hsplit⟩ := hstops.split
  have hbaseline : caller = active.caller s.chain.baseline call := by rw [h.baseline_eq]
  rw [hbaseline] at hstops ⊢
  have hroute : s.route call = _ := routeWith_of_stopsAt hplan hd hstops
  refine ⟨(h.compiled hsplit).2, fun later => ?_, congrArg Prod.snd hroute⟩
  rw [hroute]
  have hlater : Run.StopsAt (Snapshot.caller { active with matchers := before ++ m :: later }
      s.chain.baseline call) (before ++ m :: later) pool before m reason := hstops.replace later
  exact routeWith_of_stopsAt hplan hd hlater

/-- A service that has a plan for one rule, and then took a forced rule of which the first clause
leaves nothing and the second one fails. -/
def drilled : Service :=
  ((Session.mk (.ofRouter ⟨"k", Compiler.drills, .absent, [], 1⟩ 16 {} (hosts ["a", "b"])) []).run
    [.operation (.installRule { conditions := ["=> host = b"] }), .call 1 0 {},
      .operation (.installRule
        { conditions := ["=> host = c", "fail", "=> host = b"], force := true })]).now

theorem reachable_drilled : drilled.Reachable Compiler.drills "k" {} :=
  ⟨none, _, 16, _, _, rfl, rfl⟩

theorem route_matcher_failure_drilled :
    drilled.router.active.version = 3 ∧ drilled.chain.plan = some ⟨2, 0, some (hosts ["b"])⟩ ∧
      (drilled.route {}).1 = .error (.matcher "fail" "lookup backend unavailable") ∧
      (∃ before m, Run.StopsAt {} drilled.router.active.matchers drilled.chain.candidates.endpoints
        before m "lookup backend unavailable" ∧ m.source = "fail") ∧
      (drilled.route {}).2.chain.plan = drilled.chain.plan ∧
      (drilled.route {}).2.meters.runs = drilled.meters.runs := by
  obtain ⟨e, herror, he⟩ : ∃ e, (drilled.route {}).1 = .error e ∧
      decide (e = .matcher "fail" "lookup backend unavailable") = true :=
    exists_error_of (by decide +kernel)
  rw [of_decide_eq_true he] at herror
  obtain ⟨hfails, heffect⟩ := route_matcher_failure reachable_drilled {}
  obtain ⟨hpool, before, m, hstops, hsource⟩ := (hfails _ _).1 herror
  have hstate := (heffect before m _ hpool hstops).2.2
  rw [show drilled.router.active.caller {} {} = {} from ite_self _] at hstops
  exact ⟨by decide +kernel, by decide +kernel, herror, ⟨before, m, hstops, hsource⟩,
    congrArg (·.chain.plan) hstate, congrArg (·.meters.runs) hstate⟩

end Service
end CallRouting
