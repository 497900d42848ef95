import CallRouting.Proofs.Modes
import CallRouting.Proofs.Versions

/-!
# Clauses narrow the pool

Clause after clause, a pool only ever loses endpoints. So a call goes to endpoints of the pool that
the chain has now, in their order, and to none of them only if there are none; a rule that is not
forced never fails a call.

* `Clause.applyAll` : what is left of a pool after one clause after the other;
* `Clause.applyAll_sublist` : some of its endpoints, in order;
* `Snapshot.Clausal` : the matchers of a snapshot are those of clauses, so a run cannot fail;
* `Pool.Eligible` : endpoints that a call to the pool may go to;
* `Snapshot.Settles`, `Clausal.settles_destination` : where a call goes, or why it goes nowhere;
* `Service.route_eligible` : the same for a service after any operations and calls.
-/

namespace CallRouting

/-! ## Clauses -/

namespace Clause

theorem apply_sublist (c : Clause) (call : Call) (pool : Pool) :
    (c.apply call pool).Sublist pool := by
  unfold apply
  split
  · exact List.Sublist.refl pool
  · split
    · exact List.nil_sublist pool
    · dsimp only
      split
      · exact List.Sublist.refl pool
      · exact List.filter_sublist

/-- What is left of a pool after one clause after the other. -/
def applyAll (cs : List Clause) (call : Call) (pool : Pool) : Pool :=
  cs.foldl (fun pool c => c.apply call pool) pool

theorem applyAll_sublist (cs : List Clause) (call : Call) (pool : Pool) :
    (applyAll cs call pool).Sublist pool := by
  induction cs generalizing pool with
  | nil => exact List.Sublist.refl pool
  | cons c cs ih => exact (ih (c.apply call pool)).trans (c.apply_sublist call pool)

end Clause

/-! ## Runs -/

theorem Run.result_after (m : Matcher) (excluded : Nat) (r : Run) :
    (r.after m excluded).result = r.result := by
  unfold after
  split <;> rfl

/-- The matchers of clauses do not fail. -/
theorem Run.result_ofMatchers (cs : List Clause) (call : Call) (pool : Pool) :
    (ofMatchers call (cs.map Clause.matcher) pool).result = .ok (Clause.applyAll cs call pool) := by
  induction cs generalizing pool with
  | nil => rfl
  | cons c cs ih =>
    simp only [List.map_cons, ofMatchers, Clause.matcher]
    rw [result_after]
    exact ih (c.apply call pool)

/-- The clauses of a rule are compiled one by one. -/
theorem mapM_clauses_eq_ok {texts : List String} {force : Bool} {ms : List Matcher} :
    texts.mapM (Compiler.clauses · force) = .ok ms ↔
      ∃ cs, texts.mapM (Clause.compile · force) = .ok cs ∧ ms = cs.map Clause.matcher := by
  have hmatchers : texts.mapM (Compiler.clauses · force) = _ :=
    mapM_map_eq (Clause.compile · force) Clause.matcher texts
  rw [hmatchers]
  cases texts.mapM (Clause.compile · force) with
  | error e => exact ⟨nofun, fun ⟨_, h, _⟩ => nomatch h⟩
  | ok cs =>
    refine ⟨fun h => ⟨cs, rfl, (Except.ok.inj h).symm⟩, ?_⟩
    rintro ⟨_, ⟨⟩, rfl⟩
    rfl

namespace Snapshot

/-- The matchers are those of these clauses, which are all that the rule has if it is valid. -/
structure Clausal (s : Snapshot) (cs : List Clause) : Prop where
  compiled : s.rule.isValid → s.rule.conditions.mapM (Clause.compile · s.rule.force) = .ok cs
  nil : s.rule.isValid = false → cs = []
  matchers : s.matchers = cs.map Clause.matcher

theorem exists_clausal {s : Snapshot}
    (h : matchersOf Compiler.clauses s.rule = .ok s.matchers) : ∃ cs, s.Clausal cs := by
  unfold matchersOf at h
  split at h
  · next hv =>
    obtain ⟨cs, hcs, hms⟩ := mapM_clauses_eq_ok.1 h
    exact ⟨cs, fun _ => hcs, fun hno => absurd hv (by simp [hno]), hms⟩
  · next hv => exact ⟨[], fun h => absurd h hv, fun _ => rfl, (Except.ok.inj h).symm⟩

theorem Clausal.result_run {s : Snapshot} {cs : List Clause} (h : s.Clausal cs) (call : Call)
    (pool : Pool) : (s.run call pool).result = .ok (Clause.applyAll cs call pool) := by
  rw [run, h.matchers]
  exact Run.result_ofMatchers cs call pool

end Snapshot

/-! ## Destinations -/

/-- Some endpoints of the pool, in its order, and none of them only if there are none. -/
structure Pool.Eligible (pool kept : Pool) : Prop where
  sublist : kept.Sublist pool
  ne_nil : pool ≠ [] → kept ≠ []

theorem Pool.Eligible.refl (pool : Pool) : pool.Eligible pool :=
  ⟨List.Sublist.refl pool, id⟩

namespace Snapshot

variable {s : Snapshot} (key : String) (pool : Pool)

/-- Where a call may go: somewhere eligible, or nowhere if the rule is forced. -/
def Settles (s : Snapshot) (key : String) (pool : Pool) (r : Except RoutingError Pool) : Prop :=
  (∃ kept, r = .ok kept ∧ pool.Eligible kept) ∨ (r = .error (.forcedEmpty key) ∧ s.isForce)

theorem settles_conclude {kept : Pool} (h : kept.Sublist pool) :
    s.Settles key pool (s.conclude key pool (some kept)) := by
  simp only [conclude]
  split
  · next hkept =>
    have hne : kept ≠ [] := by simpa using hkept
    exact Or.inl ⟨kept, rfl, h, fun _ => hne⟩
  · split
    · next hforce => exact Or.inr ⟨rfl, hforce⟩
    · exact Or.inl ⟨pool, rfl, .refl pool⟩

theorem Clausal.settles_destination {cs : List Clause} (h : s.Clausal cs) (baseline call : Call) :
    s.Settles key pool (s.destination key baseline pool call) := by
  cases hv : s.rule.isValid with
  | false =>
    rw [destination_of_invalid _ _ _ _ _ hv]
    exact Or.inl ⟨pool, rfl, .refl pool⟩
  | true =>
    by_cases hp : pool = []
    · subst hp
      rw [destination_nil _ _ _ _ hv]
      split
      · next hforce => exact Or.inr ⟨rfl, hforce.2⟩
      · exact Or.inl ⟨[], rfl, .refl []⟩
    · rw [destination_eq_runTo _ _ _ _ _ hv hp, runTo, h.result_run]
      exact settles_conclude key pool (Clause.applyAll_sublist cs _ pool)

end Snapshot

/-! ## Services -/

namespace Service

/-- **Calls go to eligible endpoints.** However rules, pools and calls have come, a call that goes
anywhere goes to endpoints of the pool that the chain has now, in their order, and to none only if
there are none. If it goes nowhere, the rule in force is forced and leaves nothing of the pool; under
a rule that is not forced every call goes somewhere. -/
theorem route_eligible {key : String} {baseline : Call} {s : Service}
    (h : s.Reachable Compiler.clauses key baseline) (call : Call) :
    (∀ kept, (s.route call).1 = .ok kept →
        kept.Sublist s.chain.candidates.endpoints ∧
          (s.chain.candidates.endpoints ≠ [] → kept ≠ [])) ∧
      (∀ e, (s.route call).1 = .error e → e = .forcedEmpty key) ∧
      (s.router.active.isForce = false → ∃ kept, (s.route call).1 = .ok kept) := by
  obtain ⟨cs, hcs⟩ := Snapshot.exists_clausal h.matchersOf_eq
  rw [h.result_route]
  rcases hcs.settles_destination key s.chain.candidates.endpoints baseline call with
    ⟨kept, hk, heligible⟩ | ⟨he, hforce⟩
  · rw [hk]
    refine ⟨?_, nofun, fun _ => ⟨kept, rfl⟩⟩
    rintro _ ⟨⟩
    exact ⟨heligible.sublist, heligible.ne_nil⟩
  · rw [he]
    refine ⟨nofun, ?_, fun hno => ?_⟩
    · rintro _ ⟨⟩
      rfl
    · rw [hforce] at hno
      cases hno

/-- Of two clauses the first leaves one host and the second, which would leave none, is passed
over. -/
theorem route_eligible_passedOver :
    let rule : Rule := { conditions := ["=> host = a", "=> host = c"] }
    let s := retuned rule {} (hosts ["b", "a"])
    (s.route {}).1.toOption = some (hosts ["a"]) ∧ (hosts ["a"]).Sublist (hosts ["b", "a"]) ∧
      ∀ call, ∃ kept, (s.route call).1 = .ok kept := by
  intro rule s
  have hs : s.Reachable Compiler.clauses "k" {} := reachable_retuned rule {} _
  have hroute : (s.route {}).1.toOption = some (hosts ["a"]) := by decide +kernel
  have hpool : s.chain.candidates.endpoints = hosts ["b", "a"] := by decide +kernel
  obtain ⟨hkept, -, -⟩ := route_eligible hs {}
  refine ⟨hroute, ?_, fun call => (route_eligible hs call).2.2 (by decide +kernel)⟩
  cases hr : (s.route {}).1 with
  | error e =>
    rw [hr] at hroute
    cases hroute
  | ok kept =>
    rw [hr] at hroute
    obtain rfl := Option.some.inj hroute
    exact hpool ▸ (hkept _ hr).1

end Service
end CallRouting
