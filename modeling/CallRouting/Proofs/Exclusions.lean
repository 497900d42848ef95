import Mathlib.Algebra.BigOperators.Group.Finset.Piecewise
import Mathlib.Algebra.GroupWithZero.Nat
import CallRouting.Proofs.DictOrder
import CallRouting.Proofs.Evaluation
import CallRouting.Proofs.FailedCalls

/-!
# What the counters say

A run counts for each clause what the clause removed from what it was given. All clauses together
have removed what is missing in the end, so the counters account for every endpoint that was
dropped, be it by a filter or by a blacklist, and however many clauses share a text.

* `Dict.get?_eq_none_of_notMem`, `Dict.toFinset_keys_update` : the keys of a dictionary that grows;
* `Meters.excludedBy`, `Meters.excluded` : what is counted under one label, and under all;
* `Run.removed`, `Run.removedBy` : what each matcher removes, and what those with one label do;
* `Run.exclusions_of_passes` : what a run counts are the amounts that are not zero;
* `Run.sum_removed_clauses` : for clauses the amounts add up to what is missing;
* `Chain.run_serve` : which run a call makes, if it makes one;
* `Meters.account_for_dropped` : all that a pipeline does to the counters.
-/

namespace CallRouting

/-! ## Dictionaries of numbers -/

namespace Dict

variable {α : Type} (d : Dict α)

theorem get?_eq_none_of_notMem {k : String} (h : k ∉ d.keys) : d.get? k = none := by
  obtain ⟨l⟩ := d
  simp only [keys, get?] at h ⊢
  induction l with
  | nil => rfl
  | cons e r ih =>
    obtain ⟨hne, hr⟩ := not_or.1 (mt List.mem_cons.2 h)
    rw [find, if_neg hne]
    exact ih hr

theorem toFinset_keys_update (k : String) (f : Option α → α) :
    (d.update k f).keys.toFinset = Insert.insert k d.keys.toFinset := by
  ext j
  rw [Finset.mem_insert, List.mem_toFinset, List.mem_toFinset]
  exact mem_keys_place

end Dict

namespace Meters

/-! ## Labels -/

/-- How many endpoints are counted under a label. -/
def excludedBy (m : Meters) (label : String) : Nat := (m.exclusions.get? label).getD 0

/-- How many endpoints are counted under all labels. -/
def excluded (m : Meters) : Nat := ∑ label ∈ m.exclusions.keys.toFinset, m.excludedBy label

/-- Counts some endpoints under a label. -/
def count (m : Meters) (entry : String × Nat) : Meters :=
  { m with exclusions := m.exclusions.update entry.1 (·.getD 0 + entry.2) }

theorem excludedBy_count (m : Meters) (entry : String × Nat) (label : String) :
    (m.count entry).excludedBy label =
      m.excludedBy label + if entry.1 = label then entry.2 else 0 := by
  rw [excludedBy, count, Dict.get?_update]
  by_cases h : label = entry.1
  · subst h
    simp [excludedBy]
  · rw [if_neg h, if_neg (Ne.symm h), Nat.add_zero, excludedBy]

/-- Labels that have not been counted under make no difference. -/
theorem sum_excludedBy (m : Meters) {labels : Finset String}
    (h : m.exclusions.keys.toFinset ⊆ labels) :
    ∑ label ∈ labels, m.excludedBy label = m.excluded := by
  refine (Finset.sum_subset h fun label _ hno => ?_).symm
  rw [List.mem_toFinset] at hno
  rw [excludedBy, m.exclusions.get?_eq_none_of_notMem hno, Option.getD_none]

theorem excluded_count (m : Meters) (entry : String × Nat) :
    (m.count entry).excluded = m.excluded + entry.2 := by
  let labels := insert entry.1 m.exclusions.keys.toFinset
  have hkeys : (m.count entry).exclusions.keys.toFinset = labels :=
    m.exclusions.toFinset_keys_update entry.1 _
  calc (m.count entry).excluded
      = ∑ label ∈ labels, (m.excludedBy label + if entry.1 = label then entry.2 else 0) := by
        simp only [excluded, hkeys, excludedBy_count]
    _ = ∑ label ∈ labels, m.excludedBy label + entry.2 := by
        rw [Finset.sum_add_distrib, Finset.sum_ite_eq, if_pos (Finset.mem_insert_self _ _)]
    _ = m.excluded + entry.2 := by
        rw [m.sum_excludedBy (Finset.subset_insert _ _)]

/-! ## Entries -/

theorem excludedBy_foldl (m : Meters) (entries : List (String × Nat)) (label : String) :
    (entries.foldl count m).excludedBy label =
      m.excludedBy label + ((entries.filter (·.1 = label)).map Prod.snd).sum := by
  induction entries generalizing m with
  | nil => rfl
  | cons entry entries ih =>
    rw [List.foldl_cons, ih, excludedBy_count, Nat.add_assoc]
    by_cases h : entry.1 = label <;> simp [h]

theorem excluded_foldl (m : Meters) (entries : List (String × Nat)) :
    (entries.foldl count m).excluded = m.excluded + (entries.map Prod.snd).sum := by
  induction entries generalizing m with
  | nil => rfl
  | cons entry entries ih =>
    rw [List.foldl_cons, ih, excluded_count, List.map_cons, List.sum_cons, Nat.add_assoc]

theorem exclusions_addRun (m : Meters) (r : Run) :
    (m.addRun r).exclusions = (r.exclusions.foldl count m).exclusions := by
  have hfold : ∀ (entries : List (String × Nat)) (m : Meters),
      entries.foldl (fun d entry => d.update entry.1 (·.getD 0 + entry.2)) m.exclusions =
        (entries.foldl count m).exclusions := by
    intro entries
    induction entries with
    | nil => exact fun _ => rfl
    | cons entry entries ih => exact fun m => ih (m.count entry)
  exact hfold r.exclusions m

end Meters

/-! ## Runs -/

namespace Run

variable (call : Call) (ms : List Matcher) (pool : Pool)

/-- What the first `i` matchers leave of a pool, if none of them fails. -/
def left (i : Nat) : Pool := (ofMatchers call (ms.take i) pool).result.toOption.getD []

/-- The label of each matcher, and how much it removes from what those before it left. -/
def removed : List (String × Nat) :=
  ms.mapIdx fun i m => (m.source, (left call ms pool i).length - (left call ms pool (i + 1)).length)

/-- How much the matchers with this label remove, each from what it is given. -/
def removedBy (label : String) : Nat :=
  (((removed call ms pool).filter (·.1 = label)).map Prod.snd).sum

variable {call ms pool}

theorem left_succ {m : Matcher} {given : Pool} (h : m.apply call pool = .ok given) (i : Nat) :
    left call (m :: ms) pool (i + 1) = left call ms given i := by
  simp only [left, List.take_succ_cons, ofMatchers, h, result_after]

theorem removed_cons {m : Matcher} {given : Pool} (h : m.apply call pool = .ok given) :
    removed call (m :: ms) pool =
      (m.source, pool.length - given.length) :: removed call ms given := by
  have hzero : ∀ (ms : List Matcher) (pool : Pool), left call ms pool 0 = pool := fun _ _ => rfl
  simp only [removed, List.mapIdx_cons, left_succ h, hzero]

/-- A run counts the amounts that are not zero. -/
theorem exclusions_of_passes {kept : Pool} (h : Passes call ms pool kept) :
    (ofMatchers call ms pool).exclusions = (removed call ms pool).filter (·.2 ≠ 0) := by
  induction h with
  | nil pool => rfl
  | cons hm _ ih =>
    rw [removed_cons hm]
    simp only [ofMatchers, hm, exclusions_after, ih, List.filter_cons, ne_eq, decide_not,
      Bool.not_eq_true', decide_eq_false_iff_not]
    split <;> simp_all

/-- Amounts of zero make no difference. -/
theorem sum_filter_ne_zero (entries : List (String × Nat)) :
    ((entries.filter (·.2 ≠ 0)).map Prod.snd).sum = (entries.map Prod.snd).sum := by
  induction entries with
  | nil => rfl
  | cons entry entries ih =>
    by_cases h : entry.2 = 0 <;> simp_all

/-- Clauses have removed what is missing in the end. -/
theorem sum_removed_clauses (cs : List Clause) (call : Call) (pool : Pool) :
    ((removed call (cs.map Clause.matcher) pool).map Prod.snd).sum =
      pool.length - (Clause.applyAll cs call pool).length := by
  induction cs generalizing pool with
  | nil => exact (Nat.sub_self pool.length).symm
  | cons c cs ih =>
    have hc : c.matcher.apply call pool = .ok (c.apply call pool) := rfl
    have hfirst := (c.apply_sublist call pool).length_le
    have hrest := (Clause.applyAll_sublist cs call (c.apply call pool)).length_le
    rw [List.map_cons, removed_cons hc, List.map_cons, List.sum_cons, ih]
    show _ = pool.length - (Clause.applyAll cs call (c.apply call pool)).length
    omega

theorem passes_clauses (cs : List Clause) (call : Call) (pool : Pool) :
    Passes call (cs.map Clause.matcher) pool (Clause.applyAll cs call pool) := by
  induction cs generalizing pool with
  | nil => exact .nil pool
  | cons c cs ih => exact .cons rfl (ih (c.apply call pool))

end Run

namespace Meters

/-- The second counters are the first ones and what these matchers remove, each under its label. -/
structure Counts (m m' : Meters) (call : Call) (ms : List Matcher) (pool : Pool) : Prop where
  excludedBy : ∀ label, m'.excludedBy label = m.excludedBy label + Run.removedBy call ms pool label
  excluded : m'.excluded = m.excluded + ((Run.removed call ms pool).map Prod.snd).sum

variable {call : Call} {ms : List Matcher} {pool : Pool}

/-- It does not matter to the counters how a run went on after these matchers. -/
theorem counts_addRun {kept : Pool} (h : Run.Passes call ms pool kept) (r : Run)
    (hr : r.exclusions = (Run.ofMatchers call ms pool).exclusions) (m : Meters) :
    m.Counts (m.addRun r) call ms pool := by
  have hentries := hr.trans (Run.exclusions_of_passes h)
  refine ⟨fun label => ?_, ?_⟩
  · rw [Meters.excludedBy, exclusions_addRun, hentries, ← Meters.excludedBy, excludedBy_foldl,
      List.filter_filter]
    simp only [Bool.and_comm (decide (Prod.fst _ = label))]
    rw [← List.filter_filter, Run.sum_filter_ne_zero, Run.removedBy]
  · have hexcluded : (m.addRun r).excluded = (r.exclusions.foldl count m).excluded := by
      simp only [Meters.excluded, Meters.excludedBy, exclusions_addRun]
    rw [hexcluded, hentries, excluded_foldl, Run.sum_filter_ne_zero]

theorem runs_addRun_ok {r : Run} {kept : Pool} (h : r.result = .ok kept) (m : Meters) :
    (m.addRun r).runs = m.runs + 1 := by
  simp only [addRun, h]

theorem runs_addRun_error {r : Run} {e : RoutingError} (h : r.result = .error e) (m : Meters) :
    (m.addRun r).runs = m.runs := by
  simp only [addRun, h]

end Meters

/-! ## Calls -/

/-- A call that is served from a plan makes no run, and any other makes one if the rule decides. -/
theorem Chain.run_serve (c : Chain) (key : String) (s : Snapshot) (candidates : Candidates)
    (call : Call) :
    (c.serve key s candidates call).run =
      if s.isRuntime = false ∧ (c.currentPlan? s candidates).isSome then none
      else if s.decides candidates.endpoints then
        some (s.run (s.caller c.baseline call) candidates.endpoints)
      else none := by
  cases hr : s.isRuntime with
  | true =>
    have hcaller : s.caller c.baseline call = call := if_pos hr
    rw [serve_of_runtime _ _ _ _ _ hr, hcaller, if_neg (by simp)]
    rfl
  | false =>
    cases hp : c.currentPlan? s candidates with
    | some p =>
      rw [serve_of_some _ _ _ _ _ hr hp, if_pos ⟨rfl, rfl⟩]
    | none =>
      have hcaller : s.caller c.baseline call = c.baseline := if_neg (by simp [hr])
      rw [serve_of_none _ _ _ _ _ hr hp, hcaller, if_neg (by simp)]
      simp only [servePlanned, Snapshot.plan]
      cases hd : s.decides candidates.endpoints with
      | false => rfl
      | true =>
        have hruntime : s.rule.runtime = false := by
          rw [← s.isRuntime_of_isValid (Bool.and_eq_true_iff.1 hd).2, hr]
        simp only [hruntime, Bool.not_false, Bool.and_self, if_true]
        cases (s.run c.baseline candidates.endpoints).result <;> rfl

namespace Meters

/-- **The counters account for every endpoint that was dropped.** A run of the clauses of a rule
comes to an end; all labels together then count as many endpoints more as the result is smaller than
the pool, and each label counts what the clauses with this text removed, each from what it was given.
A run that a matcher fails counts what the matchers before it removed, and is not counted itself. And
each call makes one run, except that one which is served from the plan makes none and counts
nothing. -/
theorem account_for_dropped {rule : Rule} (hv : rule.isValid) {pool : Pool} (hp : pool ≠ []) :
    (rule.Compiles → ∀ version, ∃ snapshot,
      Snapshot.build Compiler.clauses rule version = .ok snapshot ∧
      ∀ call, ∃ kept, (snapshot.run call pool).result = .ok kept ∧ kept.length ≤ pool.length ∧
        ∀ m : Meters,
          let m' := m.addRun (snapshot.run call pool)
          m'.excluded = m.excluded + (pool.length - kept.length) ∧
            (∀ label, m'.excludedBy label =
              m.excludedBy label + Run.removedBy call snapshot.matchers pool label) ∧
            m'.runs = m.runs + 1) ∧
    ∀ compiler version snapshot, Snapshot.build compiler rule version = .ok snapshot →
      (∀ call before matcher reason, Run.StopsAt call snapshot.matchers pool before matcher reason →
        ∀ m : Meters,
          let m' := m.addRun (snapshot.run call pool)
          m.Counts m' call before pool ∧ m'.runs = m.runs) ∧
      ∀ (s : Service) (call : Call),
        (s.evaluate snapshot call pool).2.meters = s.meters.addRun (snapshot.run call pool) ∧
        (s.outcome snapshot call pool).2.meters =
          (if rule.runtime then s.meters else s.meters.addRun (snapshot.run call pool)) ∧
        ∀ candidates, candidates.endpoints = pool →
          (s.routeWith snapshot candidates call).2.meters =
            if snapshot.isRuntime = false ∧ (s.chain.currentPlan? snapshot candidates).isSome then
              s.meters
            else s.meters.addRun (snapshot.run (snapshot.caller s.chain.baseline call) pool) := by
  refine ⟨fun hc version => ?_, fun compiler version snapshot hs =>
    ⟨fun call before matcher reason hstops m => ?_, fun s call => ?_⟩⟩
  · obtain ⟨snapshot, cs, hs, -, hcs⟩ := Snapshot.exists_clausal_of_compiles hc version
    refine ⟨snapshot, hs, fun call => ⟨_, hcs.result_run call pool,
      (Clause.applyAll_sublist cs call pool).length_le, fun m => ?_⟩⟩
    have hpasses := Run.passes_clauses cs call pool
    rw [← hcs.matchers] at hpasses
    have hcounts : m.Counts (m.addRun (snapshot.run call pool)) call snapshot.matchers pool :=
      counts_addRun hpasses _ rfl m
    refine ⟨?_, hcounts.excludedBy, runs_addRun_ok (hcs.result_run call pool) m⟩
    rw [hcounts.excluded, hcs.matchers, Run.sum_removed_clauses]
  · have hrun : snapshot.run call pool = _ := Run.ofMatchers_of_stopsAt hstops
    obtain ⟨left, hbefore, -⟩ := hstops.fails
    have hexclusions : (snapshot.run call pool).exclusions =
        (Run.ofMatchers call before pool).exclusions := by rw [hrun]
    have hresult : (snapshot.run call pool).result = .error (.matcher matcher.source reason) := by
      rw [hrun]
    exact ⟨counts_addRun hbefore _ hexclusions m, runs_addRun_error hresult m⟩
  · obtain ⟨rfl, -, -⟩ := Snapshot.build_eq_ok hs
    have hd : snapshot.decides pool = true := by
      rw [snapshot.decides_eq pool hv, List.isEmpty_eq_false_iff.2 hp, Bool.not_false]
    refine ⟨?_, ?_, ?_⟩
    · simp only [Service.evaluate, Snapshot.evaluate, hd, if_true, addRun?, Option.elim_some]
    · cases hr : snapshot.rule.runtime <;>
        simp only [Service.outcome, Snapshot.plan, hd, hr, addRun?, Bool.not_true, Bool.not_false,
          Bool.and_true, Bool.and_false, Bool.false_eq_true, if_true, if_false, Option.elim_some,
          Option.elim_none]
    · rintro candidates rfl
      simp only [Service.routeWith, Chain.run_serve, hd, if_true]
      split <;> rfl

/-- Two clauses have one text, one has blanks around it, and the last is a blacklist. -/
theorem account_for_dropped_blacklist :
    let rule : Rule :=
      { conditions := ["=> host != d", " => host = a,b ", "=> host != d", "method = get => false"] }
    let call : Call := { method := some "get" }
    let pool := Service.hosts ["a", "b", "c", "d"]
    rule.isValid ∧ pool ≠ [] ∧ rule.Compiles ∧
      ∃ snapshot, Snapshot.build Compiler.clauses rule 1 = .ok snapshot ∧
        (snapshot.run call pool).result = .ok [] ∧
        let m' := Meters.addRun {} (snapshot.run call pool)
        m'.excluded = 4 ∧ m'.excludedBy "=> host != d" = 1 ∧ m'.excludedBy "=> host = a,b" = 1 ∧
          m'.excludedBy "method = get => false" = 2 ∧ m'.runs = 1 := by
  intro rule call pool
  have hv : rule.isValid := by decide
  have hp : pool ≠ [] := by decide
  have hc : rule.Compiles := (Compiler.admits_clauses_iff rule).1 (by decide +kernel)
  obtain ⟨hclauses, -⟩ := account_for_dropped hv hp
  obtain ⟨snapshot, hs, hruns⟩ := hclauses hc 1
  obtain ⟨kept, hkept, -, hmeters⟩ := hruns call
  obtain ⟨htotal, hlabel, hcount⟩ := hmeters {}
  have hrun : ((Snapshot.build Compiler.clauses rule 1).toOption.map fun s =>
      ((s.run call pool).result.toOption,
        ["=> host != d", "=> host = a,b", "method = get => false"].map
          (Run.removedBy call s.matchers pool))) = some (some [], [1, 1, 2]) := by
    decide +kernel
  rw [hs] at hrun
  simp only [Except.toOption, Option.map_some, hkept, Option.some.injEq, Prod.mk.injEq, List.map_cons,
    List.map_nil, List.cons.injEq, and_true] at hrun
  obtain ⟨rfl, hd, hab, hget⟩ := hrun
  refine ⟨hv, hp, hc, snapshot, hs, hkept, htotal, ?_, ?_, ?_, hcount⟩
  · exact (hlabel _).trans (congrArg _ hd)
  · exact (hlabel _).trans (congrArg _ hab)
  · exact (hlabel _).trans (congrArg _ hget)

end Meters
end CallRouting
