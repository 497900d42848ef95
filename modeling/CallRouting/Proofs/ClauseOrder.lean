import CallRouting.Proofs.Evaluation

/-!
# Clauses in their order

A router compiles all clauses of a rule before it takes any, and later runs their matchers on a pool.
That comes to the same as going through the texts of the rule once, where each clause is compiled
when its turn comes and applied to what the ones before it have left.

* `Rule.oneByOne` : that way of filtering a pool;
* `Rule.oneByOne_eq` : it is what the clauses leave, if all of them can be read;
* `Router.Runs` : a router that was built with a text, or has just taken it;
* `Router.filters_one_by_one` : what such a router makes of pools.
-/

namespace CallRouting

namespace Rule

/-- What is left of a pool when each clause is compiled when its turn comes, and applied to what the
ones before it have left. -/
def oneByOne (r : Rule) (call : Call) (pool : Pool) : Except CompileError Pool :=
  r.conditions.foldlM (fun left text => (Clause.compile text r.force).map (·.apply call left)) pool

theorem foldlM_compile_eq {texts : List String} {force : Bool} {cs : List Clause}
    (h : texts.mapM (Clause.compile · force) = .ok cs) (call : Call) (pool : Pool) :
    texts.foldlM (fun left text => (Clause.compile text force).map (·.apply call left)) pool =
      .ok (Clause.applyAll cs call pool) := by
  induction texts generalizing cs pool with
  | nil =>
    cases h
    rfl
  | cons text texts ih =>
    obtain ⟨c, cs, hc, hcs, rfl⟩ := mapM_cons_eq_ok.1 h
    rw [List.foldlM_cons, hc]
    exact ih hcs (c.apply call pool)

theorem oneByOne_eq {s : Snapshot} {cs : List Clause} (h : s.Clausal cs) (hv : s.rule.isValid)
    (call : Call) (pool : Pool) :
    s.rule.oneByOne call pool = .ok (Clause.applyAll cs call pool) :=
  foldlM_compile_eq (h.compiled hv) call pool

end Rule

namespace Router

/-- The router was built with the text, or has just taken it. -/
inductive Runs (text : Option String) : Router → Prop
  | built {key : String} {r : Router} (h : build Compiler.clauses key text = .ok r) : Runs text r
  | installed {r r' : Router} (hc : r.compiler = Compiler.clauses) (h : r.install text = .ok r') :
      Runs text r'

/-- The rule of the text is in force, with its matchers. -/
theorem Runs.matchersOf_eq {text : Option String} {r : Router} (h : r.Runs text) {rule : Rule}
    (hparse : Rule.parse text = .ok rule) :
    r.active.rule = rule ∧
      Snapshot.matchersOf Compiler.clauses r.active.rule = .ok r.active.matchers := by
  suffices hbuilt : ∃ version, Snapshot.build Compiler.clauses rule version = .ok r.active by
    obtain ⟨version, hbuilt⟩ := hbuilt
    obtain ⟨hrule, -, hmatchers⟩ := Snapshot.build_eq_ok hbuilt
    exact ⟨hrule, hrule ▸ hmatchers⟩
  cases h with
  | built h =>
    rw [build_of_parse hparse] at h
    cases hb : Snapshot.build Compiler.clauses rule 1 with
    | error e =>
      rw [hb] at h
      cases h
    | ok active =>
      rw [hb] at h
      cases h
      exact ⟨1, hb⟩
  | @installed r _ hc h =>
    rw [install_eq_take, hparse] at h
    rcases r.take_cases (.ok rule) with ⟨rule', snapshot, ht⟩ | ⟨e, he, -⟩
    · obtain rfl := Except.ok.inj ht.offered
      obtain rfl := Except.ok.inj (h.symm.trans ht.take)
      exact ⟨_, hc ▸ ht.built⟩
    · exact nomatch h.symm.trans he

/-- **Pools are filtered by one clause after the other.** A router that runs the valid rule of a text
leaves of every pool that is not empty what compiling and applying the clauses one by one leaves of
it, in the order of the text. Ahead of calls it gives the same, in the one bucket that there is,
unless the rule is for single calls; then, and only then, it leaves the pool to each call. -/
theorem filters_one_by_one {text : Option String} {r : Router} (h : r.Runs text) {rule : Rule}
    (hparse : Rule.parse text = .ok rule) (hv : rule.isValid) (call : Call) {pool : Pool}
    (hp : pool ≠ []) :
    ∃ kept outcome, rule.oneByOne call pool = .ok kept ∧
      r.active.evaluated call pool = .ok kept ∧ r.active.outcome call pool = .ok outcome ∧
      (outcome = .perCall ↔ rule.runtime) ∧
      (rule.runtime = false →
        outcome = .routed kept ∧ outcome.buckets.toList = [("failover", kept)]) := by
  obtain ⟨rfl, hmatchers⟩ := h.matchersOf_eq hparse
  obtain ⟨cs, hcs⟩ := Snapshot.exists_clausal hmatchers
  have hd : r.active.decides pool = true := by simpa [r.active.decides_eq pool hv] using hp
  refine ⟨Clause.applyAll cs call pool,
    if r.active.rule.runtime then .perCall else .routed (Clause.applyAll cs call pool),
    Rule.oneByOne_eq hcs hv call pool, hcs.evaluated_eq call pool, ?_, ?_, fun hall => ?_⟩
  · rw [Snapshot.outcome, hd, hcs.result_run]
    cases r.active.rule.runtime <;> rfl
  · cases r.active.rule.runtime <;> simp
  · rw [hall]
    exact ⟨rfl, rfl⟩

/-- Three clauses, one with blanks around it, of which the last one is passed over. -/
def threeClauses : Option String :=
  some "conditions:\n- ' => host = a,b '\n- method = get => host != a\n- => host = a"

theorem parse_threeClauses : Rule.parse threeClauses =
    .ok { conditions := ["=> host = a,b", "method = get => host != a", "=> host = a"] } :=
  eq_ok_of_toOption (by decide +kernel)

theorem filters_one_by_one_threeClauses :
    let call : Call := { method := some "get" }
    let pool := Service.hosts ["c", "b", "a"]
    ∃ r : Router, r.Runs threeClauses ∧ r.active.evaluated call pool = .ok (Service.hosts ["b"]) ∧
      r.active.outcome call pool = .ok (.routed (Service.hosts ["b"])) := by
  intro call pool
  have hok : (build Compiler.clauses "k" threeClauses).isOk = true := by decide +kernel
  obtain ⟨r, hr⟩ := exists_ok_of_isOk hok
  obtain ⟨kept, outcome, hone, hevaluated, houtcome, -, hrouted⟩ :=
    filters_one_by_one (.built hr) parse_threeClauses rfl call (show pool ≠ [] by decide)
  have hleft : Rule.oneByOne
      { conditions := ["=> host = a,b", "method = get => host != a", "=> host = a"] } call pool =
        .ok (Service.hosts ["b"]) := eq_ok_of_toOption (by decide +kernel)
  obtain rfl := Except.ok.inj (hone.symm.trans hleft)
  obtain ⟨rfl, -⟩ := hrouted rfl
  exact ⟨r, .built hr, hevaluated, houtcome⟩

end Router
end CallRouting
