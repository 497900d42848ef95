import CallRouting.Pipeline

/-!
# Meters

What is counted while calls are routed and rules are installed. `Meters.entries` lists the counters
that have moved, with the names under which they are published.
-/

namespace CallRouting

structure Meters where
  /-- How many endpoints each clause has excluded. -/
  exclusions : Dict Nat := .empty
  /-- How many runs have come to an end. -/
  runs : Nat := 0
  installed : Nat := 0
  rejected : Nat := 0

namespace Meters

/-- Counts a run. One that failed is no finished run, but what its clauses had excluded counts. -/
def addRun (m : Meters) (r : Run) : Meters :=
  { m with
    exclusions := r.exclusions.foldl (fun d (clause, n) => d.update clause (·.getD 0 + n))
      m.exclusions
    runs := match r.result with
      | .ok _ => m.runs + 1
      | .error _ => m.runs }

def addRun? (m : Meters) (r : Option Run) : Meters := r.elim m m.addRun

def entries (m : Meters) : Dict Nat :=
  .ofList <|
    (m.exclusions.toList.map fun (clause, n) =>
        ("condgate_clause_exclusions_total\x7bclause=" ++ clause ++ "\x7d", n)) ++
      [("condgate_pipeline_duration_seconds\x7b\x7d", m.runs),
        ("condgate_rule_updates_total\x7boutcome=installed\x7d", m.installed),
        ("condgate_rule_updates_total\x7boutcome=rejected\x7d", m.rejected)].filter (·.2 ≠ 0)

end Meters
end CallRouting
