import CallRouting.Pipeline

/-!
# Chains

A `Chain` routes calls to a pool under a snapshot that it is given. Unless the rule is for single
calls, the filtered pool is the same for all of them, so it is kept as a `Plan`.

* `Plan.isCurrent` : a plan serves only the version and the pool that it was made from;
* `Snapshot.conclude` : a call for which the rule leaves nothing fails if the rule is forced, and
  goes to the whole pool otherwise;
* `Chain.serve` : routes a call, with the plan if it is current, else with a new one.
-/

namespace CallRouting

/-- A pool with the number of times that the pool had been replaced when it came, which tells it
from an equal one. -/
structure Candidates where
  serial : Nat := 0
  endpoints : Pool
deriving DecidableEq

structure Plan where
  /-- The version of the snapshot that the plan was made under. -/
  version : Nat
  /-- The number of the pool that it was made from. -/
  serial : Nat
  /-- What is left of that pool; nothing if no rule applied. -/
  filtered : Option Pool
deriving DecidableEq

def Plan.isCurrent (p : Plan) (s : Snapshot) (c : Candidates) : Bool :=
  p.version = s.version && p.serial = c.serial

/-- Where a call goes, given what the rule left of its pool. -/
def Snapshot.conclude (s : Snapshot) (key : String) (pool : Pool) :
    Option Pool → Except RoutingError Pool
  | none => .ok pool
  | some kept =>
    if !kept.isEmpty then .ok kept
    else if s.isForce then .error (.forcedEmpty key)
    else .ok pool

structure Chain where
  /-- What plans take for the call. -/
  baseline : Call
  candidates : Candidates
  plan : Option Plan := none

/-- What came of routing a call. -/
structure Served where
  result : Except RoutingError Pool
  chain : Chain
  /-- The run that took place, if one did. -/
  run : Option Run := none

namespace Chain

def ofPool (baseline : Call) (pool : Pool) : Chain :=
  { baseline, candidates := { endpoints := pool } }

def invalidate (c : Chain) : Chain := { c with plan := none }

def setPool (c : Chain) (pool : Pool) : Chain :=
  { c with
    candidates := { serial := c.candidates.serial + 1, endpoints := pool }
    plan := none }

/-- The plan, if it is for this snapshot and this pool. -/
def currentPlan? (c : Chain) (s : Snapshot) (candidates : Candidates) : Option Plan :=
  c.plan.filter (·.isCurrent s candidates)

/-- Routes a call with what a new run left of the pool. -/
def conclude (c : Chain) (key : String) (s : Snapshot) (candidates : Candidates) (run : Option Run)
    (kept : Option Pool) : Served where
  result := s.conclude key candidates.endpoints kept
  chain := { c with plan := some ⟨s.version, candidates.serial, kept⟩ }
  run

/-- Routes a call under a rule for single calls. -/
def serveCall (c : Chain) (key : String) (s : Snapshot) (candidates : Candidates) (call : Call) :
    Served where
  result := do
    s.conclude key candidates.endpoints (some (← s.evaluated call candidates.endpoints))
  chain := c
  run := s.evaluate call candidates.endpoints

/-- Routes a call under a rule for all calls, after a new plan. A run that fails leaves no plan. -/
def servePlanned (c : Chain) (key : String) (s : Snapshot) (candidates : Candidates) : Served :=
  match s.plan c.baseline candidates.endpoints with
  | none => c.conclude key s candidates none none
  | some run =>
    match run.result with
    | .ok kept => c.conclude key s candidates (some run) (some kept)
    | .error e => { result := .error e, chain := c, run := some run }

/-- Routes a call under a snapshot and to a pool that are, or a moment ago were, the current ones.
The key is what a failure names. -/
def serve (c : Chain) (key : String) (s : Snapshot) (candidates : Candidates) (call : Call) :
    Served :=
  if s.isRuntime then c.serveCall key s candidates call
  else match c.currentPlan? s candidates with
    | some p => { result := s.conclude key candidates.endpoints p.filtered, chain := c }
    | none => c.servePlanned key s candidates

end Chain
end CallRouting
