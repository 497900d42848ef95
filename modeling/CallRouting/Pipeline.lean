import CallRouting.Snapshot

/-!
# Filtering a pool

The matchers of a snapshot are applied one after the other, each to what the one before it left.

* `Run` : what came of it, and how many endpoints each matcher excluded;
* `Snapshot.run` : applies all matchers, up to the first that fails;
* `Snapshot.evaluate` : filters a pool for one call; an empty pool and an invalid rule change
  nothing;
* `Snapshot.outcome` : filters a pool ahead of calls, if the rule allows that.
-/

namespace CallRouting

/-- Why a call cannot be routed. -/
inductive RoutingError where
  /-- A matcher failed. -/
  | matcher (clause reason : String)
  /-- The rule is forced and leaves no endpoint. -/
  | forcedEmpty (key : String)
deriving DecidableEq

def RoutingError.message : RoutingError → String
  | matcher clause reason => "Condition clause \"" ++ clause ++ "\" failed: " ++ reason
  | forcedEmpty key => "No endpoint satisfies forced routing rule '" ++ key ++ "'"

structure Run where
  result : Except RoutingError Pool
  /-- The clauses that excluded endpoints, in order, each with their number. -/
  exclusions : List (String × Nat) := []

namespace Run

/-- Counts what one more matcher in front excluded. -/
def after (m : Matcher) (excluded : Nat) (r : Run) : Run :=
  if excluded = 0 then r else { r with exclusions := (m.source, excluded) :: r.exclusions }

def ofMatchers (call : Call) : List Matcher → Pool → Run
  | [], pool => { result := .ok pool }
  | m :: ms, pool =>
    match m.apply call pool with
    | .error reason => { result := .error (.matcher m.source reason) }
    | .ok kept => (ofMatchers call ms kept).after m (pool.length - kept.length)

end Run

/-- What is known of a pool before any call. -/
inductive Outcome where
  /-- No rule applies, so calls get the pool as it is. -/
  | noDecision
  /-- Every call must be filtered by itself. -/
  | perCall
  | routed (pool : Pool)
deriving DecidableEq

namespace Outcome

/-- The one bucket that is ever filled. -/
def failoverKey : String := "failover"

def buckets : Outcome → Dict Pool
  | routed pool => .ofList [(failoverKey, pool)]
  | _ => .empty

def routedPool (o : Outcome) : Option Pool := o.buckets.get? failoverKey

end Outcome

namespace Snapshot

def run (s : Snapshot) (call : Call) (pool : Pool) : Run := Run.ofMatchers call s.matchers pool

/-- Whether the rule has anything to say on a pool. -/
def decides (s : Snapshot) (pool : Pool) : Bool := !pool.isEmpty && s.rule.isValid

/-- Filters a pool for one call; a run takes place only if the rule decides. -/
def evaluate (s : Snapshot) (call : Call) (pool : Pool) : Option Run :=
  if s.decides pool then some (s.run call pool) else none

/-- The endpoints that `evaluate` leaves. -/
def evaluated (s : Snapshot) (call : Call) (pool : Pool) : Except RoutingError Pool :=
  match s.evaluate call pool with
  | some r => r.result
  | none => .ok pool

/-- Filters a pool ahead of calls; a run takes place only if the rule decides and is not for single
calls. -/
def plan (s : Snapshot) (call : Call) (pool : Pool) : Option Run :=
  if s.decides pool && !s.rule.runtime then some (s.run call pool) else none

def outcome (s : Snapshot) (call : Call) (pool : Pool) : Except RoutingError Outcome :=
  if !s.decides pool then .ok .noDecision
  else if s.rule.runtime then .ok .perCall
  else (s.run call pool).result.map .routed

end Snapshot
end CallRouting
