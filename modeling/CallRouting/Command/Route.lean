import CallRouting.Command.Basic
import CallRouting.Command.Failure
import CallRouting.Config.File
import CallRouting.Report.RouteReport
import CallRouting.Service

/-!
# Routing one call

`RouteReport.ofTexts` routes a call to the endpoints that a text lists, under the rule in another
text. Both commands that have endpoints to read do so with `Pool.load`.
-/

namespace CallRouting

/-- The endpoints that a file lists. -/
def Pool.load (files : FileTree) (path : String) : Except Failure Pool := do
  match Pool.parse? (← (files.readText path).mapError (.endpointsFile path)) with
  | some pool => return pool
  | none => throw .endpoints

def RouteReport.ofRule (key rule : String) (pool : Pool) (call : Call) (now : Stamp) :
    Except Failure RouteReport := do
  let router ← (Router.build .clauses key (some rule)).mapError .install
  let service := Service.ofRouter router 1 call pool
  let endpoints ← (service.route call).1.mapError .routing
  return {
    key
    version := router.active.version
    installed := now
    mode := .ofSnapshot router.active
    force := router.active.isForce
    candidates := pool.length
    endpoints }

/-- The key of a rule without one: the name of its file. -/
def keyOfPath (path : String) : String := (Path.stem? path).getD "rule"

def RouteCommand.run (c : RouteCommand) (files : FileTree) (now : Stamp) (colours : Bool) :
    Except Failure String := do
  let rule ← (files.readText c.rule).mapError (.ruleFile c.rule)
  let pool ← Pool.load files c.endpoints
  let report ← RouteReport.ofRule (keyOfPath c.rule) rule pool c.call now
  return if c.json then report.json.render else report.text colours

end CallRouting
