import CallRouting.Config.Basic
import CallRouting.Pipeline

/-!
# Failures of commands

`Failure.message` is what is shown to the user.
-/

namespace CallRouting

/-- Why a command could not be carried out. -/
inductive Failure where
  | ruleFile (path : String) (e : FileError)
  | rule (e : RuleError)
  /-- A clause is refused; clauses are counted from zero. -/
  | clause (index : Nat) (e : CompileError)
  | endpointsFile (path : String) (e : FileError)
  /-- A text lists no endpoints. -/
  | endpoints
  | install (e : InstallError)
  | routing (e : RoutingError)
  | config (e : ConfigError)

def Failure.message : Failure → String
  | ruleFile path e => "Failed to read rule " ++ path ++ ": " ++ e.message
  | rule e => e.message
  | clause index e => "Clause " ++ toString index ++ ": " ++ e.message
  | endpointsFile path e => "Failed to read endpoints " ++ path ++ ": " ++ e.message
  | endpoints => "Malformed endpoint list"
  | install e => e.message
  | routing e => e.message
  | config e => e.message

end CallRouting
