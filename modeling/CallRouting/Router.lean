import CallRouting.Pipeline
import CallRouting.Source.Basic
import CallRouting.Text.Quoted

/-!
# Routers

A `Router` holds the snapshot in force for one key and installs its successors, each numbered one
higher than the last.

* `Router.build` : fails if the first rule is malformed or has a clause that is refused;
* `Router.installRule`, `Router.install` : put a new rule in force, or fail and change nothing.
-/

namespace CallRouting

/-- Why a rule was not put in force. -/
inductive InstallError where
  | source (e : SourceError)
  | rule (e : RuleError)
  | clause (e : CompileError)

def InstallError.message : InstallError → String
  | source e => "Configuration source failed: " ++ e.message
  | rule e => "Rule rejected: " ++ e.message
  | clause e => "Rule rejected: " ++ e.message

/-- The key under which the rule of an application is published. -/
def ruleKey (application : String) : String := application ++ ".condition-router"

structure Router where
  key : String
  compiler : Compiler
  active : Snapshot

namespace Router

def name : String := "config-condition-outer"

/-- The place of this filter among those of a service. -/
def priority : Int := -2

def build (compiler : Compiler) (key : String) (text : Option String) :
    Except InstallError Router := do
  let rule ← (Rule.parse text).mapError .rule
  let active ← (Snapshot.build compiler rule 1).mapError .clause
  return { key, compiler, active }

def installRule (r : Router) (rule : Rule) : Except InstallError Router := do
  let active ← (Snapshot.build r.compiler rule (r.active.version + 1)).mapError .clause
  return { r with active }

def install (r : Router) (text : Option String) : Except InstallError Router := do
  r.installRule (← (Rule.parse text).mapError .rule)

/-- A short text about the router, for logs. -/
def describe (r : Router) : String :=
  "ConditionRouter \x7b key: " ++ Text.quoted r.key ++ ", version: " ++ toString r.active.version ++
    ", valid: " ++ toString r.active.rule.isValid ++ " \x7d"

end Router
end CallRouting
