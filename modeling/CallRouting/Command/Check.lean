import CallRouting.Command.Basic
import CallRouting.Command.Failure
import CallRouting.Report.RuleReport

/-!
# Checking a rule

`RuleReport.ofText` compiles each clause of a rule, also when the rule is disabled, so that mistakes
show before it is enabled.
-/

namespace CallRouting

/-- Compiles clauses; the first that is refused is told by its number. -/
def compileAll (force : Bool) (index : Nat) : List String → Except Failure (List Clause)
  | [] => .ok []
  | condition :: r => do
    let clause ← (Clause.compile condition force).mapError (.clause index)
    return clause :: (← compileAll force (index + 1) r)

def RuleReport.ofRule (rule : Rule) : Except Failure RuleReport := do
  return { rule, clauses := ← compileAll rule.force 0 rule.conditions }

def RuleReport.ofText (text : String) : Except Failure RuleReport := do
  ofRule (← (Rule.parse (some text)).mapError .rule)

def CheckCommand.run (c : CheckCommand) (files : FileTree) (colours : Bool) :
    Except Failure String := do
  let report ← RuleReport.ofText (← (files.readText c.rule).mapError (.ruleFile c.rule))
  return if c.json then report.json.render else report.text colours

end CallRouting
