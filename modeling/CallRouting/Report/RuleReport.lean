import CallRouting.Clause.Basic
import CallRouting.Report.Json
import CallRouting.Report.Table
import CallRouting.Report.Tint
import CallRouting.Rule

/-!
# Reports on rules

A `RuleReport` says what is in a rule, clause by clause: as a table or as JSON.
-/

namespace CallRouting

open Report (Json Table answer tinted)

/-- A rule with its clauses. -/
structure RuleReport where
  rule : Rule
  clauses : List Clause

namespace RuleReport

/-! ## Table -/

def summary (r : RuleReport) (colours : Bool) : String :=
  let status := if r.rule.isValid then tinted colours .green "valid"
    else tinted colours .yellow "inactive (no filtering)"
  "Rule: " ++ status ++ "  enabled: " ++ answer colours r.rule.enabled ++
    "  force: " ++ answer colours r.rule.force ++ "  runtime: " ++ answer colours r.rule.runtime ++
    "  priority: " ++ toString r.rule.priority

def row (colours : Bool) (clause : Clause) (index : Nat) : List String :=
  [toString index, clause.source, answer colours clause.everyCall,
    if clause.blacklists then tinted colours .red "blacklist" else tinted colours .cyan "filter"]

def table (r : RuleReport) (colours : Bool) : Table where
  header := ["#", "Clause", "Every call", "Action"]
  rows := r.clauses.zipIdx.map fun (clause, index) => row colours clause index

def text (r : RuleReport) (colours : Bool) : String :=
  r.summary colours ++ "\n" ++ (r.table colours).draw

/-! ## JSON -/

def clauseJson (clause : Clause) (index : Nat) : Json :=
  .ofFields [("index", .number index), ("clause", .text clause.source),
    ("every_call", .bool clause.everyCall), ("blacklist", .bool clause.blacklists)]

def json (r : RuleReport) : Json :=
  .ofFields [("rule", .ofFields [
    ("key", .ofOption .text r.rule.key),
    ("scope", .ofOption (.text ·.name) r.rule.scope),
    ("valid", .bool r.rule.isValid), ("enabled", .bool r.rule.enabled),
    ("force", .bool r.rule.force), ("runtime", .bool r.rule.runtime),
    ("priority", .number r.rule.priority),
    ("clauses", .array (r.clauses.zipIdx.map fun (clause, index) => clauseJson clause index))])]

end RuleReport
end CallRouting
