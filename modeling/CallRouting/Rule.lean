import CallRouting.Text.Blank
import CallRouting.Yaml.Value

/-!
# Rules

A `Rule` is one version of a routing policy, as its administrator wrote it.

* `Rule.isValid` : a rule that is disabled or has no conditions filters nothing;
* `Rule.ofEntries?` : the rule that a mapping describes; fields may be left out and unknown fields
  are passed over, but no field may have a value of another type;
* `Rule.parse` : the rule written in a text; no text, and a blank one, is the absent rule.
-/

namespace CallRouting

open Yaml (Value)

/-- Where a rule was published. -/
inductive Scope where
  | application
  | service
deriving DecidableEq

def Scope.name : Scope → String
  | application => "application"
  | service => "service"

def Scope.ofName? (s : String) : Option Scope :=
  if s = "application" then some application
  else if s = "service" then some service
  else none

structure Rule where
  /-- The texts of the clauses, in the order in which they apply. -/
  conditions : List String := []
  force : Bool := false
  runtime : Bool := false
  enabled : Bool := true
  priority : Int := 0
  scope : Option Scope := none
  key : Option String := none
deriving DecidableEq

/-- The kinds of values that are no mapping. -/
inductive RootKind where
  | null
  | boolean
  | number
  | string
  | sequence
  | tagged

def RootKind.name : RootKind → String
  | null => "null"
  | boolean => "boolean"
  | number => "number"
  | string => "string"
  | sequence => "sequence"
  | tagged => "tagged value"

inductive RuleError where
  /-- The text is malformed, or a field has a value of the wrong type. -/
  | malformed
  | notAMapping (found : RootKind)

def RuleError.message : RuleError → String
  | malformed => "Malformed rule document"
  | notAMapping found => "Rule document must be a mapping, found " ++ found.name

namespace Rule

/-- The rule in force where none is published. -/
def absent : Rule := {}

def isValid (r : Rule) : Bool := r.enabled && !r.conditions.isEmpty

/-! ## Fields -/

/-- A value without the tags around it. -/
def untagged : Value → Value
  | .tagged _ v => untagged v
  | v => v

def text? (v : Value) : Option String :=
  match untagged v with
  | .text s => some s
  | _ => none

def bool? (v : Value) : Option Bool :=
  match untagged v with
  | .bool b => some b
  | _ => none

/-- An integer of 32 bits. -/
def priority? (v : Value) : Option Int :=
  match untagged v with
  | .number (.int n) =>
    if Int32.minValue.toInt ≤ n ∧ n ≤ Int32.maxValue.toInt then some n else none
  | _ => none

def conditions? (v : Value) : Option (List String) :=
  match untagged v with
  | .sequence vs => vs.mapM fun v => (text? v).map Text.trimmed
  | .null => some []
  | _ => none

/-- A scope by name, or as a tag with nothing under it. -/
def scope? : Value → Option (Option Scope)
  | .null => some none
  | .text s => (Scope.ofName? s).map some
  | .tagged tag v => match untagged v with
    | .null => (Scope.ofName? tag).map some
    | _ => none
  | _ => none

def key? : Value → Option (Option String)
  | .null => some none
  | v => (text? v).map some

/-- One field of a rule. -/
def withField? (r : Rule) (name : String) (v : Value) : Option Rule :=
  match name with
  | "scope" => do return { r with scope := ← scope? v }
  | "key" => do return { r with key := ← key? v }
  | "enabled" => do return { r with enabled := ← bool? v }
  | "force" => do return { r with force := ← bool? v }
  | "runtime" => do return { r with runtime := ← bool? v }
  | "priority" => do return { r with priority := ← priority? v }
  | "conditions" => do return { r with conditions := ← conditions? v }
  | _ => some r

def fieldNames : List String :=
  ["scope", "key", "enabled", "force", "runtime", "priority", "conditions"]

/-- The rule that a mapping describes. Its keys are texts, and it has no field twice. -/
def ofEntries? (entries : List (Value × Value)) : Option Rule := do
  let fields ← entries.mapM fun (k, v) => (text? k).map (·, v)
  if fieldNames.any fun n => (fields.filter (·.1 = n)).length > 1 then none
  fields.foldlM (fun r (name, v) => r.withField? name v) {}

def ofValue : Value → Except RuleError Rule
  | .mapping entries =>
    match ofEntries? entries with
    | some r => .ok r
    | none => .error .malformed
  | .null => .error (.notAMapping .null)
  | .bool _ => .error (.notAMapping .boolean)
  | .number _ => .error (.notAMapping .number)
  | .text _ => .error (.notAMapping .string)
  | .sequence _ => .error (.notAMapping .sequence)
  | .tagged .. => .error (.notAMapping .tagged)

/-- The rule written in a text. -/
def parse (text : Option String) : Except RuleError Rule :=
  match text with
  | none => .ok absent
  | some s =>
    if Text.trim s.toList = [] then .ok absent
    else match Yaml.parse? s with
      | some v => ofValue v
      | none => .error .malformed

end Rule
end CallRouting
