import CallRouting.Dict
import CallRouting.Toml.Value

/-!
# Fields of TOML values

How records are read from values. A record is a table, in which the order of the fields does not
count and unknown ones are passed over, or an array, which lists the first fields in their order.

* `Value.fields?` : the fields of a record with these names;
* `field?` : one field, or what stands for it where it is missing.
-/

namespace CallRouting.Toml

variable {α : Type}

/-- The one field that a time has. -/
def timeField : String := "$__toml_private_datetime"

abbrev Fields := List (String × Value)

namespace Value

/-- The entries of a table. -/
def entries? : Value → Option Fields
  | .table es => some es
  | .time text => some [(timeField, .string text)]
  | _ => none

def fields? (names : List String) : Value → Option Fields
  | .array vs => some (names.zip vs)
  | v => v.entries?

def string? : Value → Option String
  | .string s => some s
  | _ => none

/-- A number that is not negative and below a bound. -/
def natBelow? (bound : Nat) : Value → Option Nat
  | .integer n => if 0 ≤ n ∧ n < bound then some n.toNat else none
  | _ => none

def array? : Value → Option (List Value)
  | .array vs => some vs
  | _ => none

/-- Texts by name. -/
def texts? (v : Value) : Option (Dict String) := do
  let texts ← (← v.entries?).mapM fun (k, v) => v.string?.map (k, ·)
  return .ofList texts

/-- A name out of several: a string, or a table with an empty value under the name. -/
def choice? (ofName? : String → Option α) : Value → Option α
  | .string s => ofName? s
  | .table [(k, .table [])] => ofName? k
  | .table [(k, .array [])] => ofName? k
  | _ => none

end Value

/-- The field with this name. A missing field is `absent`, if that is given. -/
def field? (fs : Fields) (name : String) (absent : Option α) (read? : Value → Option α) :
    Option α :=
  match fs.find? (·.1 = name) with
  | some (_, v) => read? v
  | none => absent

end CallRouting.Toml
