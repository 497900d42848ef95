import CallRouting.Text.Decimal
import CallRouting.Yaml.Node

/-!
# YAML values

* `plainValue?` : what a scalar without quotes means: null, a truth value, a number or its text;
* `Value.same` : equality of values, in which the order of a mapping's entries does not count;
* `Document.value?` : the value of a document. A mapping may not have one key twice, collections may
  be nested 128 deep, and references may be followed a hundred times as often as the document has
  parts, so that no small document stands for a huge value;
* `parse?` : the value that a text holds.
-/

namespace CallRouting.Yaml

open Text (Binary64)

/-! ## Scalars -/

inductive Number where
  | int (n : Int)
  | real (negative : Bool) (magnitude : Binary64)
  | infinite (negative : Bool)
  | nan
deriving DecidableEq

inductive Value where
  | null
  | bool (b : Bool)
  | number (n : Number)
  | text (s : String)
  | sequence (items : List Value)
  | mapping (entries : List (Value × Value))
  | tagged (tag : String) (value : Value)

def isNull (s : List Char) : Bool :=
  s ∈ ["null".toList, "Null".toList, "NULL".toList, "~".toList]

def bool? (s : List Char) : Option Bool :=
  if s ∈ ["true".toList, "True".toList, "TRUE".toList] then some true
  else if s ∈ ["false".toList, "False".toList, "FALSE".toList] then some false
  else none

/-- Decimal digits with a needless zero in front are a text and no number. -/
def isPadded (s : List Char) : Bool :=
  let ds := match s with
    | '-' :: r => r
    | '+' :: r => r
    | _ => s
  match ds with
  | '0' :: r => !r.isEmpty && r.all Char.isDigit
  | _ => false

/-- The digits of an integer without its sign, in base 16, 8, 2 or 10. -/
def magnitude? : List Char → Option Nat
  | '0' :: 'x' :: r => Text.natInBase? 16 r
  | '0' :: 'o' :: r => Text.natInBase? 8 r
  | '0' :: 'b' :: r => Text.natInBase? 2 r
  | s => if isPadded s then none else Text.natInBase? 10 s

/-- An integer of machine size, or one that is too large for it. -/
inductive Whole where
  | fits (n : Int)
  | tooLarge

/-- The integer that a text writes. One of more than 128 bits is no integer. -/
def whole? (s : List Char) : Option Whole :=
  match s with
  | '-' :: r => do
    let n ← magnitude? r
    if Int64.minValue.toInt ≤ -n then some (.fits (-n))
    else if n ≤ Nat.pow 2 127 then some .tooLarge
    else none
  | _ => do
    let n ← magnitude? (match s with
      | '+' :: r => r
      | _ => s)
    if n < UInt64.size then some (.fits n)
    else if n < Nat.pow 2 128 then some .tooLarge
    else none

def isInfinity (s : List Char) : Bool :=
  s ∈ [".inf".toList, ".Inf".toList, ".INF".toList]

/-- The number that a text writes with a point, an exponent or neither. -/
def real? (s : List Char) : Option Number :=
  let signed (negative : Bool) (r : List Char) : Option Number :=
    if isInfinity r then some (.infinite negative)
    else do
      let m ← (← Text.Decimal.parse? r).toBinary64?
      some (.real (negative && m ≠ .zero) m)
  if s ∈ [".nan".toList, ".NaN".toList, ".NAN".toList] then some .nan
  else match s with
    | '-' :: r => signed true r
    | '+' :: r => signed false r
    | _ => signed false s

def wholeValue? : Whole → Option Value
  | .fits n => some (.number (.int n))
  | .tooLarge => none

def plainValue? (s : List Char) : Option Value :=
  if s.isEmpty || isNull s then some .null
  else match bool? s with
    | some b => some (.bool b)
    | none => match whole? s with
      | some w => wholeValue? w
      | none => match if isPadded s then none else real? s with
        | some n => some (.number n)
        | none => some (.text (String.ofList s))

/-- The name of a tag that a document gives to its own values. -/
def ownTag? : Option (List UInt8) → Option String
  | some (0x21 :: r) => String.fromUTF8? ⟨r.toArray⟩
  | _ => none

def coreTag (name : String) : List UInt8 := ("tag:yaml.org,2002:" ++ name).toUTF8.toList

/-- The value of a scalar whose own tag, if it has one, is left aside. -/
def scalarValue? (tag : Option (List UInt8)) (plain : Bool) (s : List Char) : Option Value :=
  match tag with
  | none => if plain then plainValue? s else some (.text (String.ofList s))
  | some t =>
    if t = coreTag "bool" then (bool? s).map .bool
    else if t = coreTag "int" then (whole? s).bind wholeValue?
    else if t = coreTag "float" then (real? s).map .number
    else if t = coreTag "null" then if isNull s then some .null else none
    else if t.head? = some 0x21 && plain then plainValue? s
    else some (.text (String.ofList s))

/-! ## Equality -/

mutual

def Value.same : Value → Value → Bool
  | .null, .null => true
  | .bool a, .bool b => a = b
  | .number a, .number b => a = b
  | .text a, .text b => a = b
  | .tagged t a, .tagged u b => t = u && a.same b
  | .sequence as, .sequence bs => Value.sameItems as bs
  | .mapping as, .mapping bs => as.length = bs.length && Value.sameEntries as bs
  | _, _ => false

def Value.sameItems : List Value → List Value → Bool
  | [], [] => true
  | a :: as, b :: bs => a.same b && Value.sameItems as bs
  | _, _ => false

/-- Each entry of the first list is in the second. -/
def Value.sameEntries : List (Value × Value) → List (Value × Value) → Bool
  | [], _ => true
  | (k, v) :: as, bs => bs.any (fun (k', v') => k.same k' && v.same v') && Value.sameEntries as bs

end

/-! ## Documents -/

namespace Document

/-- A name as it is compared: one more mark of an own tag may stand before it. -/
def tagName? (s : String) : Option String :=
  match s.toList with
  | [] => none
  | '!' :: c :: r => some (String.ofList (c :: r))
  | _ => some s

/-- Follows a reference, and counts it. -/
def follow (d : Document) (number : Nat) : StateT Nat Option Node := do
  let used := (← get) + 1
  if used > 100 * d.events then failure
  set used
  match d.target? number with
  | some n => return n
  | none => failure

/-- The value of a node with at most `depth` collections in each other. Below an own tag, `known`,
no further one is looked for. -/
def nodeValue (d : Document) (depth : Nat) (known : Bool) (n : Node) : StateT Nat Option Value := do
  let (n, known) ← match n with
    | .reference k => do pure (← d.follow k, false)
    | n => pure (n, known)
  let own (tag : Option (List UInt8)) : Option String := if known then none else ownTag? tag
  let wrap (tag : Option (List UInt8)) (v : Value) : StateT Nat Option Value :=
    match own tag with
    | none => return v
    | some s => do return .tagged (← tagName? s) v
  match n with
  | .reference _ => failure
  | .scalar tag plain text =>
    let v ← scalarValue? (if known || (own tag).isSome then none else tag) plain text
    wrap tag v
  | .sequence tag items =>
    match depth with
    | 0 => failure
    | depth + 1 => do
      let vs ← items.mapM (nodeValue d depth false)
      wrap tag (.sequence vs)
  | .mapping tag entries =>
    match depth with
    | 0 => failure
    | depth + 1 => do
      let known := known || (own tag).isSome
      let es ← entries.foldlM (fun es (k, v) => do
        let k ← nodeValue d depth known k
        if es.any (fun (k', _) => Value.same k' k) then failure
        return (k, ← nodeValue d depth false v) :: es) []
      wrap tag (.mapping es.reverse)

/-- The value of the document, if it is within bounds. -/
def value? (d : Document) : Option Value := ((nodeValue d 128 false d.root).run 0).map (·.1)

end Document

/-- The value that a text holds; nothing if the text is malformed or holds two documents. -/
def parse? (text : String) : Option Value := do
  let tokens ← Token.scan? text.toList
  (← Document.compose? tokens).value?

end CallRouting.Yaml
