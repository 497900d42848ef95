import CallRouting.Toml.Number
import CallRouting.Toml.Text

/-!
# Values and tables in TOML

* `Item` : what a key stands for while tables are put together. A table that has only been passed
  through, on the way to another one, is still open to be defined;
* `Item.descend` : changes the table that a path leads to, making tables on the way;
* `assign` : gives a dotted key its value, which no key may get twice;
* `value?` : reads a value; values in each other may be `maxDepth` deep, exclusive.
-/

namespace CallRouting.Toml

inductive Value where
  | string (s : String)
  | integer (n : Int)
  | float
  | boolean (b : Bool)
  | time (text : String)
  | array (items : List Value)
  | table (entries : List (String × Value))

/-! ## Tables under construction -/

inductive Item where
  | value (v : Value)
  /-- A table; `passed` if it has no definition of its own, `dotted` if a dotted key made it. -/
  | table (passed dotted : Bool) (entries : List (String × Item))
  /-- Tables that were defined one by one; the last one comes first. -/
  | tables (items : List (List (String × Item)))

abbrev Entries := List (String × Item)

def Entries.get? (es : Entries) (k : String) : Option Item :=
  (es.find? (·.1 = k)).map (·.2)

def Entries.set (es : Entries) (k : String) (i : Item) : Entries :=
  if (es.get? k).isSome then es.map fun (k', i') => if k' = k then (k, i) else (k', i')
  else es ++ [(k, i)]

namespace Item

/-- Changes the table at the end of a path by `f`, which is told whether a dotted key made it. The
path is that of a dotted key or of a heading; the former may not enter tables that have a
definition. -/
def descend (byKey : Bool) (f : Bool → Entries → Option Entries) :
    List String → Bool → Entries → Option Entries
  | [], dotted, es => f dotted es
  | k :: ks, _, es =>
    match es.get? k with
    | none => do
      let new ← descend byKey f ks byKey []
      some (es.set k (.table true byKey new))
    | some (.value _) => none
    | some (.tables []) => none
    | some (.tables (last :: before)) => do
      let new ← descend byKey f ks false last
      some (es.set k (.tables (new :: before)))
    | some (.table passed dotted inner) =>
      if byKey && !passed then none
      else do
        let new ← descend byKey f ks dotted inner
        some (es.set k (.table passed dotted new))

/-- Gives a key its value. A table that the rest of the path did not make is not added to. -/
def add (path : List String) (k : String) (v : Value) (dotted : Bool) (es : Entries) :
    Option Entries :=
  if dotted = path.isEmpty || (es.get? k).isSome then none else some (es.set k (.value v))

mutual

def toValue : Item → Value
  | .value v => v
  | .table _ _ es => .table (entriesToValues es)
  | .tables ts => .array (tablesToValues ts).reverse

def entriesToValues : List (String × Item) → List (String × Value)
  | [] => []
  | (k, i) :: r => (k, toValue i) :: entriesToValues r

def tablesToValues : List (List (String × Item)) → List Value
  | [] => []
  | es :: r => .table (entriesToValues es) :: tablesToValues r

end

end Item

/-- Gives the key at the end of a path its value. -/
def assign (es : Entries) (path : List String) (v : Value) : Option Entries :=
  match path.getLast? with
  | none => none
  | some k => Item.descend true (Item.add path.dropLast k v) path.dropLast false es

/-! ## Reading -/

/-- The text after blanks, line breaks and comments. -/
def skipGap (inComment : Bool) : List Char → Option (List Char)
  | [] => if inComment then none else some []
  | '\r' :: '\n' :: r => skipGap false r
  | '\n' :: r => skipGap false r
  | c :: r =>
    if inComment then if isPrinting c then skipGap true r else none
    else if isSpace c then skipGap false r
    else if c = '#' then skipGap true r
    else some (c :: r)

/-- The values of an array up to its closing bracket. `value?` reads one value. -/
def items? (value? : List Char → Option (Value × List Char)) (fuel : Nat) (s : List Char) :
    Option (List Value × List Char) :=
  match fuel with
  | 0 => none
  | fuel + 1 => do
    match ← skipGap false s with
    | ']' :: r => some ([], r)
    | s =>
      let (v, r) ← value? s
      match ← skipGap false r with
      | ',' :: r => (items? value? fuel r).map fun (vs, r) => (v :: vs, r)
      | ']' :: r => some ([v], r)
      | _ => none

/-- A key, an equals sign and a value. -/
def pair? (value? : List Char → Option (Value × List Char)) (s : List Char) :
    Option ((List String × Value) × List Char) := do
  let (path, r) ← keyPath? s
  let (v, r) ← value? (skipSpaces (← expect? '=' r))
  some ((path, v), r)

/-- The entries of a table on one line up to its closing brace. -/
def pairs? (value? : List Char → Option (Value × List Char)) (fuel : Nat) (es : Entries)
    (s : List Char) : Option (Entries × List Char) :=
  match fuel with
  | 0 => none
  | fuel + 1 => do
    let ((path, v), r) ← pair? value? s
    let es ← assign es path v
    match skipSpaces r with
    | ',' :: r => pairs? value? fuel es r
    | '\x7d' :: r => some (es, r)
    | _ => none

def scalar? : List Char → Option (Value × List Char)
  | 't' :: 'r' :: 'u' :: 'e' :: r => some (.boolean true, r)
  | 'f' :: 'a' :: 'l' :: 's' :: 'e' :: r => some (.boolean false, r)
  | s =>
    match string? s with
    | some (text, r) => some (.string text, r)
    | none => match time? s with
      | some (text, r) => some (.time text, r)
      | none => match float? s with
        | some r => some (.float, r)
        | none => (integer? s).map fun (n, r) => (.integer n, r)

def valueWithin? : (depth : Nat) → List Char → Option (Value × List Char)
  | 0, _ => none
  | depth + 1, s =>
    match depth, s with
    | 0, '[' :: _ => none
    | 0, '\x7b' :: _ => none
    | _, '[' :: r => do
      let (vs, r) ← items? (valueWithin? depth) s.length r
      some (.array vs, r)
    | _, '\x7b' :: r =>
      match skipSpaces r with
      | '\x7d' :: r => some (.table [], r)
      | r => do
        let (es, r) ← pairs? (valueWithin? depth) s.length [] r
        some (.table (Item.entriesToValues es), r)
    | _, s => scalar? s

def value? (s : List Char) : Option (Value × List Char) := valueWithin? maxDepth s

end CallRouting.Toml
