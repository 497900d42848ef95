import CallRouting.Text.Number

/-!
# Strings and keys in TOML

Each function reads from the front of a text and answers what it read and the text after that.

* `basicRest`, `literalRest` : the rest of a string on one line, after its opening quote;
* `blockRest`, `literalBlockRest` : the rest of a string over several lines, after its three opening
  quotes; up to two more quotes may stand before the closing ones;
* `string?` : a string of any of the four forms;
* `keyPath?` : the names of a dotted key.
-/

namespace CallRouting.Toml

/-! ## Characters -/

def isSpace (c : Char) : Bool := c = ' ' || c = '\t'

/-- Characters that may stand in comments and strings: all but the control characters, of which the
tab is allowed. -/
def isPrinting (c : Char) : Bool := c = '\t' || (0x20 ≤ c.toNat && c.toNat ≠ 0x7F)

def isBare (c : Char) : Bool := c.isAlphanum || c = '_' || c = '-'

def skipSpaces (s : List Char) : List Char := s.dropWhile isSpace

/-- The text after a line break, if one stands here. -/
def newline? : List Char → Option (List Char)
  | '\n' :: r => some r
  | '\r' :: '\n' :: r => some r
  | _ => none

def skipNewline (s : List Char) : List Char := (newline? s).getD s

/-! ## Escapes -/

/-- The character with this number in hexadecimal digits, if there is one. -/
def charOf? (digits : List Char) : Option Char := do
  let n ← Text.natInBase? 16 digits
  if n < 0xD800 ∨ (0xDFFF < n ∧ n < 0x110000) then some (Char.ofNat n) else none

def shortEscape? : Char → Option Char
  | 'b' => some '\x08'
  | 't' => some '\t'
  | 'n' => some '\n'
  | 'f' => some '\x0c'
  | 'r' => some '\r'
  | '"' => some '"'
  | '\\' => some '\\'
  | _ => none

/-! ## Strings on one line -/

/-- One more character in front of what was read. -/
def consRead (c : Char) : Option (List Char × List Char) → Option (List Char × List Char) :=
  Option.map fun (s, r) => (c :: s, r)

def basicRest : List Char → Option (List Char × List Char)
  | [] => none
  | '"' :: r => some ([], r)
  | '\\' :: 'u' :: a :: b :: c :: d :: r => do
    consRead (← charOf? [a, b, c, d]) (basicRest r)
  | '\\' :: 'U' :: a :: b :: c :: d :: e :: f :: g :: h :: r => do
    consRead (← charOf? [a, b, c, d, e, f, g, h]) (basicRest r)
  | '\\' :: e :: r => do consRead (← shortEscape? e) (basicRest r)
  | c :: r => if isPrinting c then consRead c (basicRest r) else none

def literalRest : List Char → Option (List Char × List Char)
  | [] => none
  | '\'' :: r => some ([], r)
  | c :: r => if isPrinting c then consRead c (literalRest r) else none

/-! ## Strings over several lines -/

/-- The end of a string over several lines, after the three closing quotes: quotes that follow are
still inside, two at most. -/
def closing (q : Char) : List Char → List Char × List Char
  | a :: b :: r =>
    if a = q && b = q then ([q, q], r) else if a = q then ([q], b :: r) else ([], a :: b :: r)
  | [a] => if a = q then ([q], []) else ([], [a])
  | [] => ([], [])

/-- Whether a backslash that stands before this text ends its line. -/
def endsLine (s : List Char) : Bool := (newline? (skipSpaces s)).isSome

/-- `gap` says that a backslash has ended a line and blanks are passed over. -/
def blockRest (gap : Bool) : List Char → Option (List Char × List Char)
  | [] => none
  | '"' :: '"' :: '"' :: r => some (closing '"' r)
  | '\\' :: 'u' :: a :: b :: c :: d :: r => do
    consRead (← charOf? [a, b, c, d]) (blockRest false r)
  | '\\' :: 'U' :: a :: b :: c :: d :: e :: f :: g :: h :: r => do
    consRead (← charOf? [a, b, c, d, e, f, g, h]) (blockRest false r)
  | '\\' :: e :: r =>
    if endsLine (e :: r) then blockRest true (e :: r)
    else do consRead (← shortEscape? e) (blockRest false r)
  | '\r' :: '\n' :: r => if gap then blockRest true r else consRead '\n' (blockRest false r)
  | '\n' :: r => if gap then blockRest true r else consRead '\n' (blockRest false r)
  | c :: r =>
    if gap && isSpace c then blockRest true r
    else if isPrinting c then consRead c (blockRest false r)
    else none

def literalBlockRest : List Char → Option (List Char × List Char)
  | [] => none
  | '\'' :: '\'' :: '\'' :: r => some (closing '\'' r)
  | '\r' :: '\n' :: r => consRead '\n' (literalBlockRest r)
  | '\n' :: r => consRead '\n' (literalBlockRest r)
  | c :: r => if isPrinting c then consRead c (literalBlockRest r) else none

def string? (s : List Char) : Option (String × List Char) :=
  let read := match s with
    | '"' :: '"' :: '"' :: r => blockRest false (skipNewline r)
    | '"' :: r => basicRest r
    | '\'' :: '\'' :: '\'' :: r => literalBlockRest (skipNewline r)
    | '\'' :: r => literalRest r
    | _ => none
  read.map fun (s, r) => (String.ofList s, r)

/-! ## Keys -/

def name? : List Char → Option (String × List Char)
  | '"' :: r => (basicRest r).map fun (s, r) => (String.ofList s, r)
  | '\'' :: r => (literalRest r).map fun (s, r) => (String.ofList s, r)
  | s =>
    let name := s.takeWhile isBare
    if name.isEmpty then none else some (String.ofList name, s.dropWhile isBare)

/-- How deep values and keys may be nested, exclusive. -/
def maxDepth : Nat := 80

/-- At most `fuel` names with points between them, and blanks around each. -/
def names? (fuel : Nat) (s : List Char) : Option (List String × List Char) :=
  match fuel with
  | 0 => none
  | fuel + 1 => do
    let (name, r) ← name? (skipSpaces s)
    match skipSpaces r with
    | '.' :: r => (names? fuel r).map fun (names, r) => (name :: names, r)
    | r => some ([name], r)

def keyPath? (s : List Char) : Option (List String × List Char) := names? (maxDepth - 1) s

end CallRouting.Toml
