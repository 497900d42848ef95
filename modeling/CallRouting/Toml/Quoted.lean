import CallRouting.Text.Search

/-!
# Writing strings in TOML

`quoted s` writes `s` in the plainest of the forms that a string may have:

* between double quotes, if it then needs no escapes;
* between single quotes, if it is on one line and has none of them in it;
* in a block of either kind, if that spares escapes, with its text on lines of its own if it has a
  line break;
* with escapes otherwise, over several lines if it has a line break.
-/

namespace CallRouting.Toml

/-- The characters that cannot stand for themselves between single quotes. -/
def isCode (c : Char) : Bool := (c.toNat < 0x20 && c ≠ '\t' && c ≠ '\n') || c = '\x7f'

/-- The length of the longest run of a character. -/
def longestRun (q : Char) (s : List Char) : Nat :=
  (s.foldl (fun (best, run) c => if c = q then (max best (run + 1), run + 1) else (best, 0))
    (0, 0)).1

/-- What may be written without escapes, and how. -/
structure Shape where
  /-- A control character that is neither a tab nor a line break. -/
  code : Bool
  backslash : Bool
  lines : Bool
  /-- The longest run of double quotes, and that of single quotes. -/
  quotes : Nat
  apostrophes : Nat

def Shape.ofText (s : List Char) : Shape where
  code := s.any isCode
  backslash := s.contains '\\'
  lines := s.contains '\n'
  quotes := longestRun '"' s
  apostrophes := longestRun '\'' s

/-- A character as four hexadecimal digits, upper case. -/
def codeEscape (c : Char) : List Char :=
  '\\' :: 'u' :: ((Nat.toDigits 16 c.toNat).map Char.toUpper).leftpad 4 '0'

/-- A string with escapes. `block` says that it stands over several lines; then up to two quotes in
a row need none. `run` is how many stand here already. -/
def escapeFrom (block : Bool) (run : Nat) : List Char → List Char
  | [] => []
  | c :: r =>
    let limit := if block then 2 else 0
    if c = '"' then
      if run + 1 > limit then '\\' :: '"' :: escapeFrom block 0 r
      else '"' :: escapeFrom block (run + 1) r
    else
      (match c with
        | '\x08' => ['\\', 'b']
        | '\t' => ['\\', 't']
        | '\x0c' => ['\\', 'f']
        | '\r' => ['\\', 'r']
        | '\\' => ['\\', '\\']
        | '\n' => if block then ['\n'] else ['\\', 'n']
        | c => if isCode c then codeEscape c else [c]) ++ escapeFrom block 0 r

/-- The quotes of a block. -/
def block (q : Char) (lines : Bool) (s : List Char) : List Char :=
  [q, q, q] ++ (if lines then ['\n'] else []) ++ s ++ [q, q, q]

def quotedChars (s : List Char) : List Char :=
  let shape := Shape.ofText s
  if !shape.code && !shape.backslash && !shape.lines && shape.quotes = 0 then
    '"' :: escapeFrom false 0 s ++ ['"']
  else if !shape.code && !shape.lines && shape.apostrophes = 0 then '\'' :: s ++ ['\'']
  else if !shape.code && !shape.backslash && shape.quotes ≤ 2 then
    block '"' shape.lines (escapeFrom true 0 s)
  else if !shape.code && shape.apostrophes ≤ 2 then block '\'' shape.lines s
  else if shape.lines then block '"' true (escapeFrom true 0 s)
  else '"' :: escapeFrom false 0 s ++ ['"']

def quoted (s : String) : String := String.ofList (quotedChars s.toList)

end CallRouting.Toml
