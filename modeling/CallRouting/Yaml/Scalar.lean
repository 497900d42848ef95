import CallRouting.Text.Number
import CallRouting.Yaml.Cursor

/-!
# YAML scalars

Each reader takes the place where a scalar begins and answers its text and the place after it, or
nothing if the text is malformed there.

* `plain?` : words without quotes, folded over lines that are indented far enough;
* `quoted?` : text between single quotes, where a quote is written twice, or between double quotes,
  where a backslash begins an escape;
* `block?` : the lines after `|`, kept as they are, or after `>`, folded.
-/

namespace CallRouting.Yaml

/-! ## Plain scalars -/

/-- A colon ends a word before a gap; in a flow collection its brackets and commas do so too. -/
def endsWord (flow : Bool) : List Char → Bool
  | [] => true
  | c :: r =>
    isBlank c || isBreak c || (c = ':' && atGap r) || (flow && isFlowIndicator c)

/-- In a flow collection no word may hold a colon right before an indicator. -/
def isMisplacedColon (flow : Bool) : List Char → Bool
  | ':' :: c :: _ => flow && (isFlowIndicator c || c = '?')
  | _ => false

/-- The word that a text begins with. -/
def word? (flow : Bool) : List Char → Option (List Char)
  | [] => some []
  | c :: r =>
    if isBlank c || isBreak c then some []
    else if isMisplacedColon flow (c :: r) then none
    else if endsWord flow (c :: r) then some []
    else (word? flow r).map (c :: ·)

/-- A scalar read so far, and whether it was followed by a line break. -/
structure Plain where
  text : List Char
  next : Cursor
  broken : Bool

/-- The further words of a plain scalar whose lines are indented to `indent`; `pieces` of it have
been read, the last one first. -/
def plainTail? (flow : Bool) (indent : Nat) : Nat → List (List Char) → Cursor → Option Plain
  | 0, _, _ => none
  | fuel + 1, pieces, c => do
    let (gap, c) ← Gap.read indent (c.rest.length + 1) {} c
    let done := some { text := pieces.reverse.flatten, next := c, broken := gap.broken }
    if (!flow && c.column < indent) || c.atDocumentMark || c.rest.head? = some '#' then done
    else
      let w ← word? flow c.rest
      if w.isEmpty then done
      else plainTail? flow indent fuel (w :: gap.folded :: pieces) (c.skip w.length)

def plain? (flow : Bool) (indent : Nat) (c : Cursor) : Option Plain := do
  let w ← word? flow c.rest
  let after := c.skip w.length
  if atGap after.rest && !after.rest.isEmpty then
    plainTail? flow indent (c.rest.length + 1) [w] after
  else some { text := w, next := after, broken := false }

/-! ## Quoted scalars -/

/-- The number written with exactly `n` hexadecimal digits. -/
def hex? (n : Nat) (s : List Char) : Option Nat :=
  if s.length < n then none else Text.natInBase? 16 (s.take n)

def charOf? (n : Nat) : Option Char :=
  if h : n.isValidChar then some (Char.ofNatAux n h) else none

/-- The escapes that stand for one character each. -/
def escaped? : Char → Option Char
  | '0' => some '\x00'
  | 'a' => some '\x07'
  | 'b' => some '\x08'
  | 't' | '\t' => some '\t'
  | 'n' => some '\n'
  | 'v' => some '\x0b'
  | 'f' => some '\x0c'
  | 'r' => some '\r'
  | 'e' => some '\x1b'
  | ' ' => some ' '
  | '"' => some '"'
  | '/' => some '/'
  | '\\' => some '\\'
  | 'N' => some '\u0085'
  | '_' => some '\u00a0'
  | 'L' => some '\u2028'
  | 'P' => some '\u2029'
  | _ => none

/-- The number of digits of an escape by code point. -/
def escapeDigits? : Char → Option Nat
  | 'x' => some 2
  | 'u' => some 4
  | 'U' => some 8
  | _ => none

/-- The character of the escape after a backslash, and how long the escape is. -/
def escape? : List Char → Option (Char × Nat)
  | [] => none
  | c :: r =>
    match escaped? c with
    | some d => some (d, 1)
    | none => do
      let n ← escapeDigits? c
      let d ← charOf? (← hex? n r)
      some (d, n + 1)

/-- The characters that stand for themselves between quotes. -/
def isOrdinary (quote c : Char) : Bool :=
  !isBlank c && !isBreak c && c ≠ quote && (quote = '\'' || c ≠ '\\')

/-- The text between two quotes, from the place after the first; `pieces` of it have been read,
the last one first. -/
def quotedTail? (quote : Char) : Nat → List (List Char) → Cursor → Option (List Char × Cursor)
  | 0, _, _ => none
  | fuel + 1, pieces, c =>
    match c.rest with
    | [] => none
    | d :: r =>
      if c.atDocumentMark then none
      else if d = quote then
        if quote = '\'' && r.head? = some quote then
          quotedTail? quote fuel ([quote] :: pieces) (c.skip 2)
        else some (pieces.reverse.flatten, c.skip 1)
      else if isOrdinary quote d then
        let (w, c) := c.span (isOrdinary quote)
        quotedTail? quote fuel (w :: pieces) c
      else if d = '\\' then
        match (c.skip 1).lineBreak? with
        | some (_, c) => do
          let (gap, c) ← Gap.read 0 (c.rest.length + 1) { broken := true } c
          quotedTail? quote fuel (gap.folded :: pieces) c
        | none => do
          let (e, n) ← escape? r
          quotedTail? quote fuel ([e] :: pieces) (c.skip (n + 1))
      else do
        let (gap, c) ← Gap.read 0 (c.rest.length + 1) {} c
        quotedTail? quote fuel (gap.folded :: pieces) c

/-- The scalar that begins with the quote at the cursor. -/
def quoted? (quote : Char) (c : Cursor) : Option (List Char × Cursor) :=
  quotedTail? quote (c.rest.length + 1) [] (c.skip 1)

/-! ## Block scalars -/

/-- What becomes of the line breaks at the end of a block. -/
inductive Chomping where
  | strip
  | clip
  | keep
deriving DecidableEq

def chomping? : List Char → Option Chomping
  | '+' :: _ => some .keep
  | '-' :: _ => some .strip
  | _ => none

/-- The chomping and the indentation written after the indicator, in either order, the place after
them, or nothing for an indentation of zero. -/
def blockHeader? (c : Cursor) : Option (Chomping × Option Nat × Cursor) :=
  let width (c : Cursor) : Option (Option Nat × Cursor) :=
    match c.rest with
    | d :: _ =>
      if d = '0' then none
      else if d.isDigit then some (some (d.toNat - '0'.toNat), c.skip 1)
      else some (none, c)
    | [] => some (none, c)
  match chomping? c.rest with
  | some chomp => do
    let (w, c) ← width (c.skip 1)
    some (chomp, w, c)
  | none => do
    let (w, c) ← width c
    match w, chomping? c.rest with
    | some _, some chomp => some (chomp, w, c.skip 1)
    | _, _ => some (.clip, w, c)

/-- The line breaks before the next line of a block, and the place where that line begins. Without
a known indentation it is found too: `deepest` is the deepest blank line so far. -/
def blockBreaks? (indent : Option Nat) : Nat → Nat → List Char → Cursor →
    Option (Nat × List Char × Cursor)
  | 0, _, _, _ => none
  | fuel + 1, deepest, breaks, c =>
    let open_ (c : Cursor) : Bool := match indent with
      | none => true
      | some n => c.column < n
    let blanks := (c.rest.takeWhile (· = ' ')).length
    let c := c.skip (match indent with
      | none => blanks
      | some n => min blanks (n - c.column))
    let deepest := max deepest c.column
    if open_ c && c.rest.head? = some '\t' then none
    else match c.lineBreak? with
      | some (b, c) => blockBreaks? indent fuel deepest (breaks ++ [b]) c
      | none => some (deepest, breaks, c)

/-- The lines of a block that is indented to `indent`, from the start of one of them: `pieces` have
been read, the last one first; `last` is the break that ended the line before and `breaks` are the
empty lines since. -/
def blockLines? (literal : Bool) (chomp : Chomping) (indent : Nat) : Nat → List (List Char) → Bool →
    Option Char → List Char → Cursor → Option (List Char × Cursor)
  | 0, _, _, _, _, _ => none
  | fuel + 1, pieces, blankBefore, last, breaks, c =>
    if c.column = indent && !c.rest.isEmpty then
      let blank := (c.rest.head?.map isBlank).getD false
      let joint :=
        if !literal && last = some '\n' && !blankBefore && !blank then
          if breaks.isEmpty then [' '] else breaks
        else last.toList ++ breaks
      let (line, c) := c.span (!isBreak ·)
      let (last, c) := match c.lineBreak? with
        | some (b, c) => (some b, c)
        | none => (none, c)
      do
        let (_, breaks, c) ← blockBreaks? (some indent) (c.rest.length + 1) 0 [] c
        blockLines? literal chomp indent fuel (line :: joint :: pieces) blank last breaks c
    else
      some (pieces.reverse.flatten ++ (if chomp = .strip then [] else last.toList) ++
        (if chomp = .keep then breaks else []), c)

/-- The block scalar whose indicator is at the cursor, below lines indented to `parent`. -/
def block? (literal : Bool) (parent : Int) (c : Cursor) : Option (List Char × Cursor) := do
  let (chomp, width, c) ← blockHeader? (c.skip 1)
  let c ← c.restOfLine?
  let fuel := c.rest.length + 1
  let given := width.map fun w => (max parent 0).toNat + w
  let (deepest, breaks, c) ← blockBreaks? given fuel 0 [] c
  let indent := given.getD (max deepest (max (parent + 1).toNat 1))
  blockLines? literal chomp indent fuel [] false none breaks c

end CallRouting.Yaml
