/-!
# Places in a YAML text

* the character classes of the format: line breaks, blanks, the characters of names and of tags,
  and the characters that a text may hold at all;
* `Cursor` : the rest of the text with the line, the column and the number of characters before it;
* `Cursor.lineBreak?` : a line break is one place, whatever its spelling;
* `Gap` : the blanks and breaks between two words of a scalar, and `Gap.folded`, the text that
  stands for them: a single line break folds to a space.
-/

namespace CallRouting.Yaml

/-! ## Characters -/

/-- Line feed, carriage return, next line, line separator and paragraph separator. -/
def isBreak (c : Char) : Bool :=
  c = '\n' || c = '\r' || c = '\u0085' || c = '\u2028' || c = '\u2029'

def isBlank (c : Char) : Bool := c = ' ' || c = '\t'

/-- The characters of anchors, directives and tag handles. -/
def isName (c : Char) : Bool := c.isAlphanum || c = '_' || c = '-'

def isFlowIndicator (c : Char) : Bool :=
  c = ',' || c = '[' || c = ']' || c = '{' || c = '}'

/-- The characters that a text may hold. -/
def isAllowed (c : Char) : Bool :=
  let n := c.toNat
  n = 0x09 || n = 0x0A || n = 0x0D || (0x20 ≤ n && n ≤ 0x7E) || n = 0x85 ||
    (0xA0 ≤ n && n ≤ 0xD7FF) || (0xE000 ≤ n && n ≤ 0xFFFD) || 0x10000 ≤ n

/-- The text is at an end, at a line break or at a blank. -/
def atGap : List Char → Bool
  | [] => true
  | c :: _ => isBlank c || isBreak c

/-- The text is at an end or at a line break. -/
def atLineEnd : List Char → Bool
  | [] => true
  | c :: _ => isBreak c

/-! ## Cursors -/

structure Cursor where
  rest : List Char
  index : Nat := 0
  line : Nat := 0
  column : Nat := 0

namespace Cursor

/-- Past `n` characters of one line. -/
def skip (c : Cursor) (n : Nat) : Cursor :=
  { c with rest := c.rest.drop n, index := c.index + n, column := c.column + n }

/-- The characters of this line that satisfy `p`, and the place after them. -/
def span (c : Cursor) (p : Char → Bool) : List Char × Cursor :=
  let taken := c.rest.takeWhile p
  (taken, c.skip taken.length)

/-- A line break as a scalar keeps it, and the place after it. -/
def lineBreak? (c : Cursor) : Option (Char × Cursor) :=
  let next (n : Nat) (rest : List Char) : Cursor :=
    { rest, index := c.index + n, line := c.line + 1, column := 0 }
  match c.rest with
  | '\r' :: '\n' :: r => some ('\n', next 2 r)
  | b :: r =>
    if isBreak b then some (if b = '\u2028' || b = '\u2029' then b else '\n', next 1 r) else none
  | [] => none

/-- The line begins with `---` or `...`, which bound documents. -/
def atDocumentMark (c : Cursor) : Bool :=
  c.column = 0 && match c.rest with
    | '-' :: '-' :: '-' :: r => atGap r
    | '.' :: '.' :: '.' :: r => atGap r
    | _ => false

/-- Past blanks and a comment, to the end of the line, if nothing else is on it. -/
def restOfLine? (c : Cursor) : Option Cursor :=
  let c := (c.span isBlank).2
  let c := if c.rest.head? = some '#' then (c.span (!isBreak ·)).2 else c
  if atLineEnd c.rest then
    match c.lineBreak? with
    | some (_, c) => some c
    | none => some c
  else none

end Cursor

/-! ## Gaps -/

/-- The blanks and line breaks between two words. Blanks count only before the first break. -/
structure Gap where
  blanks : List Char := []
  broken : Bool := false
  first : Option Char := none
  further : List Char := []

namespace Gap

/-- What a scalar holds in place of the gap. -/
def folded (g : Gap) : List Char :=
  if g.broken then
    if g.first = some '\n' then if g.further.isEmpty then [' '] else g.further
    else g.first.toList ++ g.further
  else g.blanks

/-- The gap at a cursor; a tab left of column `indent` may not follow a line break. -/
def read (indent : Nat) : Nat → Gap → Cursor → Option (Gap × Cursor)
  | 0, g, c => some (g, c)
  | fuel + 1, g, c =>
    match c.rest with
    | [] => some (g, c)
    | b :: _ =>
      if isBlank b then
        if g.broken then
          if b = '\t' && c.column < indent then none else read indent fuel g (c.skip 1)
        else read indent fuel { g with blanks := g.blanks ++ [b] } (c.skip 1)
      else match c.lineBreak? with
        | none => some (g, c)
        | some (b, c) =>
          if g.broken then read indent fuel { g with further := g.further ++ [b] } c
          else read indent fuel { broken := true, first := some b } c

end Gap
end CallRouting.Yaml
