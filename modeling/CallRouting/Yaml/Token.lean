import CallRouting.Yaml.Scalar

/-!
# YAML tokens

* `Token` : the indicators, names and scalars of a text, with the starts and ends of block
  collections, which indentation implies;
* `Scan` : the state of reading tokens: the block collections that are open, and the places where a
  key without an indicator may have begun;
* `Scan.token?` : reads one token; a `:` turns what was read since such a place into a key;
* `Token.scan?` : the tokens of a text.
-/

namespace CallRouting.Yaml

inductive Token where
  | version (major minor : Nat)
  | tagAlias (handle : List Char) (stem : List UInt8)
  | documentStart
  | documentEnd
  | blockSequence
  | blockMapping
  | blockEnd
  | flowSequence
  | flowSequenceEnd
  | flowMapping
  | flowMappingEnd
  | entry
  | comma
  | key
  | value
  | reference (name : List Char)
  | anchor (name : List Char)
  | tag (handle : List Char) (suffix : List UInt8)
  | scalar (plain : Bool) (text : List Char)
deriving DecidableEq

/-! ## Tags and directives -/

def isTagChar (verbatim : Bool) (c : Char) : Bool :=
  isName c || c ∈ [';', '/', '?', ':', '@', '&', '=', '+', '$', '.', '%', '!', '~', '*', '\'', '(',
    ')'] || (verbatim && c ∈ [',', '[', ']'])

/-- The number of octets of a character, by the first of them. -/
def octetCount? (n : Nat) : Option Nat :=
  if n < 0x80 then some 1
  else if 0xC0 ≤ n && n < 0xE0 then some 2
  else if 0xE0 ≤ n && n < 0xF0 then some 3
  else if 0xF0 ≤ n && n < 0xF8 then some 4
  else none

/-- The octets of a tag, in which `%` begins an octet that is written with two digits. `due` octets
of a character are still to come, and only escapes may bring them. -/
def tagOctets? (due : Nat) : List Char → Option (List UInt8)
  | [] => if due = 0 then some [] else none
  | '%' :: h :: l :: r => do
    let n ← Text.natInBase? 16 [h, l]
    let due ←
      if due = 0 then (octetCount? n).map (· - 1)
      else if 0x80 ≤ n && n < 0xC0 then some (due - 1)
      else none
    return n.toUInt8 :: (← tagOctets? due r)
  | c :: r =>
    if c = '%' || due ≠ 0 then none
    else (tagOctets? 0 r).map (String.utf8EncodeChar c ++ ·)

/-- The octets of the tag characters at the cursor, after those of `head`. -/
def tagText? (verbatim : Bool) (head : List Char) (c : Cursor) : Option (List UInt8 × Cursor) := do
  let (w, c) := c.span (isTagChar verbatim)
  if head.isEmpty && w.isEmpty then none
  else some (← tagOctets? 0 (head.drop 1 ++ w), c)

/-- `!`, `!name` or `!name!`. -/
def tagHandle? (c : Cursor) : Option (List Char × Cursor) :=
  if c.rest.head? = some '!' then
    let (w, c) := (c.skip 1).span isName
    if c.rest.head? = some '!' then some ('!' :: w ++ ['!'], c.skip 1) else some ('!' :: w, c)
  else none

/-- A tag, as the handle of a tag alias and what follows it; without a handle it is meant as
written. -/
def tag? (flow : Bool) (c : Cursor) : Option (Token × Cursor) := do
  let (handle, suffix, c) ←
    if (c.rest.drop 1).head? = some '<' then do
      let (text, c) ← tagText? true [] (c.skip 2)
      if c.rest.head? = some '>' then some ([], text, c.skip 1) else none
    else do
      let (handle, c) ← tagHandle? c
      if handle.length > 1 && handle.getLast? = some '!' then
        let (text, c) ← tagText? false [] c
        some (handle, text, c)
      else
        let (text, c) ← tagText? false handle c
        if text.isEmpty then some ([], [0x21], c) else some (['!'], text, c)
  if atGap c.rest || (flow && c.rest.head? = some ',') then some (.tag handle suffix, c) else none

/-- One to nine digits. -/
def versionNumber? (c : Cursor) : Option (Nat × Cursor) :=
  let (w, c) := c.span Char.isDigit
  if w.length > 9 then none else (Text.natInBase? 10 w).map (·, c)

/-- The directive whose `%` is at the cursor. -/
def directive? (c : Cursor) : Option (Token × Cursor) := do
  let (name, c) := (c.skip 1).span isName
  if !atGap c.rest then none
  let c := (c.span isBlank).2
  if name = "YAML".toList then
    let (major, c) ← versionNumber? c
    if c.rest.head? ≠ some '.' then none
    let (minor, c) ← versionNumber? (c.skip 1)
    some (.version major minor, ← c.restOfLine?)
  else if name = "TAG".toList then
    let (handle, c) ← tagHandle? c
    if handle.length > 1 && handle.getLast? ≠ some '!' then none
    let (gap, c) := c.span isBlank
    if gap.isEmpty then none
    let (stem, c) ← tagText? true [] c
    if !atGap c.rest then none
    some (.tagAlias handle stem, ← c.restOfLine?)
  else none

/-! ## Reading tokens -/

/-- A place where a key may have begun: the number of tokens before it, and whether only a key can
stand there. -/
structure KeyPlace where
  position : Nat
  required : Bool
  index : Nat
  line : Nat
  column : Nat

structure Scan where
  cursor : Cursor
  /-- The tokens read, the last one first. -/
  tokens : List Token := []
  /-- The column of the innermost open block collection, and those of the ones around it. -/
  indent : Int := -1
  outerIndents : List Int := []
  /-- Whether a key may begin at the cursor. -/
  keyAllowed : Bool := true
  keyPlace : Option KeyPlace := none
  /-- The key places of the collections around each open flow collection. -/
  outerPlaces : List (Option KeyPlace) := []

namespace Scan

/-- Whether a flow collection is open. -/
def flow (s : Scan) : Bool := !s.outerPlaces.isEmpty

def push (s : Scan) (t : Token) : Scan := { s with tokens := t :: s.tokens }

/-- A token of `n` characters that stand for themselves. -/
def indicator (s : Scan) (t : Token) (n : Nat) : Scan :=
  { s with tokens := t :: s.tokens, cursor := s.cursor.skip n }

/-- Puts tokens in front of those that came after the first `position` ones. -/
def insertAt (s : Scan) (position : Nat) (ts : List Token) : Scan :=
  let later := s.tokens.length - position
  { s with tokens := s.tokens.take later ++ ts.reverse ++ s.tokens.drop later }

/-- A key must end on its line and within 1024 characters. -/
def refresh (s : Scan) (p : Option KeyPlace) : Option (Option KeyPlace) :=
  match p with
  | none => some none
  | some p =>
    if p.line < s.cursor.line || p.index + 1024 < s.cursor.index then
      if p.required then none else some none
    else some (some p)

def refreshed? (s : Scan) : Option Scan := do
  let keyPlace ← s.refresh s.keyPlace
  let outerPlaces ← s.outerPlaces.mapM s.refresh
  some { s with keyPlace, outerPlaces }

/-- No key began at the last place. -/
def dropPlace? (s : Scan) : Option Scan :=
  match s.keyPlace with
  | some p => if p.required then none else some { s with keyPlace := none }
  | none => some s

/-- A key may begin here, if one is allowed. -/
def markPlace? (s : Scan) : Option Scan :=
  if s.keyAllowed then do
    let s ← s.dropPlace?
    let place : KeyPlace :=
      { position := s.tokens.length
        required := !s.flow && s.indent = s.cursor.column
        index := s.cursor.index
        line := s.cursor.line
        column := s.cursor.column }
    some { s with keyPlace := some place }
  else some s

/-- Closes the block collections that are indented further than `column`. -/
def closeTo (column : Int) : Nat → Scan → Scan
  | 0, s => s
  | fuel + 1, s =>
    if s.indent > column then
      closeTo column fuel
        { s with
          tokens := .blockEnd :: s.tokens
          indent := s.outerIndents.headD (-1)
          outerIndents := s.outerIndents.tail }
    else s

def close (s : Scan) (column : Int) : Scan :=
  if s.flow then s else closeTo column (s.outerIndents.length + 1) s

/-- Whether a block collection begins at this column. -/
def opensAt (s : Scan) (column : Nat) : Bool := !s.flow && s.indent < column

def openTo (s : Scan) (column : Nat) : Scan :=
  { s with indent := column, outerIndents := s.indent :: s.outerIndents }

/-- Opens a block collection at the cursor, unless one with this column is open. -/
def openHere (s : Scan) (t : Token) : Scan :=
  if s.opensAt s.cursor.column then (s.openTo s.cursor.column).push t else s

/-! ## Kinds of tokens -/

/-- A token that belongs to the stream and not to a document closes all blocks. -/
def atMargin? (s : Scan) : Option Scan := do
  let s ← (s.close (-1)).dropPlace?
  some { s with keyAllowed := false }

def openFlow? (s : Scan) (t : Token) : Option Scan := do
  let s ← s.markPlace?
  let s := { s with
    keyPlace := none, outerPlaces := s.keyPlace :: s.outerPlaces, keyAllowed := true }
  some (s.indicator t 1)

def closeFlow? (s : Scan) (t : Token) : Option Scan := do
  let s ← s.dropPlace?
  let s := match s.outerPlaces with
    | p :: ps => { s with keyPlace := p, outerPlaces := ps }
    | [] => s
  some ({ s with keyAllowed := false }.indicator t 1)

def comma? (s : Scan) : Option Scan := do
  let s ← s.dropPlace?
  some ({ s with keyAllowed := true }.indicator .comma 1)

def entry? (s : Scan) : Option Scan := do
  if !s.flow && !s.keyAllowed then none
  let s ← (s.openHere .blockSequence).dropPlace?
  some ({ s with keyAllowed := true }.indicator .entry 1)

def key? (s : Scan) : Option Scan := do
  if !s.flow && !s.keyAllowed then none
  let s ← (s.openHere .blockMapping).dropPlace?
  some ({ s with keyAllowed := !s.flow }.indicator .key 1)

def value? (s : Scan) : Option Scan :=
  match s.keyPlace with
  | some p =>
    let opens := s.opensAt p.column
    let s := s.insertAt p.position (if opens then [.blockMapping, .key] else [.key])
    let s := if opens then s.openTo p.column else s
    some ({ s with keyPlace := none, keyAllowed := false }.indicator .value 1)
  | none => do
    if !s.flow && !s.keyAllowed then none
    let s := s.openHere .blockMapping
    some ({ s with keyAllowed := !s.flow }.indicator .value 1)

/-- A name after `*` or `&`. -/
def name? (s : Scan) (t : List Char → Token) : Option Scan := do
  let s ← s.markPlace?
  let (w, c) := (s.cursor.skip 1).span isName
  if w.isEmpty then none
  let ends := match c.rest with
    | [] => true
    | d :: _ => isBlank d || isBreak d || d ∈ ['?', ':', ',', ']', '}', '%', '@', '\x60']
  if ends then some { s with tokens := t w :: s.tokens, cursor := c, keyAllowed := false } else none

def tagged? (s : Scan) : Option Scan := do
  let s ← s.markPlace?
  let (t, c) ← tag? s.flow s.cursor
  some { s with tokens := t :: s.tokens, cursor := c, keyAllowed := false }

def block? (s : Scan) (literal : Bool) : Option Scan := do
  let s ← s.dropPlace?
  let (text, c) ← Yaml.block? literal s.indent s.cursor
  some { s with tokens := .scalar false text :: s.tokens, cursor := c, keyAllowed := true }

def quoted? (s : Scan) (quote : Char) : Option Scan := do
  let s ← s.markPlace?
  let (text, c) ← Yaml.quoted? quote s.cursor
  some { s with tokens := .scalar false text :: s.tokens, cursor := c, keyAllowed := false }

def plain? (s : Scan) : Option Scan := do
  let s ← s.markPlace?
  let p ← Yaml.plain? s.flow (s.indent + 1).toNat s.cursor
  some { s with
    tokens := .scalar true p.text :: s.tokens, cursor := p.next, keyAllowed := p.broken }

/-- Whether a plain scalar may begin with these characters. -/
def beginsPlain (flow : Bool) : List Char → Bool
  | [] => false
  | c :: r =>
    if isBlank c || isBreak c then false
    else if c = '-' then !(r.head?.map isBlank).getD false
    else if c = '?' || c = ':' then !flow && !atGap r
    else c ∉ [',', '[', ']', '{', '}', '#', '&', '*', '!', '|', '>', '\'', '"', '%', '@', '\x60']

/-- Past blanks, comments and line breaks. Tabs count as blanks where no key may begin. -/
def skipGap : Nat → Scan → Scan
  | 0, s => s
  | fuel + 1, s =>
    let c := if s.cursor.index = 0 && s.cursor.rest.head? = some '\uFEFF' then s.cursor.skip 1
      else s.cursor
    let tabs := s.flow || !s.keyAllowed
    let c := (c.span fun d => d = ' ' || (tabs && d = '\t')).2
    let c := if c.rest.head? = some '#' then (c.span (!isBreak ·)).2 else c
    match c.lineBreak? with
    | some (_, c) => skipGap fuel { s with cursor := c, keyAllowed := s.keyAllowed || !s.flow }
    | none => { s with cursor := c }

/-- Reads the next token, whose first character is at the cursor. -/
def token? (s : Scan) : Option Scan :=
  let c := s.cursor
  match c.rest with
  | [] => none
  | d :: r =>
    if c.column = 0 && d = '%' then do
      let s ← s.atMargin?
      let (t, c) ← directive? c
      some { s with tokens := t :: s.tokens, cursor := c }
    else if c.atDocumentMark then do
      let s ← s.atMargin?
      some (s.indicator (if d = '-' then .documentStart else .documentEnd) 3)
    else if d = '[' then s.openFlow? .flowSequence
    else if d = '{' then s.openFlow? .flowMapping
    else if d = ']' then s.closeFlow? .flowSequenceEnd
    else if d = '}' then s.closeFlow? .flowMappingEnd
    else if d = ',' then s.comma?
    else if d = '-' && atGap r then s.entry?
    else if d = '?' && (s.flow || atGap r) then s.key?
    else if d = ':' && (s.flow || atGap r) then s.value?
    else if d = '*' then s.name? .reference
    else if d = '&' then s.name? .anchor
    else if d = '!' then s.tagged?
    else if d = '|' && !s.flow then s.block? true
    else if d = '>' && !s.flow then s.block? false
    else if d = '\'' || d = '"' then s.quoted? d
    else if beginsPlain s.flow c.rest then s.plain?
    else none

/-- The end of the text closes all blocks. -/
def finish? (s : Scan) : Option (List Token) := do
  let c := s.cursor
  let cursor := if c.column = 0 then c else { c with line := c.line + 1, column := 0 }
  let s ← { s with cursor }.atMargin?
  some s.tokens.reverse

def run? : Nat → Scan → Option (List Token)
  | 0, _ => none
  | fuel + 1, s => do
    let s := skipGap (s.cursor.rest.length + 1) s
    let s ← s.refreshed?
    let s := s.close s.cursor.column
    if s.cursor.rest.isEmpty then s.finish? else run? fuel (← s.token?)

end Scan

/-- The tokens of a text, if each of its characters is allowed and begins or continues one. -/
def Token.scan? (text : List Char) : Option (List Token) :=
  if text.all isAllowed then Scan.run? (text.length + 1) { cursor := { rest := text } } else none

end CallRouting.Yaml
