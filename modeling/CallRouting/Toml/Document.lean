import CallRouting.Toml.Value

/-!
# TOML documents

A document is a sequence of lines, each of which is empty, heads a table or gives a key of the table
last headed its value.

* `Line` : one line, with the key that it is about;
* `lines?` : the lines of a text;
* `Document.line` : what a line adds to the tables;
* `parse?` : the table that a text describes.
-/

namespace CallRouting.Toml

inductive Line where
  | assignment (path : List String) (v : Value)
  | heading (path : List String)
  /-- One more table in the array with this name. -/
  | arrayHeading (path : List String)

/-! ## Lines -/

/-- The text after the end of a line, before which only blanks and a comment may stand. -/
def endOfLine? (s : List Char) : Option (List Char) :=
  let r := match skipSpaces s with
    | '#' :: r => r.dropWhile isPrinting
    | r => r
  if r.isEmpty then some [] else newline? r

/-- A key between brackets. -/
def heading? (s : List Char) : Option (Line × List Char) :=
  match s with
  | '[' :: '[' :: r => do
    let (path, r) ← keyPath? r
    some (.arrayHeading path, ← expect? ']' (← expect? ']' r))
  | '[' :: r => do
    let (path, r) ← keyPath? r
    some (.heading path, ← expect? ']' r)
  | _ => do
    let ((path, v), r) ← pair? value? s
    some (.assignment path v, r)

/-- The lines of a text that are not empty, at most `fuel` of them. -/
def linesWithin? (fuel : Nat) (s : List Char) : Option (List Line) :=
  match fuel with
  | 0 => none
  | fuel + 1 =>
    match skipSpaces s with
    | [] => some []
    | s =>
      match endOfLine? s with
      | some r => linesWithin? fuel r
      | none => do
        let (line, r) ← heading? s
        return line :: (← linesWithin? fuel (← endOfLine? r))

/-- The lines of a text, before which a mark of its byte order may stand. -/
def lines? (s : List Char) : Option (List Line) :=
  let s := match s with
    | '\uFEFF' :: r => r
    | _ => s
  linesWithin? (s.length + 1) s

/-! ## Tables -/

structure Document where
  root : Entries := []
  /-- The table last headed. -/
  current : List String := []

namespace Document

/-- Heads a table. One that was only passed through before is defined now; no other one may be
headed again. -/
def openTable (k : String) (_ : Bool) (es : Entries) : Option Entries :=
  match es.get? k with
  | none => some (es.set k (.table false false []))
  | some (.table true false inner) => some (es.set k (.table false false inner))
  | _ => none

def openArray (k : String) (_ : Bool) (es : Entries) : Option Entries :=
  match es.get? k with
  | none => some (es.set k (.tables [[]]))
  | some (.tables ts) => some (es.set k (.tables ([] :: ts)))
  | _ => none

/-- Changes the table above the last name of a path. -/
def above (d : Document) (path : List String) (f : String → Bool → Entries → Option Entries) :
    Option Document := do
  let k ← path.getLast?
  let root ← Item.descend false (f k) path.dropLast false d.root
  return { root, current := path }

def line (d : Document) : Line → Option Document
  | .heading path => d.above path openTable
  | .arrayHeading path => d.above path openArray
  | .assignment path v => do
    let root ← Item.descend false (fun _ es => assign es path v) d.current false d.root
    return { d with root }

end Document

/-- The table that a text describes; nothing if the text is malformed. -/
def parse? (text : String) : Option Value := do
  let d ← (← lines? text.toList).foldlM Document.line {}
  return .table (Item.entriesToValues d.root)

end CallRouting.Toml
