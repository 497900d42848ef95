import CallRouting.Dict
import CallRouting.Text.Quoted

/-!
# Reports as JSON

* `Json.lines` : a value on as many lines as it has parts, two blanks deeper with each level; what
  has no parts takes one line;
* `Json.ofFields` : an object, whose fields come in the order of their names.
-/

namespace CallRouting.Report

inductive Json where
  | null
  | bool (b : Bool)
  | number (n : Int)
  | text (s : String)
  | array (items : List Json)
  | object (fields : List (String × Json))

namespace Json

def ofFields (fields : List (String × Json)) : Json := .object (Dict.ofList fields).toList

def ofOption {α : Type} (f : α → Json) (a : Option α) : Json := a.elim .null f

/-! ## Text -/

/-- Quotes, backslashes and the characters below the blank are escaped, and no others. -/
def escaped (c : Char) : String :=
  match c with
  | '"' => "\\\""
  | '\\' => "\\\\"
  | '\x08' => "\\b"
  | '\t' => "\\t"
  | '\n' => "\\n"
  | '\x0c' => "\\f"
  | '\r' => "\\r"
  | c =>
    if c.toNat < 0x10 then "\\u000" ++ Text.hex c.toNat
    else if c.toNat < 0x20 then "\\u00" ++ Text.hex c.toNat
    else c.toString

def quoted (s : String) : String := "\"" ++ String.join (s.toList.map escaped) ++ "\""

/-! ## Lines -/

/-- Puts a text at the end of the last line. -/
def close (mark : String) : List String → List String
  | [] => []
  | [l] => [l ++ mark]
  | l :: ls => l :: close mark ls

/-- Puts a text at the start of the first line. -/
def start (mark : String) : List String → List String
  | [] => []
  | l :: ls => (mark ++ l) :: ls

/-- The lines of several parts, with a comma after each but the last. -/
def separated : List (List String) → List String
  | [] => []
  | [part] => part
  | part :: parts => close "," part ++ separated parts

/-- Parts between two brackets. -/
def bracketed (opening closing : String) (parts : List (List String)) : List String :=
  if parts.isEmpty then [opening ++ closing]
  else opening :: (separated parts).map ("  " ++ ·) ++ [closing]

mutual

def lines : Json → List String
  | .null => ["null"]
  | .bool b => [toString b]
  | .number n => [toString n]
  | .text s => [quoted s]
  | .array items => bracketed "[" "]" (linesOfItems items)
  | .object fields => bracketed "\x7b" "\x7d" (linesOfFields fields)

def linesOfItems : List Json → List (List String)
  | [] => []
  | j :: r => j.lines :: linesOfItems r

def linesOfFields : List (String × Json) → List (List String)
  | [] => []
  | (name, j) :: r => start (quoted name ++ ": ") j.lines :: linesOfFields r

end

def render (j : Json) : String := "\n".intercalate j.lines

end Json
end CallRouting.Report
