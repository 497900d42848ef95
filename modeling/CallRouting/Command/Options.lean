import CallRouting.Text.Blank
import CallRouting.Text.Search

/-!
# Options

A command line is a list of words. `Usage.read` tells the options among them, with their values,
from the operands:

* `--name=value`, `--name value`, `-n value`, `-nvalue` and `-n=value` give an option its value;
* flags, which have none, may share one word, as in `-fh`;
* a value in a word of its own does not begin with a hyphen, unless it is nothing else;
* after the word `--` come operands only.

Words are read from left to right, so a request for help counts only if nothing before it is wrong.
-/

namespace CallRouting.Command

/-- Why a command line is not carried out. -/
inductive Refusal where
  /-- It asks for help. -/
  | help
  | misuse
deriving DecidableEq

/-! ## Values -/

/-- A key and a value, around the first equals sign. -/
def parsePair (s : String) : Except String (String × String) :=
  match Text.cut? ['='] s.toList with
  | some (key, value) =>
    if Text.trim key = [] then .error ("expected key=value, got '" ++ s ++ "'")
    else .ok (String.ofList (Text.trim key), String.ofList (Text.trim value))
  | none => .error ("expected key=value, got '" ++ s ++ "'")

inductive ValueKind where
  | text
  /-- The path of a file or a folder, which is not empty. -/
  | path
  | pair
deriving DecidableEq

def ValueKind.accepts (s : String) : ValueKind → Bool
  | text => true
  | path => s ≠ ""
  | pair => (parsePair s).isOk

/-! ## Usages -/

inductive SettingKind where
  | flag
  /-- A flag that asks for help. -/
  | help
  | value (kind : ValueKind)
deriving DecidableEq

structure Setting where
  name : String
  short : Option Char := none
  kind : SettingKind := .flag
  /-- Whether it may be given more than once. -/
  repeats : Bool := false
deriving DecidableEq

/-- What words a command takes. -/
structure Usage where
  settings : List Setting
  /-- What its operand may be, if it takes one. -/
  operand : Option ValueKind := none

def Setting.help : Setting := { name := "help", short := some 'h', kind := .help }

/-- What has been read so far. -/
structure Given where
  /-- The names and values of options, in the order in which they were given. Flags have none. -/
  values : List (String × String) := []
  operands : List String := []

namespace Given

def all (g : Given) (name : String) : List String :=
  (g.values.filter (·.1 = name)).map (·.2)

def get? (g : Given) (name : String) : Option String := (g.all name).head?

def has (g : Given) (name : String) : Bool := (g.get? name).isSome

/-- Gives a setting a value that it can have. -/
def add (g : Given) (s : Setting) (value : String) : Given :=
  { g with values := g.values ++ [(s.name, value)] }

end Given

namespace Usage

/-! ## Reading -/

def named? (u : Usage) (name : String) : Option Setting :=
  (u.settings ++ [Setting.help]).find? (·.name = name)

def short? (u : Usage) (c : Char) : Option Setting :=
  (u.settings ++ [Setting.help]).find? (·.short = some c)

/-- Whether a setting may be given now. -/
def admits (g : Given) (s : Setting) : Bool := s.repeats || !g.has s.name

def addFlag (g : Given) (s : Setting) : Except Refusal Given :=
  if admits g s then .ok (g.add s "") else .error .misuse

def addValue (g : Given) (s : Setting) (value : String) : Except Refusal Given :=
  match s.kind with
  | .value kind =>
    if admits g s && kind.accepts value then .ok (g.add s value) else .error .misuse
  | _ => .error .misuse

def addOperand (u : Usage) (g : Given) (word : String) : Except Refusal Given :=
  match u.operand with
  | some kind =>
    if g.operands.isEmpty && kind.accepts word then .ok { g with operands := [word] }
    else .error .misuse
  | none => .error .misuse

/-- What has been read, and the setting whose value is to come. -/
abbrev Progress := Given × Option Setting

/-- An option by its name. -/
def readNamed (u : Usage) (g : Given) (name : String) (value : Option String) :
    Except Refusal Progress :=
  match u.named? name with
  | none => .error .misuse
  | some s =>
    match s.kind, value with
    | .value _, none => .ok (g, some s)
    | .value _, some v => (addValue g s v).map (·, none)
    | _, some _ => .error .misuse
    | .flag, none => (addFlag g s).map (·, none)
    | .help, none => .error .help

/-- Short options that share one word. -/
def readShort (u : Usage) (g : Given) : List Char → Except Refusal Progress
  | [] => .ok (g, none)
  | c :: r =>
    match u.short? c with
    | none => .error .misuse
    | some s =>
      match s.kind, r with
      | .flag, r => do u.readShort (← addFlag g s) r
      | .help, _ => .error .help
      | .value _, [] => .ok (g, some s)
      | .value _, '=' :: v => (addValue g s (String.ofList v)).map (·, none)
      | .value _, v => (addValue g s (String.ofList v)).map (·, none)

/-- One word, when no value is to come. -/
def readWord (u : Usage) (g : Given) (word : String) : Except Refusal Progress :=
  match word.toList with
  | '-' :: '-' :: r =>
    match Text.cut? ['='] r with
    | some (name, value) => u.readNamed g (String.ofList name) (some (String.ofList value))
    | none => u.readNamed g (String.ofList r) none
  | '-' :: c :: r => u.readShort g (c :: r)
  | _ => (u.addOperand g word).map (·, none)

def looksLikeOption (word : String) : Bool := word.startsWith "-" && word ≠ "-"

def readFrom (u : Usage) : Progress → List String → Except Refusal Given
  | (g, none), [] => .ok g
  | (_, some _), [] => .error .misuse
  | (g, some s), word :: r =>
    if looksLikeOption word then .error .misuse
    else do u.readFrom (← addValue g s word, none) r
  | (g, none), word :: r =>
    if word = "--" then r.foldlM u.addOperand g
    else do u.readFrom (← u.readWord g word) r

def read (u : Usage) (words : List String) : Except Refusal Given := u.readFrom ({}, none) words

end Usage
end CallRouting.Command
