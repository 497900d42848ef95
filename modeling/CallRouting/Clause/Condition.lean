import CallRouting.Endpoint
import CallRouting.Clause.Pattern
import CallRouting.Clause.Token

/-!
# Conditions

A `Condition` asks several keys for their values, such as `region=beijing,hangzhou & tag!=gray`.

* `Test.accepts` : what one key asks of its value; the rejected values come first;
* `Condition.holds` : what a condition asks of a lookup; the empty condition never holds;
* `Reading.token` : how one token changes what has been read;
* `Condition.parse` : the condition written in a text, or the fault of the first token that has no
  place where it stands.
-/

namespace CallRouting.Clause

/-! ## Meaning -/

/-- The values that a key may have and those that it may not have, in the order written. -/
structure Test where
  accepted : List Pattern := []
  rejected : List Pattern := []
deriving DecidableEq

def Test.accepts (resolve : String → Option String) (t : Test) (value : String) : Bool :=
  if t.rejected.any (·.accepts resolve value) then false
  else if t.accepted.isEmpty then !t.rejected.isEmpty
  else t.accepted.any (·.accepts resolve value)

/-- A missing value fails a test that asks for certain values, and passes any other. -/
def Test.passes (resolve : String → Option String) (t : Test) : Option String → Bool
  | some value => t.accepts resolve value
  | none => t.accepted.isEmpty

abbrev Condition := Dict Test

namespace Condition

/-- Every key passes, and there is one. -/
def holds (c : Condition) (lookup resolve : String → Option String) : Bool :=
  !c.isEmpty && c.toList.all fun (key, test) => test.passes resolve (lookup key)

end Condition

/-! ## Reading -/

/-- Why a text is no condition. -/
inductive Fault where
  /-- Separators that are none of the four, or that cannot stand before this word. -/
  | misplaced (run word : String)
  /-- Separators with no word after them. -/
  | dangling (run : String)
  /-- A positional argument without a position. -/
  | argument (key : String)
deriving DecidableEq

/-- Which values of a key are being listed. -/
inductive Polarity where
  | accepted
  | rejected
deriving DecidableEq

def Test.add (t : Test) (p : Pattern) : Polarity → Test
  | .accepted => { t with accepted := t.accepted ++ [p] }
  | .rejected => { t with rejected := t.rejected ++ [p] }

/-- What has been read: the condition so far, the key whose values come next, and the list that a
comma goes on with. -/
structure Reading where
  condition : Condition := .empty
  key : Option String := none
  polarity : Option Polarity := none

namespace Reading

def openKey (r : Reading) (word : List Char) : Except Fault Reading :=
  let key := String.ofList word
  if argumentsStart.isPrefixOf word && (argumentIndex? key).isNone then .error (.argument key)
  else .ok
    { condition := r.condition.update key (·.getD {}), key := some key, polarity := none }

def addValue (side : Side) (r : Reading) (key : String) (word : List Char) (p : Polarity) :
    Reading :=
  { r with
    condition := r.condition.update key fun t => (t.getD {}).add (.ofWord side word) p
    polarity := some p }

def token (side : Side) (r : Reading) (t : Token) : Except Fault Reading :=
  if t.word = [] then .error (.dangling (String.ofList t.run))
  else match t.run, r.key, r.polarity with
    | [], _, _ => r.openKey t.word
    | ['&'], _, _ => r.openKey t.word
    | ['='], some key, _ => .ok (r.addValue side key t.word .accepted)
    | ['!', '='], some key, _ => .ok (r.addValue side key t.word .rejected)
    | [','], some key, some p => .ok (r.addValue side key t.word p)
    | _, _, _ => .error (.misplaced (String.ofList t.run) (String.ofList t.word))

end Reading

def Condition.parse (side : Side) (text : List Char) : Except Fault Condition :=
  ((Token.scan text).foldlM (Reading.token side) {}).map (·.condition)

end CallRouting.Clause
