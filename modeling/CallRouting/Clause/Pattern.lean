import CallRouting.Clause.Glob

/-!
# Patterns

A `Pattern` is one value of a condition. `Pattern.ofWord` reads it from its word; a word that
begins with `$` refers to the calling side, and does so only in a condition on endpoints. A word
with `*` is matched by an engine for globs.
-/

namespace CallRouting.Clause

/-- What a condition looks at: the call, or an endpoint that the call may go to. -/
inductive Side where
  | call
  | endpoint
deriving DecidableEq

inductive Pattern where
  | any
  | exact (text : String)
  | wildcard (word : List Char)
  /-- The value that the call has under this key. -/
  | reference (key : String)
deriving DecidableEq

namespace Pattern

def ofWord (side : Side) (word : List Char) : Pattern :=
  if word = ['*'] then any
  else match side, word with
    | .endpoint, '$' :: key => reference (String.ofList key)
    | _, _ => if '*' ∈ word then wildcard word else exact (String.ofList word)

/-- `resolve` gives the values that references stand for. -/
def acceptsBy (engine : Glob.Engine) (resolve : String → Option String) (value : String) :
    Pattern → Bool
  | any => true
  | exact text => text = value
  | wildcard word => (engine.build? (Glob.ofWord word)).any (· value.toList)
  | reference key => resolve key = some value

def accepts (resolve : String → Option String) (value : String) (p : Pattern) : Bool :=
  p.acceptsBy Glob.reader resolve value

end Pattern
end CallRouting.Clause
