import CallRouting.Clause.Wildcard

/-!
# Globs

A word with `*` is matched by way of a glob. In a glob further characters have a meaning of their
own, so these are escaped with a backslash, and of a run of stars only the first one is kept, since
two stars side by side mean something else than one.

* `Glob.ofWord` : the glob of a word;
* `Glob.Engine` : what reads globs and matches texts with them;
* `Glob.reader` : an engine that reads a glob back to the word that it is the glob of.
-/

namespace CallRouting.Glob

/-- The characters other than `*` that mean something in a glob. -/
def special : List Char := ['?', '[', ']', '{', '}', '\\']

def escape (c : Char) : List Char := if c ∈ special then ['\\', c] else [c]

/-- The glob of a word that comes after this character. -/
def ofWordAfter (previous : Option Char) : List Char → List Char
  | [] => []
  | c :: w =>
    if c = '*' ∧ previous = some '*' then ofWordAfter previous w
    else escape c ++ ofWordAfter (some c) w

def ofWord (w : List Char) : List Char := ofWordAfter none w

/-- Reads a glob, if it is one, to the test whether a text matches it. -/
structure Engine where
  build? : List Char → Option (List Char → Bool)

/-- The word of a glob in which, stars apart, every character that means something is escaped. -/
def word? : List Char → Option (List Char)
  | [] => some []
  | '\\' :: c :: g => if c = '*' then none else (word? g).map (c :: ·)
  | c :: g => if c ∈ special then none else (word? g).map (c :: ·)

def reader : Engine where
  build? g := (word? g).map Wildcard.accepts

end CallRouting.Glob
