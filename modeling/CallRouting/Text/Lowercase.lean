import CallRouting.Text.LetterCase
import CallRouting.Text.Ranges

/-!
# Lower case

`lowercase s` is `s` in lower case by the rules of Unicode: most letters become one other letter, a
capital I with a dot becomes two characters, and a capital sigma becomes a final sigma at the end of
a word.
-/

namespace CallRouting.Text

def isCased (c : Char) : Bool := inRanges casedRanges c

def isCaseIgnorable (c : Char) : Bool := inRanges caseIgnorableRanges c

def CaseRun.contains (r : CaseRun) (n : Nat) : Bool :=
  r.first ≤ n && n ≤ r.last && (n - r.first) % r.step = 0

/-- The lower case of one character, wherever it stands. -/
def lowercaseChar (c : Char) : List Char :=
  if c = 'İ' then ['i', '\u0307']
  else match lowercaseRuns.find? (·.contains c.toNat) with
    | some r => [Char.ofNat (c.toNat + r.shift).toNat]
    | none => [c]

/-- Whether the nearest character that counts for case is a letter. -/
def meetsLetter (s : List Char) : Bool :=
  match s.dropWhile isCaseIgnorable with
  | c :: _ => isCased c
  | [] => false

/-- The lower case of a text; `before` is what stands before it, the nearest character first. -/
def lowercaseAfter (before : List Char) : List Char → List Char
  | [] => []
  | c :: r =>
    (if c = 'Σ' then if meetsLetter before && !meetsLetter r then ['ς'] else ['σ']
      else lowercaseChar c) ++ lowercaseAfter (c :: before) r

def lowercase (s : String) : String := String.ofList (lowercaseAfter [] s.toList)

end CallRouting.Text
