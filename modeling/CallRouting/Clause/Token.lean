import CallRouting.Text.Blank

/-!
# Tokens of a condition

A condition alternates runs of separators with words. `Token.scan` pairs each word with the run
before it; blanks separate words but belong to neither. Only the last token can lack its word, and
then its run dangles.
-/

namespace CallRouting.Clause

/-- The characters of the separators `&`, `=`, `!=` and `,`. -/
def isSeparator (c : Char) : Bool := c = '&' || c = '=' || c = '!' || c = ','

def isGap (c : Char) : Bool := Text.isBlank c || isSeparator c

/-- A word and the separators before it. -/
structure Token where
  run : List Char
  word : List Char
deriving DecidableEq

namespace Token

/-- The first token of a text, and the text after it. -/
def next (s : List Char) : Token × List Char :=
  let rest := s.dropWhile isGap
  (⟨(s.takeWhile isGap).filter isSeparator, rest.takeWhile (!isGap ·)⟩, rest.dropWhile (!isGap ·))

theorem length_dropWhile_le (p : Char → Bool) (s : List Char) :
    (s.dropWhile p).length ≤ s.length := by
  induction s with
  | nil => simp
  | cons c s ih => by_cases h : p c <;> simp [List.dropWhile, h]; omega

theorem length_next_lt {s : List Char} (h : (next s).1.word ≠ []) :
    (next s).2.length < s.length := by
  simp only [next] at h ⊢
  have hs := length_dropWhile_le isGap s
  cases hr : s.dropWhile isGap with
  | nil => simp [hr] at h
  | cons c r =>
    rw [hr] at h hs
    cases hc : isGap c with
    | true => simp [List.takeWhile, hc] at h
    | false =>
      have := length_dropWhile_le (!isGap ·) r
      simp only [List.dropWhile, hc, Bool.not_false, List.length_cons] at hs ⊢
      omega

/-- The tokens of a text in order. -/
def scan (s : List Char) : List Token :=
  if _ : (next s).1.word ≠ [] then (next s).1 :: scan (next s).2
  else if (next s).1.run = [] then [] else [(next s).1]
  termination_by s.length
  decreasing_by exact length_next_lt ‹_›

end Token
end CallRouting.Clause
