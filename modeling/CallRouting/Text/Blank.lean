/-!
# Blank characters and trimming

* `isBlank` : the characters with the Unicode property `White_Space`, all twenty-five of them;
* `trim` : a text without its blank ends, and `trimmed` on strings;
* `trim_eq_nil_iff` : a text trims to nothing exactly when all of it is blank.
-/

namespace CallRouting.Text

/-- The Unicode property `White_Space`. -/
def isBlank (c : Char) : Bool :=
  let n := c.toNat
  (9 ≤ n && n ≤ 13) || n == 0x20 || n == 0x85 || n == 0xA0 || n == 0x1680 ||
    (0x2000 ≤ n && n ≤ 0x200A) || n == 0x2028 || n == 0x2029 || n == 0x202F || n == 0x205F ||
    n == 0x3000

/-! ## Trimming -/

def trimStart (s : List Char) : List Char := s.dropWhile isBlank

def trimEnd (s : List Char) : List Char := (s.reverse.dropWhile isBlank).reverse

/-- The text between the blank characters at its two ends. -/
def trim (s : List Char) : List Char := trimEnd (trimStart s)

def trimmed (s : String) : String := String.ofList (trim s.toList)

theorem dropWhile_eq_nil_iff (p : Char → Bool) (s : List Char) :
    s.dropWhile p = [] ↔ ∀ c ∈ s, p c = true := by
  induction s with
  | nil => simp
  | cons c s ih => by_cases h : p c <;> simp [List.dropWhile, h, ih]

theorem trimEnd_eq_nil_iff (s : List Char) : trimEnd s = [] ↔ ∀ c ∈ s, isBlank c = true := by
  rw [trimEnd, List.reverse_eq_nil_iff, dropWhile_eq_nil_iff]
  simp only [List.mem_reverse]

theorem trim_eq_nil_iff (s : List Char) : trim s = [] ↔ ∀ c ∈ s, isBlank c = true := by
  rw [trim, trimEnd_eq_nil_iff]
  constructor
  · intro h
    rw [← dropWhile_eq_nil_iff]
    cases hs : trimStart s with
    | nil => exact hs
    | cons c r =>
      have hc : isBlank c = true := h c (by simp [hs])
      have : ¬ isBlank c = true := by
        have := List.head?_dropWhile_not isBlank s
        simp only [trimStart] at hs
        simp_all
      exact absurd hc this
  · intro h c hc
    rw [trimStart, (dropWhile_eq_nil_iff _ _).2 h] at hc
    simp at hc

end CallRouting.Text
