/-!
# Wildcards

In a wildcard word each `*` stands for any text, the empty one included, and every other character
for itself.

* `Stands w s` : the text `s` results from the word `w` by replacing each `*`;
* `advance` : what is left of a word after one character of the text has been read;
* `accepts w s` : reads `s` once, with all the rests of `w` that are still possible at a time;
* `accepts_iff` : `accepts` decides `Stands`.
-/

namespace CallRouting.Wildcard

/-- `s` results from `w` by replacing each `*` by some text. -/
inductive Stands : List Char → List Char → Prop
  | nil : Stands [] []
  | star {w s : List Char} (t : List Char) : Stands w s → Stands ('*' :: w) (t ++ s)
  | char {w s : List Char} (c : Char) : c ≠ '*' → Stands w s → Stands (c :: w) (c :: s)

/-- The rests of a word after it has read `c`; a `*` stays, since it may go on reading. -/
def advance (c : Char) : List Char → List (List Char)
  | [] => []
  | d :: w => if d = '*' then ('*' :: w) :: advance c w else if d = c then [w] else []

/-- Whether one of the rests stands for the text. -/
def acceptsAny (rests : List (List Char)) : List Char → Bool
  | [] => rests.any fun w => w.all (· = '*')
  | c :: s => acceptsAny (rests.flatMap (advance c)).eraseDups s

def accepts (w s : List Char) : Bool := acceptsAny [w] s

theorem stands_nil_iff (w : List Char) : Stands w [] ↔ ∀ c ∈ w, c = '*' := by
  constructor
  · intro h
    generalize hs : ([] : List Char) = s at h
    induction h with
    | nil => simp
    | star t _ ih =>
      have := List.append_eq_nil_iff.1 hs.symm
      simpa using ih this.2.symm
    | char => simp at hs
  · intro h
    induction w with
    | nil => exact .nil
    | cons c w ih =>
      obtain rfl : c = '*' := h c (by simp)
      exact .star [] (ih fun d hd => h d (by simp [hd]))

theorem stands_cons_iff (w : List Char) (c : Char) (s : List Char) :
    Stands w (c :: s) ↔ ∃ r ∈ advance c w, Stands r s := by
  induction w with
  | nil => simp [advance]; rintro ⟨⟩
  | cons d w ih =>
    by_cases hd : d = '*'
    · subst hd
      simp only [advance, if_true, List.mem_cons, exists_eq_or_imp]
      constructor
      · intro h
        generalize hx : c :: s = x at h
        cases h with
        | star t h =>
          cases t with
          | nil => subst hx; exact .inr (ih.1 h)
          | cons e t =>
            obtain ⟨rfl, rfl⟩ := List.cons.inj hx
            exact .inl (.star t h)
        | char _ hne => exact absurd rfl hne
      · rintro (h | h)
        · generalize hy : '*' :: w = y at h
          cases h with
          | nil => simp at hy
          | star t h =>
            obtain ⟨-, rfl⟩ := List.cons.inj hy
            exact .star (c :: t) h
          | char _ hne => exact absurd (List.cons.inj hy).1.symm hne
        · exact .star [] (ih.2 h)
    · simp only [advance, if_neg hd]
      constructor
      · intro h
        generalize hx : c :: s = x at h
        cases h with
        | star => exact absurd rfl hd
        | char _ _ h =>
          obtain ⟨rfl, rfl⟩ := List.cons.inj hx
          simpa using h
      · by_cases hc : d = c
        · subst hc
          simpa using Stands.char d hd
        · simp [hc]

theorem acceptsAny_iff (rests : List (List Char)) (s : List Char) :
    acceptsAny rests s = true ↔ ∃ w ∈ rests, Stands w s := by
  induction s generalizing rests with
  | nil => simp [acceptsAny, stands_nil_iff]
  | cons c s ih =>
    simp only [acceptsAny, ih, List.mem_eraseDups, List.mem_flatMap, stands_cons_iff]
    constructor
    · rintro ⟨r, ⟨w, hw, hr⟩, h⟩
      exact ⟨w, hw, r, hr, h⟩
    · rintro ⟨w, hw, r, hr, h⟩
      exact ⟨r, ⟨w, hw, hr⟩, h⟩

theorem accepts_iff (w s : List Char) : accepts w s = true ↔ Stands w s := by
  simp [accepts, acceptsAny_iff]

end CallRouting.Wildcard
