/-!
# Finding a word in a text

* `remove w s` : `s` without the occurrences of `w`, found from the left and not overlapping;
* `cut? w s` : the texts before and after the leftmost occurrence of `w`;
* `cut?_eq_some` : what `cut?` finds are indeed the two sides of an occurrence;
* `contains_iff` : `contains w s` holds exactly when `w` is a factor of `s`;
* `pieces c s` : what stands between the occurrences of the character `c`.
-/

namespace CallRouting.Text

/-- `s` without the leftmost non-overlapping occurrences of the non-empty word `c :: w`. -/
def removeFrom (c : Char) (w : List Char) : List Char → List Char
  | [] => []
  | d :: s =>
    if (c :: w).isPrefixOf (d :: s) then removeFrom c w (s.drop w.length)
    else d :: removeFrom c w s
  termination_by s => s.length
  decreasing_by all_goals
    simp only [List.length_drop, List.length_cons]
    omega

/-- `s` without the leftmost non-overlapping occurrences of `w`; an empty word removes nothing. -/
def remove (w s : List Char) : List Char :=
  match w with
  | [] => s
  | c :: w => removeFrom c w s

/-- The texts before and after the leftmost occurrence of `w` in `s`. -/
def cut? (w : List Char) : List Char → Option (List Char × List Char)
  | [] => if w.isEmpty then some ([], []) else none
  | c :: s =>
    if w.isPrefixOf (c :: s) then some ([], (c :: s).drop w.length)
    else (cut? w s).map fun (before, after) => (c :: before, after)

theorem cut?_eq_some {w s before after : List Char} (h : cut? w s = some (before, after)) :
    s = before ++ w ++ after := by
  induction s generalizing before with
  | nil =>
    unfold cut? at h
    split at h <;> simp_all
  | cons c s ih =>
    unfold cut? at h
    split at h
    · rename_i hp
      obtain ⟨t, ht⟩ := List.isPrefixOf_iff_prefix.1 hp
      simp only [Option.some.injEq, Prod.mk.injEq] at h
      obtain ⟨rfl, rfl⟩ := h
      rw [← ht]
      simp
    · obtain ⟨⟨b, a⟩, hb, he⟩ := Option.map_eq_some_iff.1 h
      simp only [Prod.mk.injEq] at he
      obtain ⟨rfl, rfl⟩ := he
      simp [ih hb]

/-- Whether the word occurs in the text. -/
def contains (w s : List Char) : Bool := (cut? w s).isSome

theorem contains_iff (w s : List Char) : contains w s = true ↔ w <:+: s := by
  constructor
  · intro h
    obtain ⟨⟨b, a⟩, hb⟩ := Option.isSome_iff_exists.1 h
    exact ⟨b, a, (cut?_eq_some hb).symm⟩
  · rintro ⟨b, a, rfl⟩
    induction b with
    | nil =>
      cases hw : w ++ a with
      | nil => simp_all [contains, cut?]
      | cons c r =>
        have : w.isPrefixOf (c :: r) = true := by
          rw [List.isPrefixOf_iff_prefix, ← hw]
          exact List.prefix_append _ _
        simp [contains, hw, cut?, this]
    | cons c b ih =>
      simp only [contains, List.cons_append, cut?] at ih ⊢
      split <;> simp_all

/-- The texts between the occurrences of a character. -/
def pieces (c : Char) (s : String) : List String := (s.toList.splitOn c).map String.ofList

end CallRouting.Text
