import CallRouting.Config.Starter

/-!
# Lines of a text

* `unlines_append`, `splitLines_unlines` : lines are put together and taken apart;
* `linesOf` : the lines of a text, with the one after its last line break, so that
  `unlines_linesOf` gives the text back;
* `replaceFirst_append` : which line is replaced.
-/

namespace CallRouting.Starter

theorem unlines_append (ls ms : List (List Char)) : unlines (ls ++ ms) = unlines ls ++ unlines ms :=
  List.flatMap_append

theorem unlines_cons (l : List Char) (ls : List (List Char)) :
    unlines (l :: ls) = l ++ '\n' :: unlines ls := by
  simp [unlines]

theorem length_le_length_unlines (ls : List (List Char)) : ls.length ≤ (unlines ls).length := by
  induction ls with
  | nil => exact Nat.le_refl _
  | cons l ls ih =>
    rw [unlines_cons, List.length_append, List.length_cons, List.length_cons]
    omega

/-! ## Taking lines apart -/

theorem splitLines_cons {l : List Char} (h : '\n' ∉ l) (r : List Char) :
    splitLines (l ++ '\n' :: r) = l :: splitLines r := by
  induction l with
  | nil => rfl
  | cons c l ih =>
    rw [List.mem_cons, not_or] at h
    rw [List.cons_append, splitLines, if_neg (Ne.symm h.1), ih h.2]

theorem splitLines_unlines {ls : List (List Char)} (h : ∀ l ∈ ls, '\n' ∉ l) (r : List Char) :
    splitLines (unlines ls ++ r) = ls ++ splitLines r := by
  induction ls with
  | nil => rfl
  | cons l ls ih =>
    rw [unlines_cons, List.append_assoc, List.cons_append, splitLines_cons (h l List.mem_cons_self),
      ih fun m hm => h m (List.mem_cons_of_mem l hm)]
    rfl

/-- The lines of a text, with the one after the last line break. -/
def linesOf (s : List Char) : List (List Char) := splitLines (s ++ ['\n'])

theorem unlines_linesOf (s : List Char) : unlines (linesOf s) = s ++ ['\n'] := by
  induction s with
  | nil => rfl
  | cons c s ih =>
    rw [linesOf, List.cons_append, splitLines]
    rw [linesOf] at ih
    split
    · next hc =>
      rw [unlines_cons, ih, hc]
      rfl
    · split
      · next h =>
        rw [h] at ih
        exact absurd ih.symm (by simp [unlines])
      · next l ls h =>
        rw [h, unlines_cons] at ih
        rw [unlines_cons, ← ih]
        rfl

theorem not_mem_splitLines {s l : List Char} (h : l ∈ splitLines s) : '\n' ∉ l := by
  induction s generalizing l with
  | nil => cases h
  | cons c s ih =>
    rw [splitLines] at h
    split at h
    · rcases List.mem_cons.1 h with rfl | h
      · exact List.not_mem_nil
      · exact ih h
    · next hc =>
      split at h
      · rw [List.mem_singleton.1 h, List.mem_singleton]
        exact Ne.symm hc
      · next l' ls hs =>
        rw [hs] at ih
        rcases List.mem_cons.1 h with rfl | h
        · rw [List.mem_cons, not_or]
          exact ⟨Ne.symm hc, ih List.mem_cons_self⟩
        · exact ih (List.mem_cons_of_mem l' h)

theorem not_mem_linesOf {s l : List Char} (h : l ∈ linesOf s) : '\n' ∉ l := not_mem_splitLines h

theorem linesOf_unlines {ls : List (List Char)} {l : List Char} (h : ∀ l ∈ ls, '\n' ∉ l)
    (hl : '\n' ∉ l) : linesOf (unlines ls ++ l) = ls ++ [l] := by
  rw [linesOf, List.append_assoc, splitLines_unlines h, splitLines_cons hl]
  rfl

theorem exists_linesOf (s : List Char) : ∃ ls l, linesOf s = ls ++ [l] := by
  rcases List.eq_nil_or_concat (linesOf s) with h | ⟨ls, l, h⟩
  · have hs := unlines_linesOf s
    rw [h] at hs
    exact absurd hs.symm (by simp [unlines])
  · exact ⟨ls, l, by rw [h, List.concat_eq_append]⟩

theorem eq_of_linesOf {s : List Char} {ls : List (List Char)} {l : List Char}
    (h : linesOf s = ls ++ [l]) : s = unlines ls ++ l := by
  have hs := unlines_linesOf s
  rw [h, unlines_append] at hs
  have hend : (unlines ls ++ l) ++ ['\n'] = s ++ ['\n'] := by
    rw [← hs]
    simp [unlines]
  exact (List.append_cancel_right hend).symm

/-! ## Replacing a line -/

theorem replaceFirst_append {start new : List Char} {ls : List (List Char)}
    (h : ∀ l ∈ ls, ¬ start <+: l) (ms : List (List Char)) :
    replaceFirst start new (ls ++ ms) = ls ++ replaceFirst start new ms := by
  induction ls with
  | nil => rfl
  | cons l ls ih =>
    have hl : ¬ start.isPrefixOf l = true := by
      rw [List.isPrefixOf_iff_prefix]
      exact h l List.mem_cons_self
    rw [List.cons_append, replaceFirst, if_neg hl, ih fun m hm => h m (List.mem_cons_of_mem l hm)]
    rfl

theorem replaceFirst_cons {start new l : List Char} (h : start <+: l) (ls : List (List Char)) :
    replaceFirst start new (l :: ls) = new :: ls := by
  rw [replaceFirst, if_pos (List.isPrefixOf_iff_prefix.2 h)]

end CallRouting.Starter
