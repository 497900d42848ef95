import CallRouting.Text.Blank
import CallRouting.Text.Search

/-!
# Texts that are taken apart

What trimming, removing a word and cutting at a word do to a text of which it is known how it was
put together.

* `span_append` : a stretch of characters ends where the next one is of another kind;
* `trim_pad` : trimming takes away just the blanks that stand around a text without blank ends;
* `trim_append_blank`, `trim_blank_append` : blanks at an end do not count;
* `remove_eq_self_iff` : a text in which a word occurs is not what is left without it;
* `remove_append_cons` : removing a word goes on afresh behind a character that it does not have;
* `cut?_append_right` : a text is cut where it would be cut if it ended sooner;
* `Skips w a` : looking for `w` in a text that begins with `a`, one finds it only behind `a`;
* `Skips.cut?_append` : so the text is cut where `w` was put.
-/

namespace CallRouting.Text

/-- Where a stretch of characters ends, both halves of the text are known. -/
theorem span_append {p : Char → Bool} {s rest : List Char} (hs : ∀ c ∈ s, p c = true)
    (hrest : ∀ c ∈ rest.head?, p c = false) :
    (s ++ rest).takeWhile p = s ∧ (s ++ rest).dropWhile p = rest := by
  rw [List.takeWhile_append_of_pos hs, List.dropWhile_append_of_pos hs]
  cases rest with
  | nil => simp
  | cons c rest => simp [hrest c rfl]

/-! ## Trimming -/

theorem isBlank_space : ∀ c ∈ [' '], isBlank c = true := by simp [isBlank]

/-- A text with no blank at either end. -/
structure Bare (s : List Char) : Prop where
  head : ∀ c ∈ s.head?, isBlank c = false
  last : ∀ c ∈ s.getLast?, isBlank c = false

theorem bare_of_forall {s : List Char} (h : ∀ c ∈ s, isBlank c = false) : Bare s where
  head c hc := h c (List.mem_of_mem_head? hc)
  last c hc := h c (List.mem_of_mem_getLast? hc)

/-- The text begins with a character that is no blank. -/
def Starts (s : List Char) : Prop := ∃ c r, s = c :: r ∧ isBlank c = false

/-- The text ends with a character that is no blank. -/
def Ends (s : List Char) : Prop := ∃ l c, s = l ++ [c] ∧ isBlank c = false

theorem Starts.append {s : List Char} (h : Starts s) (t : List Char) : Starts (s ++ t) := by
  obtain ⟨c, r, rfl, hc⟩ := h
  exact ⟨c, r ++ t, rfl, hc⟩

theorem Ends.append {s : List Char} (h : Ends s) (t : List Char) : Ends (t ++ s) := by
  obtain ⟨l, c, rfl, hc⟩ := h
  exact ⟨t ++ l, c, (List.append_assoc ..).symm, hc⟩

theorem Starts.of_forall {s : List Char} (hne : s ≠ []) (h : ∀ c ∈ s, isBlank c = false) :
    Starts s := by
  cases s with
  | nil => exact absurd rfl hne
  | cons c r => exact ⟨c, r, rfl, h c List.mem_cons_self⟩

theorem Ends.of_forall {s : List Char} (hne : s ≠ []) (h : ∀ c ∈ s, isBlank c = false) :
    Ends s :=
  ⟨s.dropLast, s.getLast hne, (List.dropLast_concat_getLast hne).symm, h _ (List.getLast_mem hne)⟩

theorem Starts.bare {s : List Char} (hstart : Starts s) (hend : Ends s) : Bare s where
  head := by
    obtain ⟨c, r, rfl, hc⟩ := hstart
    rintro _ ⟨⟩
    exact hc
  last := by
    obtain ⟨l, c, rfl, hc⟩ := hend
    simpa using hc

theorem trimStart_pad {l s : List Char} (hl : ∀ c ∈ l, isBlank c = true)
    (hs : ∀ c ∈ s.head?, isBlank c = false) : trimStart (l ++ s) = s :=
  (span_append hl hs).2

theorem trimEnd_pad {s r : List Char} (hs : ∀ c ∈ s.getLast?, isBlank c = false)
    (hr : ∀ c ∈ r, isBlank c = true) : trimEnd (s ++ r) = s := by
  have h := trimStart_pad (l := r.reverse) (s := s.reverse) (by simpa using hr) (by simpa using hs)
  rw [trimStart] at h
  rw [trimEnd, List.reverse_append, h, List.reverse_reverse]

theorem trim_pad {l s r : List Char} (hl : ∀ c ∈ l, isBlank c = true) (hs : Bare s)
    (hr : ∀ c ∈ r, isBlank c = true) : trim (l ++ (s ++ r)) = s := by
  cases s with
  | nil =>
    rw [trim_eq_nil_iff]
    intro c hc
    rcases List.mem_append.1 hc with hc | hc
    · exact hl c hc
    · exact hr c hc
  | cons c s =>
    have hhead : ∀ d ∈ (c :: s ++ r).head?, isBlank d = false := hs.head
    rw [trim, trimStart_pad hl hhead, trimEnd_pad hs.last hr]

theorem trim_blank_append {l : List Char} (hl : ∀ c ∈ l, isBlank c = true) (s : List Char) :
    trim (l ++ s) = trim s := by
  rw [trim, trimStart, List.dropWhile_append_of_pos hl]
  rfl

theorem trim_append_blank {r : List Char} (hr : ∀ c ∈ r, isBlank c = true) (s : List Char) :
    trim (s ++ r) = trim s := by
  by_cases hs : trimStart s = []
  · have hblank := (dropWhile_eq_nil_iff isBlank s).1 hs
    rw [trim_blank_append hblank, (trim_eq_nil_iff r).2 hr, (trim_eq_nil_iff s).2 hblank]
  · have hstart : trimStart (s ++ r) = trimStart s ++ r := by
      rw [trimStart, List.dropWhile_append, if_neg (by simpa [trimStart] using hs)]
      rfl
    have hend : ∀ a, trimEnd (a ++ r) = trimEnd a := fun a => by
      rw [trimEnd, List.reverse_append, List.dropWhile_append_of_pos (by simpa using hr)]
      rfl
    rw [trim, hstart, hend]
    rfl

/-- A text is its trimmed beginning with blanks before it, -/
theorem exists_trimStart (s : List Char) :
    ∃ l, s = l ++ trimStart s ∧ ∀ c ∈ l, isBlank c = true :=
  ⟨s.takeWhile isBlank, List.takeWhile_append_dropWhile.symm, List.all_eq_true.1 List.all_takeWhile⟩

/-- and its trimmed end with blanks after it. -/
theorem exists_trimEnd (s : List Char) : ∃ r, s = trimEnd s ++ r ∧ ∀ c ∈ r, isBlank c = true := by
  obtain ⟨l, hs, hl⟩ := exists_trimStart s.reverse
  refine ⟨l.reverse, ?_, by simpa using hl⟩
  have := congrArg List.reverse hs
  rwa [List.reverse_reverse, List.reverse_append] at this

/-- A text is its trimmed middle with blanks around it. -/
theorem exists_trim (s : List Char) :
    ∃ l r, s = l ++ (trim s ++ r) ∧ (∀ c ∈ l, isBlank c = true) ∧ ∀ c ∈ r, isBlank c = true := by
  obtain ⟨l, hs, hl⟩ := exists_trimStart s
  obtain ⟨r, hstart, hr⟩ := exists_trimEnd (trimStart s)
  refine ⟨l, r, ?_, hl, hr⟩
  rw [trim, ← hstart, ← hs]

theorem trim_trim (s : List Char) : trim (trim s) = trim s := by
  obtain ⟨l, r, hs, hl, hr⟩ := exists_trim s
  have htrim := congrArg trim hs
  rw [trim_blank_append hl, trim_append_blank hr] at htrim
  exact htrim.symm

theorem starts_trimStart {s : List Char} (h : trimStart s ≠ []) : Starts (trimStart s) := by
  have hhead := List.head?_dropWhile_not isBlank s
  rw [← trimStart] at hhead
  cases hs : trimStart s with
  | nil => exact absurd hs h
  | cons c r =>
    rw [hs] at hhead
    exact ⟨c, r, rfl, by simpa using hhead⟩

theorem ends_trimEnd {s : List Char} (h : trimEnd s ≠ []) : Ends (trimEnd s) := by
  obtain ⟨c, r, hs, hc⟩ := starts_trimStart (s := s.reverse) (by simpa [trimEnd, trimStart] using h)
  exact ⟨r.reverse, c, by rw [trimEnd, ← trimStart, hs, List.reverse_cons], hc⟩

/-- What stands around something that is not blank is trimmed on its own. -/
theorem trim_around {w : List Char} (hstart : Starts w) (hend : Ends w) (a b : List Char) :
    trim (a ++ (w ++ b)) = trimStart a ++ (w ++ trimEnd b) := by
  obtain ⟨l, ha, hl⟩ := exists_trimStart a
  obtain ⟨r, hb, hr⟩ := exists_trimEnd b
  have hstarts : Starts (trimStart a ++ (w ++ trimEnd b)) := by
    by_cases h : trimStart a = []
    · rw [h]
      exact hstart.append _
    · exact (starts_trimStart h).append _
  have hends : Ends (trimStart a ++ (w ++ trimEnd b)) := by
    refine Ends.append ?_ _
    by_cases h : trimEnd b = []
    · rw [h, List.append_nil]
      exact hend
    · exact (ends_trimEnd h).append w
  have hpad := trim_pad hl (hstarts.bare hends) hr
  rwa [List.append_assoc, List.append_assoc, ← hb, ← List.append_assoc l, ← ha] at hpad

theorem trim_bare {s : List Char} (hs : Bare s) : trim s = s := by
  simpa using trim_pad (l := []) (r := []) nofun hs nofun

/-! ## Removing -/

theorem removeFrom_eq_self {c : Char} {w s : List Char} (h : ¬ c :: w <:+: s) :
    removeFrom c w s = s := by
  induction s with
  | nil => rw [removeFrom]
  | cons d s ih =>
    have hprefix : ¬ (c :: w).isPrefixOf (d :: s) = true := fun hp =>
      h (List.isPrefixOf_iff_prefix.1 hp).isInfix
    have hrest : ¬ c :: w <:+: s := fun hi => h (hi.trans (List.suffix_cons d s).isInfix)
    rw [removeFrom, if_neg hprefix, ih hrest]

theorem remove_eq_self {w s : List Char} (h : ¬ w <:+: s) : remove w s = s := by
  cases w with
  | nil => rfl
  | cons c w => exact removeFrom_eq_self h

/-- What is left of a text is some of it, in order. -/
theorem removeFrom_sublist (c : Char) (w s : List Char) : (removeFrom c w s).Sublist s := by
  fun_induction removeFrom c w s with
  | case1 => exact .refl []
  | case2 d s _ ih => exact (ih.trans (List.drop_sublist _ s)).cons d
  | case3 d s _ ih => exact ih.cons_cons d

theorem remove_sublist (w s : List Char) : (remove w s).Sublist s := by
  cases w with
  | nil => exact .refl s
  | cons c w => exact removeFrom_sublist c w s

theorem not_isInfix_of_removeFrom {c : Char} {w s : List Char} (h : removeFrom c w s = s) :
    ¬ c :: w <:+: s := by
  fun_induction removeFrom c w s with
  | case1 => simp
  | case2 d s _ _ =>
    -- Something was removed, so less is left.
    have hle := ((removeFrom_sublist c w (s.drop w.length)).trans (List.drop_sublist _ s)).length_le
    rw [h, List.length_cons] at hle
    omega
  | case3 d s hstart ih =>
    rw [List.infix_cons_iff, not_or, ← List.isPrefixOf_iff_prefix]
    exact ⟨hstart, ih (List.cons.inj h).2⟩

theorem remove_eq_self_iff {w s : List Char} (hw : w ≠ []) : remove w s = s ↔ ¬ w <:+: s := by
  refine ⟨fun h => ?_, remove_eq_self⟩
  cases w with
  | nil => exact absurd rfl hw
  | cons c w => exact not_isInfix_of_removeFrom h

/-- A word is found where it was put, before all that comes later. -/
theorem remove_append_self {w : List Char} (hw : w ≠ []) (s : List Char) :
    remove w (w ++ s) = remove w s := by
  cases w with
  | nil => exact absurd rfl hw
  | cons c w =>
    have hstart : (c :: w).isPrefixOf (c :: (w ++ s)) = true :=
      List.isPrefixOf_iff_prefix.2 (List.prefix_append (c :: w) s)
    rw [remove, List.cons_append, removeFrom, if_pos hstart, List.drop_left]
    rfl

/-- Where a word cannot begin, it is not removed. -/
theorem remove_append_of_notMem {c : Char} {w a : List Char} (h : c ∉ a) (s : List Char) :
    remove (c :: w) (a ++ s) = a ++ remove (c :: w) s := by
  induction a with
  | nil => rfl
  | cons d a ih =>
    obtain ⟨hd, ha⟩ := not_or.1 (mt List.mem_cons.2 h)
    rw [List.cons_append, remove, removeFrom, if_neg (by simp [hd]), List.cons_append]
    exact congrArg (d :: ·) (ih ha)

/-- A word that lacks a character does not reach over it. -/
theorem prefix_append_cons_iff {d : Char} {w : List Char} (h : d ∉ w) (a b : List Char) :
    w <+: a ++ d :: b ↔ w <+: a := by
  refine ⟨fun hw => ?_, fun hw => hw.trans (List.prefix_append a _)⟩
  by_cases hle : w.length ≤ a.length
  · exact List.prefix_of_prefix_length_le hw (List.prefix_append a _) hle
  · have hd : a ++ [d] <+: a ++ d :: b := ⟨b, by simp⟩
    have hmem := (List.prefix_of_prefix_length_le hd hw (by simp; omega)).subset
      (List.mem_append_right a (List.mem_singleton_self d))
    exact absurd hmem h

theorem removeFrom_append_cons {c d : Char} {w : List Char} (h : d ∉ c :: w) (a b : List Char) :
    removeFrom c w (a ++ d :: b) = removeFrom c w a ++ d :: removeFrom c w b := by
  fun_induction removeFrom c w a with
  | case1 =>
    obtain ⟨hd, -⟩ := not_or.1 (mt List.mem_cons.2 h)
    rw [List.nil_append, removeFrom, if_neg (by simp [Ne.symm hd])]
    rfl
  | case2 e a hstart ih =>
    have hp := List.isPrefixOf_iff_prefix.1 hstart
    have hle : w.length ≤ a.length := by simpa using hp.length_le
    have hp' : c :: w <+: e :: (a ++ d :: b) := (prefix_append_cons_iff h (e :: a) b).2 hp
    rw [List.cons_append, removeFrom, if_pos (List.isPrefixOf_iff_prefix.2 hp'),
      List.drop_append_of_le_length hle, ih]
  | case3 e a hstart ih =>
    have hp' : ¬ c :: w <+: e :: (a ++ d :: b) :=
      mt (prefix_append_cons_iff h (e :: a) b).1 (mt List.isPrefixOf_iff_prefix.2 hstart)
    rw [List.cons_append, removeFrom, if_neg (mt List.isPrefixOf_iff_prefix.1 hp'), ih]
    rfl

theorem remove_append_cons {d : Char} {w : List Char} (h : d ∉ w) (a b : List Char) :
    remove w (a ++ d :: b) = remove w a ++ d :: remove w b := by
  cases w with
  | nil => rfl
  | cons c w => exact removeFrom_append_cons h a b

/-! ## Cutting -/

/-- Where the word is found first does not depend on what comes after that. -/
theorem cut?_append_right {w s before after : List Char} (hw : w ≠ [])
    (h : cut? w s = some (before, after)) (t : List Char) :
    cut? w (s ++ t) = some (before, after ++ t) := by
  induction s generalizing before with
  | nil => simp [cut?, hw] at h
  | cons c s ih =>
    rw [cut?] at h
    split at h
    · next hp =>
      obtain ⟨r, hr⟩ := List.isPrefixOf_iff_prefix.1 hp
      have hp' : w.isPrefixOf (c :: (s ++ t)) = true :=
        List.isPrefixOf_iff_prefix.2 ⟨r ++ t, by rw [← List.append_assoc, hr, List.cons_append]⟩
      obtain ⟨rfl, rfl⟩ := Prod.mk.inj (Option.some.inj h)
      rw [List.cons_append, cut?, if_pos hp', ← List.cons_append, ← hr]
      simp
    · next hp =>
      obtain ⟨⟨b, a⟩, hb, he⟩ := Option.map_eq_some_iff.1 h
      obtain ⟨rfl, rfl⟩ := Prod.mk.inj he
      have hp' : ¬ w.isPrefixOf (c :: (s ++ t)) = true := by
        intro hpre
        have hle : w.length ≤ (c :: s).length := by
          rw [cut?_eq_some hb]
          simp
          omega
        have := List.prefix_of_prefix_length_le (List.isPrefixOf_iff_prefix.1 hpre)
          (List.prefix_append (c :: s) t) hle
        exact hp (List.isPrefixOf_iff_prefix.2 this)
      rw [List.cons_append, cut?, if_neg hp', ih hb]
      rfl

theorem cut?_eq_none_iff {w s : List Char} : cut? w s = none ↔ ¬ w <:+: s := by
  rw [← contains_iff, contains, Option.not_isSome_iff_eq_none]

/-- A word that lacks a character stands before it or behind it. -/
theorem infix_append_cons_iff {d : Char} {w : List Char} (h : d ∉ w) (a b : List Char) :
    w <:+: a ++ d :: b ↔ w <:+: a ∨ w <:+: b := by
  induction a with
  | nil =>
    have hstart : w <+: d :: b ↔ w <+: [] := prefix_append_cons_iff h [] b
    rw [List.nil_append, List.infix_cons_iff, hstart, List.prefix_nil, List.infix_nil]
  | cons c a ih =>
    have hstart := prefix_append_cons_iff h (c :: a) b
    rw [List.cons_append] at hstart ⊢
    rw [List.infix_cons_iff, List.infix_cons_iff, hstart, ih, or_assoc]

/-- No `w` begins in `a`, whatever stands after `a`. -/
def Skips (w a : List Char) : Prop :=
  ∀ s, cut? w (a ++ s) = (cut? w s).map fun (before, after) => (a ++ before, after)

namespace Skips

variable {w a b : List Char}

theorem nil : Skips w [] := fun s => by simp

theorem append (ha : Skips w a) (hb : Skips w b) : Skips w (a ++ b) := by
  intro s
  rw [List.append_assoc, ha, hb, Option.map_map]
  congr 1
  funext ⟨before, after⟩
  simp

theorem flatMap {α : Type} {f : α → List Char} {l : List α} (h : ∀ x ∈ l, Skips w (f x)) :
    Skips w (l.flatMap f) := by
  induction l with
  | nil => exact nil
  | cons x l ih =>
    obtain ⟨hx, hl⟩ := List.forall_mem_cons.1 h
    exact hx.append (ih hl)

/-- A character that cannot begin `w`. -/
theorem singleton {c d : Char} (h : c ≠ d) : Skips (d :: w) [c] := by
  intro s
  have hprefix : (d :: w).isPrefixOf (c :: s) = false := by simp [List.isPrefixOf, Ne.symm h]
  simp [cut?, hprefix]

theorem of_forall_ne {d : Char} (h : ∀ c ∈ a, c ≠ d) : Skips (d :: w) a := by
  induction a with
  | nil => exact nil
  | cons c a ih =>
    obtain ⟨hc, ha⟩ := List.forall_mem_cons.1 h
    exact (singleton hc).append (ih ha)

/-- Where nothing can begin a `w`, the one that was put there is found. -/
theorem cut?_append {c : Char} (h : Skips (c :: w) a) (b : List Char) :
    cut? (c :: w) (a ++ (c :: w ++ b)) = some (a, b) := by
  have hprefix : (c :: w).isPrefixOf (c :: (w ++ b)) = true :=
    List.isPrefixOf_iff_prefix.2 (List.prefix_append (c :: w) b)
  rw [h, List.cons_append, cut?, if_pos hprefix]
  simp

end Skips
end CallRouting.Text
