import Mathlib.Data.List.Destutter
import CallRouting.Proofs.ClauseTree

/-!
# Globs of words

The glob of a word matches what the word stands for: each `*` any text, and every other character
itself. What globs mean is up to the engine that reads them; it is asked to know single stars,
escaped characters and characters that mean nothing, each with any glob after it in which no two
stars stand side by side.

* `Engine.Reads g L` : the engine builds the glob, and what it matches are the texts in `L`;
* `Engine.Lawful` : what is asked of an engine, and `reader_lawful` : the one at hand is lawful;
* `collapse` : a word with one star for every run of stars, and `ofWord_eq` : the glob of a word is
  that, with the characters escaped one by one;
* `Engine.Lawful.reads_escape`, `stands_collapse_iff` : the glob matches what the collapsed word
  stands for, and that is what the word stands for;
* `Pattern.acceptsBy_wildcard_iff` : so a pattern accepts what its word stands for, whatever lawful
  engine is at work.
-/

namespace CallRouting

namespace Wildcard

theorem stands_nil_left_iff (s : List Char) : Stands [] s ↔ s = [] := by
  constructor
  · rintro ⟨⟩
    rfl
  · rintro rfl
    exact .nil

theorem stands_star_iff (w s : List Char) :
    Stands ('*' :: w) s ↔ ∃ t u, s = t ++ u ∧ Stands w u := by
  constructor
  · intro h
    generalize hv : '*' :: w = v at h
    cases h with
    | nil => cases hv
    | star t hrest =>
      cases hv
      exact ⟨t, _, rfl, hrest⟩
    | char _ hne => exact absurd (List.cons.inj hv).1.symm hne
  · rintro ⟨t, u, rfl, hrest⟩
    exact .star t hrest

theorem stands_char_iff {c : Char} (hc : c ≠ '*') (w s : List Char) :
    Stands (c :: w) s ↔ ∃ t, s = c :: t ∧ Stands w t := by
  constructor
  · intro h
    cases h with
    | star => exact absurd rfl hc
    | char _ _ hrest => exact ⟨_, rfl, hrest⟩
  · rintro ⟨t, rfl, hrest⟩
    exact .char c hc hrest

theorem stands_cons_congr {v w : List Char} (h : ∀ s, Stands v s ↔ Stands w s) (c : Char)
    (s : List Char) : Stands (c :: v) s ↔ Stands (c :: w) s := by
  by_cases hc : c = '*'
  · subst hc
    simp only [stands_star_iff, h]
  · simp only [stands_char_iff hc, h]

/-- What two stars take, one star can take. -/
theorem stands_star_star_iff (w s : List Char) :
    Stands ('*' :: '*' :: w) s ↔ Stands ('*' :: w) s := by
  constructor
  · intro h
    obtain ⟨t, u, rfl, hrest⟩ := (stands_star_iff _ s).1 h
    obtain ⟨t', u', rfl, hrest'⟩ := (stands_star_iff _ u).1 hrest
    exact (stands_star_iff _ _).2 ⟨t ++ t', u', (List.append_assoc ..).symm, hrest'⟩
  · exact fun h => .star [] h

end Wildcard

namespace Glob

open Wildcard (Stands)

/-! ## Runs of stars -/

/-- Not both characters are stars. -/
def Apart (a b : Char) : Prop := ¬ (a = '*' ∧ b = '*')

instance : DecidableRel Apart := fun a b => inferInstanceAs (Decidable (¬ (a = '*' ∧ b = '*')))

/-- No two stars stand side by side. -/
def Single (g : List Char) : Prop := g.IsChain Apart

/-- The word with one star in place of every run of stars. -/
def collapse (w : List Char) : List Char := w.destutter Apart

theorem single_collapse (w : List Char) : Single (collapse w) := w.isChain_destutter Apart

theorem stands_destutter'_iff (a : Char) (w s : List Char) :
    Stands (w.destutter' Apart a) s ↔ Stands (a :: w) s := by
  induction w generalizing a s with
  | nil => rw [List.destutter'_nil]
  | cons c w ih =>
    by_cases hapart : Apart a c
    · rw [List.destutter'_cons_pos _ hapart]
      exact Wildcard.stands_cons_congr (ih c) a s
    · obtain ⟨rfl, rfl⟩ := not_not.1 hapart
      rw [List.destutter'_cons_neg _ hapart, ih, Wildcard.stands_star_star_iff]

/-- A run of stars stands for what one star stands for. -/
theorem stands_collapse_iff (w s : List Char) : Stands (collapse w) s ↔ Stands w s := by
  cases w with
  | nil => rfl
  | cons c w => exact stands_destutter'_iff c w s

theorem head?_collapse (w : List Char) : (collapse w).head? = w.head? := by
  cases w with
  | nil => rfl
  | cons c w =>
    rw [collapse, List.destutter_cons']
    induction w with
    | nil => rfl
    | cons d w ih =>
      by_cases hapart : Apart c d
      · rw [List.destutter'_cons_pos _ hapart]
        rfl
      · rwa [List.destutter'_cons_neg _ hapart]

/-- Of every run of stars one is kept. -/
theorem star_mem_collapse_iff (w : List Char) : '*' ∈ collapse w ↔ '*' ∈ w := by
  refine ⟨fun h => (w.destutter_sublist Apart).subset h, fun h => ?_⟩
  cases w with
  | nil => exact h
  | cons a w =>
    rw [collapse, List.destutter_cons']
    induction w generalizing a with
    | nil => exact h
    | cons c w ih =>
      by_cases hapart : Apart a c
      · rw [List.destutter'_cons_pos _ hapart]
        rcases List.mem_cons.1 h with hstar | hrest
        · exact List.mem_cons.2 (.inl hstar)
        · exact List.mem_cons_of_mem a (ih c hrest)
      · obtain ⟨rfl, rfl⟩ := not_not.1 hapart
        exact List.mem_destutter' _ Apart '*'

/-! ## Escaped characters -/

/-- The glob of a word is written by going through the collapsed word. -/
theorem ofWordAfter_eq (a : Char) (w : List Char) :
    escape a ++ ofWordAfter (some a) w = (w.destutter' Apart a).flatMap escape := by
  induction w generalizing a with
  | nil => simp [ofWordAfter]
  | cons c w ih =>
    by_cases hapart : Apart a c
    · have hkept : ¬ (c = '*' ∧ some a = some '*') :=
        fun h => hapart ⟨Option.some.inj h.2, h.1⟩
      rw [ofWordAfter, if_neg hkept, List.destutter'_cons_pos _ hapart, List.flatMap_cons, ih]
    · obtain ⟨rfl, rfl⟩ := not_not.1 hapart
      rw [ofWordAfter, if_pos ⟨rfl, rfl⟩, List.destutter'_cons_neg _ hapart, ih]

theorem ofWord_eq (w : List Char) : ofWord w = (collapse w).flatMap escape := by
  cases w with
  | nil => rfl
  | cons c w =>
    rw [collapse, List.destutter_cons', ← ofWordAfter_eq, ofWord, ofWordAfter, if_neg nofun]

theorem apart_head_escape {c : Char} {w : List Char} (h : ∀ d ∈ w.head?, Apart c d) :
    ∀ d ∈ (w.flatMap escape).head?, Apart c d := by
  cases w with
  | nil => nofun
  | cons d w =>
    have hd : Apart c d := h d rfl
    intro e he
    rw [List.flatMap_cons, escape] at he
    split at he
    · cases he
      exact fun hboth => absurd hboth.2 (by decide)
    · cases he
      exact hd

/-- Escaping does not bring stars together. -/
theorem Single.escape {w : List Char} (h : Single w) : Single (w.flatMap Glob.escape) := by
  induction w with
  | nil => exact .nil
  | cons c w ih =>
    obtain ⟨hhead, hrest⟩ := List.isChain_cons.1 h
    have hstart : Single (c :: w.flatMap Glob.escape) :=
      List.isChain_cons.2 ⟨apart_head_escape hhead, ih hrest⟩
    rw [List.flatMap_cons, Glob.escape]
    split
    · refine List.isChain_cons.2 ⟨?_, hstart⟩
      rintro _ -
      exact fun hboth => absurd hboth.1 (by decide)
    · exact hstart

/-! ## Engines -/

namespace Engine

/-- The engine takes the text for a glob, and the texts that it matches are those in `L`. -/
def Reads (E : Engine) (g : List Char) (L : List Char → Prop) : Prop :=
  ∃ test, E.build? g = some test ∧ ∀ s, test s = true ↔ L s

/-- What is asked of an engine. Nothing is said of two stars side by side, nor of characters that
mean something and are not escaped. -/
structure Lawful (E : Engine) : Prop where
  nil : E.Reads [] (· = [])
  /-- A character that means nothing stands for itself. -/
  plain : ∀ c g L, c ≠ '*' → c ∉ special → Single g → E.Reads g L →
    E.Reads (c :: g) fun s => ∃ t, s = c :: t ∧ L t
  /-- So does one that means something, if it is escaped. -/
  escaped : ∀ c g L, c ∈ special → Single g → E.Reads g L →
    E.Reads ('\\' :: c :: g) fun s => ∃ t, s = c :: t ∧ L t
  /-- A star stands for any text. -/
  star : ∀ g L, Single ('*' :: g) → E.Reads g L →
    E.Reads ('*' :: g) fun s => ∃ t u, s = t ++ u ∧ L u

variable {E : Engine}

theorem Reads.congr {g : List Char} {L L' : List Char → Prop} (h : E.Reads g L)
    (hiff : ∀ s, L s ↔ L' s) : E.Reads g L' := by
  obtain ⟨test, htest, hmatches⟩ := h
  exact ⟨test, htest, fun s => (hmatches s).trans (hiff s)⟩

/-- A word without runs of stars, with its characters escaped, matches what the word stands for. -/
theorem Lawful.reads_escape (h : E.Lawful) {w : List Char} (hw : Single w) :
    E.Reads (w.flatMap escape) (Stands w) := by
  induction w with
  | nil => exact h.nil.congr fun s => (Wildcard.stands_nil_left_iff s).symm
  | cons c w ih =>
    have hrest : Single w := (List.isChain_cons.1 hw).2
    have hreads := ih hrest
    have hall := hw.escape
    rw [List.flatMap_cons, escape] at hall ⊢
    by_cases hspecial : c ∈ special
    · have hc : c ≠ '*' := by
        rintro rfl
        exact absurd hspecial (by decide)
      rw [if_pos hspecial]
      exact (h.escaped c _ _ hspecial hrest.escape hreads).congr fun s =>
        (Wildcard.stands_char_iff hc w s).symm
    · rw [if_neg hspecial] at hall ⊢
      by_cases hc : c = '*'
      · subst hc
        exact (h.star _ _ hall hreads).congr fun s => (Wildcard.stands_star_iff w s).symm
      · exact (h.plain c _ _ hc hspecial hrest.escape hreads).congr fun s =>
          (Wildcard.stands_char_iff hc w s).symm

/-- The glob of any word is read, and matches what the word stands for. -/
theorem Lawful.reads_ofWord (h : E.Lawful) (w : List Char) : E.Reads (ofWord w) (Stands w) := by
  rw [ofWord_eq]
  exact (h.reads_escape (single_collapse w)).congr (stands_collapse_iff w)

end Engine

/-! ## The engine at hand -/

theorem word?_cons {c : Char} (hc : c ∉ special) (g : List Char) :
    word? (c :: g) = (word? g).map (c :: ·) := by
  have hslash : c ≠ '\\' := by
    rintro rfl
    exact hc (by decide)
  rw [word?, if_neg hc]
  exact fun _ _ heq => absurd heq hslash

theorem word?_escaped {c : Char} (hc : c ∈ special) (g : List Char) :
    word? ('\\' :: c :: g) = (word? g).map (c :: ·) := by
  have hstar : c ≠ '*' := by
    rintro rfl
    exact absurd hc (by decide)
  rw [word?, if_neg hstar]

theorem reader_reads_iff {g : List Char} {L : List Char → Prop} :
    reader.Reads g L ↔ ∃ w, word? g = some w ∧ ∀ s, Stands w s ↔ L s := by
  constructor
  · rintro ⟨test, htest, hmatches⟩
    obtain ⟨w, hw, rfl⟩ := Option.map_eq_some_iff.1 htest
    exact ⟨w, hw, fun s => (Wildcard.accepts_iff w s).symm.trans (hmatches s)⟩
  · rintro ⟨w, hw, hstands⟩
    refine ⟨Wildcard.accepts w, ?_, fun s => (Wildcard.accepts_iff w s).trans (hstands s)⟩
    exact congrArg (Option.map Wildcard.accepts) hw

theorem reader_lawful : reader.Lawful where
  nil := reader_reads_iff.2 ⟨[], rfl, Wildcard.stands_nil_left_iff⟩
  plain c g L hc hspecial _ h := by
    obtain ⟨w, hw, hstands⟩ := reader_reads_iff.1 h
    refine reader_reads_iff.2 ⟨c :: w, by rw [word?_cons hspecial, hw]; rfl, fun s => ?_⟩
    simp only [Wildcard.stands_char_iff hc, hstands]
  escaped c g L hspecial _ h := by
    obtain ⟨w, hw, hstands⟩ := reader_reads_iff.1 h
    have hc : c ≠ '*' := by
      rintro rfl
      exact absurd hspecial (by decide)
    refine reader_reads_iff.2 ⟨c :: w, by rw [word?_escaped hspecial, hw]; rfl, fun s => ?_⟩
    simp only [Wildcard.stands_char_iff hc, hstands]
  star g L _ h := by
    obtain ⟨w, hw, hstands⟩ := reader_reads_iff.1 h
    refine reader_reads_iff.2 ⟨'*' :: w, by rw [word?_cons (by decide), hw]; rfl, fun s => ?_⟩
    simp only [Wildcard.stands_star_iff, hstands]

end Glob

/-! ## Patterns -/

namespace Clause.Pattern

variable {E : Glob.Engine} {side : Side} {word : List Char}

theorem acceptsBy_wildcard_iff (hE : E.Lawful) (resolve : String → Option String) (value : String) :
    (wildcard word).acceptsBy E resolve value = true ↔ Wildcard.Stands word value.toList := by
  obtain ⟨test, htest, hmatches⟩ := hE.reads_ofWord word
  rw [acceptsBy, htest]
  exact hmatches value.toList

/-- A word with a star is a pattern for what it stands for, if it is no reference. -/
theorem acceptsBy_ofWord_iff (hE : E.Lawful) (hstar : '*' ∈ word)
    (hplain : word.head? ≠ some '$') (resolve : String → Option String) (value : String) :
    (ofWord side word).acceptsBy E resolve value = true ↔ Wildcard.Stands word value.toList := by
  unfold ofWord
  split
  · next hany =>
    subst hany
    exact iff_of_true rfl (stands_star value.toList)
  · split
    · exact absurd rfl hplain
    · exact acceptsBy_wildcard_iff hE resolve value

end Clause.Pattern
end CallRouting
