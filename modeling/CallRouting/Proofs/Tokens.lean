import CallRouting.Clause.Token
import CallRouting.Proofs.Cutting

/-!
# Tokens and their texts

How a text is built up from gaps and words, and what `Token.scan` makes of it.

* `Solid` : a word, some characters none of which can stand in a gap;
* `scan_append` : a gap and a word are the first token, and the rest is scanned on its own;
* `Token.spaced` : a token written with one blank on each side of its separators;
* `scan_spaced` : a text written so scans to the tokens that it was written from.
-/

namespace CallRouting.Clause

theorem isGap_of_isBlank {c : Char} (h : Text.isBlank c = true) : isGap c = true := by
  simp [isGap, h]

/-- A word that the scanner takes as one. -/
structure Solid (w : List Char) : Prop where
  ne_nil : w ≠ []
  notGap : ∀ c ∈ w, isGap c = false

instance (w : List Char) : Decidable (Solid w) :=
  decidable_of_iff (w ≠ [] ∧ w.all (!isGap ·) = true)
    ⟨fun h => ⟨h.1, by simpa using h.2⟩, fun h => ⟨h.ne_nil, by simpa using h.notGap⟩⟩

theorem Solid.notBlank {w : List Char} (h : Solid w) : ∀ c ∈ w, Text.isBlank c = false := by
  intro c hc
  have := h.notGap c hc
  simp only [isGap, Bool.or_eq_false_iff] at this
  exact this.1

/-- A text before which a word can end. -/
def Open (s : List Char) : Prop := ∀ c ∈ s.head?, isGap c = true

theorem open_nil : Open [] := nofun

theorem open_cons {c : Char} {s : List Char} (h : isGap c = true) : Open (c :: s) := by
  rintro _ ⟨⟩
  exact h

theorem Solid.head_notGap {w : List Char} (h : Solid w) (rest : List Char) :
    ∀ c ∈ (w ++ rest).head?, isGap c = false := by
  obtain ⟨hne, hnot⟩ := h
  cases w with
  | nil => exact absurd rfl hne
  | cons c w =>
    rintro _ ⟨⟩
    exact hnot c List.mem_cons_self

namespace Token

theorem next_append {g w rest : List Char} (hg : ∀ c ∈ g, isGap c = true) (hw : Solid w)
    (hrest : Open rest) : next (g ++ (w ++ rest)) = (⟨g.filter isSeparator, w⟩, rest) := by
  have hword : ∀ c ∈ w, (!isGap c) = true := fun c hc => by simp [hw.notGap c hc]
  have hopen : ∀ c ∈ rest.head?, (!isGap c) = false := fun c hc => by simp [hrest c hc]
  obtain ⟨hrun, hafter⟩ := Text.span_append hg (hw.head_notGap rest)
  obtain ⟨hfirst, hleft⟩ := Text.span_append hword hopen
  simp only [next, hrun, hafter, hfirst, hleft]

/-- Texts that begin alike have the same tokens. -/
theorem scan_eq_of_next_eq {s s' : List Char} (h : next s = next s') : scan s = scan s' := by
  rw [scan, h, ← scan]

theorem next_gap_append {g : List Char} (hg : ∀ c ∈ g, isGap c = true) (s : List Char) :
    next (g ++ s) = (⟨g.filter isSeparator ++ (next s).1.run, (next s).1.word⟩, (next s).2) := by
  simp only [next, List.takeWhile_append_of_pos hg, List.dropWhile_append_of_pos hg,
    List.filter_append]

theorem scan_nil : scan [] = [] := by
  rw [scan]
  rfl

theorem scan_append {g w rest : List Char} (hg : ∀ c ∈ g, isGap c = true) (hw : Solid w)
    (hrest : Open rest) :
    scan (g ++ (w ++ rest)) = ⟨g.filter isSeparator, w⟩ :: scan rest := by
  have hnext := next_append hg hw hrest
  rw [scan, dif_pos (by rw [hnext]; exact hw.ne_nil), hnext]

/-! ## Tokens written with blanks -/

def spaced (t : Token) : List Char := ' ' :: t.run ++ ' ' :: t.word

/-- Separators only, and a word. -/
structure WellFormed (t : Token) : Prop where
  run : ∀ c ∈ t.run, isSeparator c = true
  word : Solid t.word

theorem open_spaced (ts : List Token) : Open (ts.flatMap spaced) := by
  cases ts with
  | nil => exact open_nil
  | cons t ts => exact open_cons (by decide)

theorem scan_spaced {ts : List Token} (h : ∀ t ∈ ts, t.WellFormed) :
    scan (ts.flatMap spaced) = ts := by
  induction ts with
  | nil => exact scan_nil
  | cons t ts ih =>
    obtain ⟨⟨hrun, hword⟩, hrest⟩ := List.forall_mem_cons.1 h
    have hgap : ∀ c ∈ ' ' :: t.run ++ [' '], isGap c = true := by
      intro c hc
      simp only [List.cons_append, List.mem_cons, List.mem_append, List.not_mem_nil, or_false] at hc
      rcases hc with rfl | hc | rfl
      · decide
      · simp [isGap, hrun c hc]
      · decide
    have hfilter : (' ' :: t.run ++ [' ']).filter isSeparator = t.run := by
      have hblank : isSeparator ' ' = false := by decide
      simp [List.filter_append, hblank, List.filter_eq_self.2 hrun]
    have hsplit : (t :: ts).flatMap spaced
        = (' ' :: t.run ++ [' ']) ++ (t.word ++ ts.flatMap spaced) := by
      simp [spaced]
    rw [hsplit, scan_append hgap hword (open_spaced ts), hfilter, ih hrest]

/-- The first word of a text need have nothing before it. -/
theorem scan_word_spaced {w : List Char} {ts : List Token} (hw : Solid w)
    (h : ∀ t ∈ ts, t.WellFormed) : scan (w ++ ts.flatMap spaced) = ⟨[], w⟩ :: ts := by
  have := scan_append (g := []) nofun hw (open_spaced ts)
  rw [scan_spaced h] at this
  exact this

end Token
end CallRouting.Clause
