import CallRouting.Proofs.Tokens

/-!
# Texts read as words

A text can be read in just one way as an alternation of gaps and words, and the scanner reads it
so: a gap ends where a word begins, a word ends where a gap begins, and of a gap only the
separators count.

* `Alternates s ts run` : the words of `s` are those of `ts`, each with the separators before it,
  and `run` are the separators after the last word;
* `exists_alternates` : every text can be read so;
* `Alternates.scan_eq` : that reading is what the scanner finds, so
* `Alternates.unique` : there is no other;
* `Token.scan_append_open`, `Token.scan_congr_gap`, `Token.scan_trim` : texts that are scanned in
  pieces, or differ in their blanks only.
-/

namespace CallRouting.Clause

/-- A gap without separators is blank. -/
theorem filter_isSeparator_eq_nil_iff {g : List Char} (hg : ∀ c ∈ g, isGap c = true) :
    g.filter isSeparator = [] ↔ ∀ c ∈ g, Text.isBlank c = true := by
  rw [List.filter_eq_nil_iff]
  refine forall₂_congr fun c hc => ⟨fun hno => ?_, fun hblank hsep => ?_⟩
  · simpa [isGap, hno] using hg c hc
  · simp only [isSeparator, Bool.or_eq_true, decide_eq_true_eq] at hsep
    rcases hsep with ((rfl | rfl) | rfl) | rfl <;> exact absurd hblank (by decide)

inductive Alternates : List Char → List Token → List Char → Prop
  | gap {g : List Char} : (∀ c ∈ g, isGap c = true) → Alternates g [] (g.filter isSeparator)
  | word {g w rest : List Char} {ts : List Token} {run : List Char} :
      (∀ c ∈ g, isGap c = true) → Solid w → Open rest → Alternates rest ts run →
      Alternates (g ++ (w ++ rest)) (⟨g.filter isSeparator, w⟩ :: ts) run

namespace Token

/-- The token that separators without a word make, if there are any. -/
def dangling (run : List Char) : List Token := if run = [] then [] else [⟨run, []⟩]

theorem word_eq_nil_of_mem_dangling {run : List Char} {t : Token} (h : t ∈ dangling run) :
    t.word = [] := by
  unfold dangling at h
  split at h
  · cases h
  · rw [List.mem_singleton.1 h]

theorem dangling_inj {run run' : List Char} : dangling run = dangling run' ↔ run = run' := by
  unfold dangling
  split <;> split <;> simp_all

theorem scan_gap {g : List Char} (hg : ∀ c ∈ g, isGap c = true) :
    scan g = dangling (g.filter isSeparator) := by
  have hnext : next g = (⟨g.filter isSeparator, []⟩, []) := by
    have hspan := Text.span_append hg (nofun : ∀ c ∈ ([] : List Char).head?, isGap c = false)
    rw [List.append_nil] at hspan
    obtain ⟨hrun, hrest⟩ := hspan
    simp [next, hrun, hrest]
  rw [scan, dif_neg (by simp [hnext]), hnext]
  rfl

/-- The text before the first word, the word and the text after it. -/
theorem split_next (s : List Char) :
    s = s.takeWhile isGap ++ ((next s).1.word ++ (next s).2) := by
  simp only [next, List.takeWhile_append_dropWhile]

theorem gap_takeWhile (s : List Char) : ∀ c ∈ s.takeWhile isGap, isGap c = true :=
  List.all_eq_true.1 List.all_takeWhile

theorem solid_next {s : List Char} (h : (next s).1.word ≠ []) : Solid (next s).1.word where
  ne_nil := h
  notGap c hc := by
    have hall := List.all_eq_true.1 (List.all_takeWhile (p := fun c => !isGap c)) c hc
    simpa using hall

theorem open_next (s : List Char) : Open (next s).2 := by
  intro c hc
  have := List.head?_dropWhile_not (fun c => !isGap c) (s.dropWhile isGap)
  simp only [next] at hc
  rw [hc] at this
  simpa using this

/-- Without a word the whole text is a gap. -/
theorem gap_of_next {s : List Char} (h : (next s).1.word = []) : s.takeWhile isGap = s := by
  have hhead := List.head?_dropWhile_not isGap s
  have hrest : s.dropWhile isGap = [] := by
    cases hs : s.dropWhile isGap with
    | nil => rfl
    | cons c r =>
      rw [hs] at hhead
      simp only [next, hs] at h
      simp_all
  have := List.takeWhile_append_dropWhile (p := isGap) (l := s)
  rwa [hrest, List.append_nil] at this

end Token

open Token in
theorem exists_alternates (s : List Char) : ∃ ts run, Alternates s ts run := by
  have hgap : ∀ {s}, ¬ (next s).1.word ≠ [] → ∃ ts run, Alternates s ts run := by
    intro s hword
    have h := Alternates.gap (gap_takeWhile s)
    rw [gap_of_next (Decidable.not_not.1 hword)] at h
    exact ⟨_, _, h⟩
  induction s using scan.induct with
  | case1 s hword ih =>
    obtain ⟨ts, run, hrest⟩ := ih
    have h := Alternates.word (gap_takeWhile s) (solid_next hword) (open_next s) hrest
    rw [← split_next] at h
    exact ⟨_, _, h⟩
  | case2 s hword => exact hgap hword
  | case3 s hword => exact hgap hword

namespace Alternates

variable {s run run' : List Char} {ts ts' : List Token}

theorem solid (h : Alternates s ts run) : ∀ t ∈ ts, Solid t.word := by
  induction h with
  | gap => nofun
  | word _ hw _ _ ih => exact List.forall_mem_cons.2 ⟨hw, ih⟩

theorem scan_eq (h : Alternates s ts run) : Token.scan s = ts ++ Token.dangling run := by
  induction h with
  | gap hg => exact Token.scan_gap hg
  | word hg hw hopen _ ih => rw [Token.scan_append hg hw hopen, ih, List.cons_append]

/-- The tokens with words can be told from the one without. -/
theorem filter_scan (h : Alternates s ts run) :
    (Token.scan s).filter (·.word ≠ []) = ts := by
  have hwords : ts.filter (·.word ≠ []) = ts :=
    List.filter_eq_self.2 fun t ht => by simpa using (h.solid t ht).ne_nil
  have hnone : (Token.dangling run).filter (·.word ≠ []) = [] :=
    List.filter_eq_nil_iff.2 fun t ht => by simp [Token.word_eq_nil_of_mem_dangling ht]
  rw [h.scan_eq, List.filter_append, hwords, hnone, List.append_nil]

theorem unique (h : Alternates s ts run) (h' : Alternates s ts' run') : ts' = ts ∧ run' = run := by
  have hts : ts' = ts := h'.filter_scan.symm.trans h.filter_scan
  have hscan := h'.scan_eq.symm.trans h.scan_eq
  rw [hts, List.append_cancel_left_eq] at hscan
  exact ⟨hts, Token.dangling_inj.1 hscan⟩

/-- Blanks at the end belong to no word. -/
theorem append_blank {r : List Char} (h : Alternates s ts run)
    (hr : ∀ c ∈ r, Text.isBlank c = true) : Alternates (s ++ r) ts run := by
  have hgap : ∀ c ∈ r, isGap c = true := fun c hc => isGap_of_isBlank (hr c hc)
  induction h with
  | @gap g hg =>
    have hfilter : (g ++ r).filter isSeparator = g.filter isSeparator := by
      rw [List.filter_append, (filter_isSeparator_eq_nil_iff hgap).2 hr, List.append_nil]
    rw [← hfilter]
    exact .gap (List.forall_mem_append.2 ⟨hg, hgap⟩)
  | @word g w rest ts run hg hw hopen _ ih =>
    rw [List.append_assoc, List.append_assoc]
    refine .word hg hw ?_ ih
    cases rest with
    | nil => exact fun c hc => hgap c (List.mem_of_mem_head? hc)
    | cons d rest => exact hopen

end Alternates

/-! ## Texts put together -/

namespace Token

/-- Behind a word a text is scanned on its own. -/
theorem scan_append_open {x y : List Char} (hx : ∀ c ∈ x.getLast?, isGap c = false)
    (hy : Open y) : scan (x ++ y) = scan x ++ scan y := by
  obtain ⟨ts, run, h⟩ := exists_alternates x
  induction h with
  | @gap g hg =>
    rcases List.eq_nil_or_concat g with rfl | ⟨l, d, rfl⟩
    · simp [scan_nil]
    · have := hx d (by simp)
      rw [hg d (by simp)] at this
      cases this
  | @word g w rest ts run hg hw hopen _ ih =>
    have hopen' : Open (rest ++ y) := by
      cases rest with
      | nil => exact hy
      | cons d rest => exact hopen
    have hlast : ∀ c ∈ rest.getLast?, isGap c = false := fun c hc =>
      hx c (by rw [List.getLast?_append, List.getLast?_append, Option.mem_def.1 hc]; rfl)
    rw [List.append_assoc, List.append_assoc, scan_append hg hw hopen', scan_append hg hw hopen,
      ih hlast, List.cons_append]

/-- Gaps with the same separators can stand for each other. -/
theorem scan_congr_gap {g g' : List Char} (hg : ∀ c ∈ g, isGap c = true)
    (hg' : ∀ c ∈ g', isGap c = true) (hne : g ≠ []) (hne' : g' ≠ [])
    (h : g.filter isSeparator = g'.filter isSeparator) (x s : List Char) :
    scan (x ++ (g ++ s)) = scan (x ++ (g' ++ s)) := by
  obtain ⟨ts, run, hx⟩ := exists_alternates x
  induction hx with
  | @gap p hp =>
    refine scan_eq_of_next_eq ?_
    rw [next_gap_append hp, next_gap_append hp, next_gap_append hg, next_gap_append hg', h]
  | @word p w rest ts run hp hw hopen _ ih =>
    have hrest : ∀ {q : List Char}, (∀ c ∈ q, isGap c = true) → q ≠ [] → Open (rest ++ (q ++ s)) := by
      intro q hq hqne
      cases rest with
      | nil =>
        obtain ⟨d, q, rfl⟩ := List.exists_cons_of_ne_nil hqne
        exact open_cons (hq d List.mem_cons_self)
      | cons d rest => exact hopen
    simp only [List.append_assoc]
    rw [scan_append hp hw (hrest hg hne), scan_append hp hw (hrest hg' hne'), ih]

/-- Blank ends do not count. -/
theorem scan_trim (s : List Char) : scan (Text.trim s) = scan s := by
  obtain ⟨l, r, hs, hl, hr⟩ := Text.exists_trim s
  have hgap : ∀ c ∈ l, isGap c = true := fun c hc => isGap_of_isBlank (hl c hc)
  obtain ⟨ts, run, h⟩ := exists_alternates (Text.trim s)
  have hend := (h.append_blank hr).scan_eq.trans h.scan_eq.symm
  have hstart : scan (l ++ (Text.trim s ++ r)) = scan (Text.trim s ++ r) := by
    refine scan_eq_of_next_eq ?_
    rw [next_gap_append hgap, (filter_isSeparator_eq_nil_iff hgap).2 hl]
    rfl
  rw [← hs] at hstart
  exact (hstart.trans hend).symm

end Token
end CallRouting.Clause
