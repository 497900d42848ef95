import CallRouting.Toml.Quoted
import CallRouting.Toml.Value

/-!
# Strings in TOML are read back

Whatever characters a string has, what is written for it is read as that string, up to the end of
its line.

* `escapeOf` : what is written for one character; `basicRest_escapeOf` and `blockRest_escapeOf` read
  it back;
* `blockRest_escapeFrom` : over several lines, where up to two double quotes in a row stand for
  themselves and may be followed by the closing ones;
* `le_longestRun` : the longest run of a character, which decides about the form, is that;
* `Written` : the forms, of which `quotedChars` chooses one;
* `string?_quotedChars`, `value?_quotedChars` : the string is read back;
* `BlockForm` : the two forms of a block, of which the lines are those of the text, more or less as
  they are.
-/

namespace CallRouting.Toml

/-! ## Strings with escapes -/

/-- More characters in front of what was read. -/
def prependRead (z : List Char) : Option (List Char × List Char) → Option (List Char × List Char) :=
  Option.map fun (s, r) => (z ++ s, r)

@[simp] theorem prependRead_nil (o : Option (List Char × List Char)) : prependRead [] o = o := by
  cases o <;> rfl

@[simp] theorem prependRead_cons (c : Char) (z : List Char) (o : Option (List Char × List Char)) :
    prependRead (c :: z) o = consRead c (prependRead z o) := by
  cases o <;> rfl

@[simp] theorem prependRead_append (y z : List Char) (o : Option (List Char × List Char)) :
    prependRead (y ++ z) o = prependRead y (prependRead z o) := by
  cases o <;> simp [prependRead]

/-- What is written for a character other than a double quote. -/
def escapeOf (block : Bool) (c : Char) : List Char :=
  match c with
  | '\x08' => ['\\', 'b']
  | '\t' => ['\\', 't']
  | '\x0c' => ['\\', 'f']
  | '\r' => ['\\', 'r']
  | '\\' => ['\\', '\\']
  | '\n' => if block then ['\n'] else ['\\', 'n']
  | c => if isCode c then codeEscape c else [c]

theorem escapeFrom_cons (b : Bool) (run : Nat) {c : Char} (hc : c ≠ '"') (z : List Char) :
    escapeFrom b run (c :: z) = escapeOf b c ++ escapeFrom b 0 z := by
  rw [escapeFrom.eq_def]
  exact if_neg hc

/-- On one line every quote is escaped. -/
theorem escapeFrom_false_quote (run : Nat) (z : List Char) :
    escapeFrom false run ('"' :: z) = '\\' :: '"' :: escapeFrom false 0 z := by
  have hfull : run + 1 > if false then 2 else 0 := Nat.succ_pos run
  rw [escapeFrom.eq_def]
  simp only [if_true, if_pos hfull]

/-- In a block a third quote in a row is escaped. -/
theorem escapeFrom_true_quote (run : Nat) (z : List Char) :
    escapeFrom true run ('"' :: z) =
      if run + 1 > 2 then '\\' :: '"' :: escapeFrom true 0 z
      else '"' :: escapeFrom true (run + 1) z := by
  rw [escapeFrom.eq_def]
  exact if_pos rfl

/-- The escape of a control character is four digits that read back as it. -/
def EscapeReads (c : Char) : Prop :=
  match codeEscape c with
  | ['\\', 'u', x, y, z, w] => charOf? [x, y, z, w] = some c ∧ '\n' ∉ ['u', x, y, z, w]
  | _ => False

instance (c : Char) : Decidable (EscapeReads c) := by
  unfold EscapeReads
  split <;> infer_instance

theorem toNat_lt_of_isCode {c : Char} (h : isCode c = true) : c.toNat < 128 := by
  simp only [isCode, Bool.or_eq_true, Bool.and_eq_true, decide_eq_true_eq] at h
  rcases h with h | rfl
  · omega
  · decide

theorem escapeReads_of_lt :
    ∀ n < 128, isCode (Char.ofNat n) = true → EscapeReads (Char.ofNat n) := by
  decide +kernel

theorem exists_codeEscape {c : Char} (h : isCode c = true) :
    ∃ x y z w, codeEscape c = ['\\', 'u', x, y, z, w] ∧ charOf? [x, y, z, w] = some c ∧
      '\n' ∉ ['u', x, y, z, w] := by
  have hread := escapeReads_of_lt c.toNat (toNat_lt_of_isCode h)
  rw [Char.ofNat_toNat] at hread
  have hread := hread h
  unfold EscapeReads at hread
  split at hread
  · next x y z w hescape => exact ⟨x, y, z, w, hescape, hread⟩
  · exact hread.elim

/-- A character stands for itself, or a backslash and more on the same line stand for it. -/
theorem escapeOf_cases (block : Bool) (c : Char) :
    escapeOf block c = [c] ∧ isCode c = false ∨
      ∃ r, escapeOf block c = '\\' :: r ∧ '\n' ∉ r := by
  unfold escapeOf
  split
  · exact Or.inr ⟨_, rfl, by decide⟩
  · exact Or.inr ⟨_, rfl, by decide⟩
  · exact Or.inr ⟨_, rfl, by decide⟩
  · exact Or.inr ⟨_, rfl, by decide⟩
  · exact Or.inr ⟨_, rfl, by decide⟩
  · cases block
    · exact Or.inr ⟨_, rfl, by decide⟩
    · exact Or.inl ⟨rfl, rfl⟩
  · split
    · next hcode =>
      obtain ⟨_, _, _, _, h, -, hline⟩ := exists_codeEscape hcode
      exact Or.inr ⟨_, h, hline⟩
    · next hcode => exact Or.inl ⟨rfl, by simpa using hcode⟩

theorem isPrinting_of_isCode {c : Char} (hcode : isCode c = false) (hline : c ≠ '\n') :
    isPrinting c = true := by
  simp only [isCode, isPrinting, Bool.or_eq_false_iff, Bool.and_eq_false_iff,
    decide_eq_false_iff_not, Bool.or_eq_true, Bool.and_eq_true, decide_eq_true_eq] at hcode ⊢
  have hdel : c.toNat ≠ 0x7F := fun h => hcode.2 (Char.ext (UInt32.toNat_inj.1 h))
  by_cases htab : c = '\t'
  · exact Or.inl htab
  · refine Or.inr ⟨?_, hdel⟩
    rcases hcode.1 with (h | h) | h
    · omega
    · exact absurd htab h
    · exact absurd hline h

theorem basicRest_cons {c : Char} (hq : c ≠ '"') (hb : c ≠ '\\') (hp : isPrinting c = true)
    (s : List Char) : basicRest (c :: s) = consRead c (basicRest s) := by
  rw [basicRest.eq_def]
  split <;> simp_all

theorem blockRest_cons {c : Char} {s : List Char} (hq : c = '"' → ∀ r, s ≠ '"' :: '"' :: r)
    (hb : c ≠ '\\') (hp : isPrinting c = true) :
    blockRest false (c :: s) = consRead c (blockRest false s) := by
  have hreturn : c ≠ '\r' := by
    rintro rfl
    exact absurd hp (by decide)
  have hline : c ≠ '\n' := by
    rintro rfl
    exact absurd hp (by decide)
  rw [blockRest.eq_def]
  split <;> rename_i heq <;> cases heq <;> simp_all

/-- A character, however it is written, is read as itself on one line. -/
theorem basicRest_escapeOf {c : Char} (hc : c ≠ '"') (s : List Char) :
    basicRest (escapeOf false c ++ s) = consRead c (basicRest s) := by
  unfold escapeOf
  split
  · rfl
  · rfl
  · rfl
  · rfl
  · rfl
  · rfl
  · next hbs hline =>
    split
    · next hcode =>
      obtain ⟨_, _, _, _, h, hread, -⟩ := exists_codeEscape hcode
      simp [h, basicRest, hread]
    · next hcode =>
      exact basicRest_cons hc hbs (isPrinting_of_isCode (by simpa using hcode) hline) s

/-- It is read as itself over several lines too. -/
theorem blockRest_escapeOf {c : Char} (hc : c ≠ '"') (s : List Char) :
    blockRest false (escapeOf true c ++ s) = consRead c (blockRest false s) := by
  unfold escapeOf
  split
  · rfl
  · rfl
  · rfl
  · rfl
  · rfl
  · rfl
  · next hbs hline =>
    split
    · next hcode =>
      obtain ⟨_, _, _, _, h, hread, -⟩ := exists_codeEscape hcode
      simp [h, blockRest, hread]
    · next hcode =>
      exact blockRest_cons (fun h => absurd h hc) hbs
        (isPrinting_of_isCode (by simpa using hcode) hline)

/-- A string on one line is read back. -/
theorem basicRest_escapeFrom (run : Nat) (z t : List Char) :
    basicRest (escapeFrom false run z ++ '"' :: t) = some (z, t) := by
  induction z generalizing run with
  | nil => rfl
  | cons c z ih =>
    by_cases hc : c = '"'
    · subst hc
      rw [escapeFrom_false_quote]
      exact congrArg (consRead '"') (ih 0)
    · rw [escapeFrom_cons false run hc, List.append_assoc, basicRest_escapeOf hc, ih]
      rfl

/-- Up to two quotes before another character are read as themselves. -/
theorem blockRest_replicate {run : Nat} (hrun : run ≤ 2) {c : Char} (hc : c ≠ '"') (s : List Char) :
    blockRest false (List.replicate run '"' ++ c :: s) =
      prependRead (List.replicate run '"') (blockRest false (c :: s)) := by
  have hquote : ∀ s, (∀ r, s ≠ '"' :: '"' :: r) →
      blockRest false ('"' :: s) = consRead '"' (blockRest false s) :=
    fun s h => blockRest_cons (fun _ => h) (by decide) (by decide)
  have hone := hquote (c :: s) (by simp [hc])
  match run, hrun with
  | 0, _ => simp
  | 1, _ => simpa using hone
  | 2, _ => simpa [hone] using hquote ('"' :: c :: s) (by simp [hc])

/-- What is written over several lines is read back, if the text after it reads as `o` behind up to
two quotes more. -/
theorem blockRest_escapeFrom {t : List Char} {o : Option (List Char × List Char)}
    (ht : ∀ k ≤ 2, blockRest false (List.replicate k '"' ++ t) =
      prependRead (List.replicate k '"') o) (z : List Char) {run : Nat} (hrun : run ≤ 2) :
    blockRest false (List.replicate run '"' ++ (escapeFrom true run z ++ t)) =
      prependRead (List.replicate run '"' ++ z) o := by
  induction z generalizing run with
  | nil => simpa [escapeFrom] using ht run hrun
  | cons c z ih =>
    have hnext := ih (Nat.zero_le 2)
    rw [List.replicate_zero, List.nil_append, List.nil_append] at hnext
    by_cases hc : c = '"'
    · subst hc
      by_cases hfull : run + 1 > 2
      · rw [escapeFrom_true_quote, if_pos hfull, List.cons_append,
          blockRest_replicate hrun (by decide), prependRead_append, prependRead_cons, ← hnext]
        rfl
      · -- The quote joins those that stand here already.
        have hjoin : ∀ r, List.replicate run '"' ++ '"' :: r = List.replicate (run + 1) '"' ++ r :=
          fun r => by simp [List.replicate_succ']
        rw [escapeFrom_true_quote, if_neg hfull, List.cons_append, hjoin, ih (by omega), hjoin]
    · rw [escapeFrom_cons true run hc, List.append_assoc]
      have hhead : ∃ d r, escapeOf true c = d :: r ∧ d ≠ '"' := by
        rcases escapeOf_cases true c with ⟨h, -⟩ | ⟨r, h, -⟩
        · exact ⟨c, [], h, hc⟩
        · exact ⟨_, r, h, by decide⟩
      obtain ⟨d, r, h, hd⟩ := hhead
      have hread := blockRest_escapeOf hc (escapeFrom true 0 z ++ t)
      rw [h, List.cons_append] at hread ⊢
      rw [blockRest_replicate hrun hd, hread, hnext, prependRead_append, prependRead_cons]

theorem closing_newline {q : Char} (hq : q ≠ '\n') (t : List Char) :
    closing q ('\n' :: t) = ([], '\n' :: t) := by
  cases t <;> simp [closing, hq.symm]

/-- Up to two quotes more before closing ones belong to the string. -/
theorem blockRest_close {k : Nat} (hk : k ≤ 2) (t : List Char) :
    blockRest false (List.replicate k '"' ++ '"' :: '"' :: '"' :: '\n' :: t) =
      prependRead (List.replicate k '"') (some ([], '\n' :: t)) := by
  match k, hk with
  | 0, _ => exact congrArg some (closing_newline (by decide) t)
  | 1, _ => rfl
  | 2, _ => rfl

/-- A string over several lines is read back. -/
theorem blockRest_escapeFrom_close (z t : List Char) :
    blockRest false (escapeFrom true 0 z ++ '"' :: '"' :: '"' :: '\n' :: t) =
      some (z, '\n' :: t) := by
  have hread := blockRest_escapeFrom (fun k hk => blockRest_close hk t) z (Nat.zero_le 2)
  rw [List.replicate_zero, List.nil_append, List.nil_append] at hread
  rw [hread]
  simp [prependRead]

/-! ## Strings without escapes -/

/-- What a character adds to the longest run so far and to the one that it may continue. -/
def runStep (q : Char) : Nat × Nat → Char → Nat × Nat := fun (best, run) c =>
  if c = q then (max best (run + 1), run + 1) else (best, 0)

theorem longestRun_eq (q : Char) (s : List Char) :
    longestRun q s = (s.foldl (runStep q) (0, 0)).1 := rfl

theorem le_foldl_runStep (q : Char) (s : List Char) (p : Nat × Nat) :
    p.1 ≤ (s.foldl (runStep q) p).1 := by
  induction s generalizing p with
  | nil => exact Nat.le_refl _
  | cons c s ih =>
    obtain ⟨best, run⟩ := p
    have hstep : best ≤ (runStep q (best, run) c).1 := by
      simp only [runStep]
      split
      · exact Nat.le_max_left _ _
      · exact Nat.le_refl _
    exact Nat.le_trans hstep (ih _)

theorem foldl_runStep_replicate (q : Char) (k : Nat) (p : Nat × Nat) :
    ((List.replicate k q).foldl (runStep q) p).2 = p.2 + k ∧
      (0 < k → p.2 + k ≤ ((List.replicate k q).foldl (runStep q) p).1) := by
  induction k generalizing p with
  | zero => exact ⟨rfl, fun h => absurd h (Nat.lt_irrefl 0)⟩
  | succ k ih =>
    obtain ⟨best, run⟩ := p
    have hstep : runStep q (best, run) q = (max best (run + 1), run + 1) := if_pos rfl
    rw [List.replicate_succ, List.foldl_cons, hstep]
    obtain ⟨h2, h1⟩ := ih (max best (run + 1), run + 1)
    refine ⟨by rw [h2]; simp only; omega, fun _ => ?_⟩
    by_cases hk : 0 < k
    · exact Nat.le_trans (by simp only; omega) (h1 hk)
    · refine Nat.le_trans ?_ (le_foldl_runStep q _ _)
      simp only
      omega

/-- No run is longer than the longest one. -/
theorem le_longestRun {q : Char} {k : Nat} {s : List Char} (h : List.replicate k q <:+: s) :
    k ≤ longestRun q s := by
  obtain ⟨a, b, rfl⟩ := h
  by_cases hk : 0 < k
  · rw [longestRun_eq, List.foldl_append, List.foldl_append]
    refine Nat.le_trans ?_ (le_foldl_runStep q b _)
    exact Nat.le_trans (Nat.le_add_left _ _) ((foldl_runStep_replicate q k _).2 hk)
  · omega

theorem literalRest_append {z : List Char} (hcode : ∀ c ∈ z, isCode c = false)
    (hline : '\n' ∉ z) (hquote : '\'' ∉ z) (t : List Char) :
    literalRest (z ++ '\'' :: t) = some (z, t) := by
  induction z with
  | nil => rfl
  | cons c z ih =>
    rw [List.mem_cons, not_or] at hline hquote
    have hp := isPrinting_of_isCode (hcode c List.mem_cons_self) (fun h => hline.1 h.symm)
    have hread := ih (fun d hd => hcode d (List.mem_cons_of_mem c hd)) hline.2 hquote.2
    have hstep : literalRest (c :: (z ++ '\'' :: t)) =
        consRead c (literalRest (z ++ '\'' :: t)) := by
      rw [literalRest.eq_def]
      split <;> rename_i heq <;> cases heq <;> simp_all
    rw [List.cons_append, hstep, hread]
    rfl

theorem literalBlockRest_cons {c : Char} {s : List Char}
    (hq : c = '\'' → ∀ r, s ≠ '\'' :: '\'' :: r) (hcode : isCode c = false) :
    literalBlockRest (c :: s) = consRead c (literalBlockRest s) := by
  by_cases hline : c = '\n'
  · subst hline
    rfl
  · have hp := isPrinting_of_isCode hcode hline
    have hreturn : c ≠ '\r' := by
      rintro rfl
      exact absurd hp (by decide)
    rw [literalBlockRest.eq_def]
    split <;> rename_i heq <;> cases heq <;> simp_all

/-- Text with no three apostrophes in a row is read back, those at its end included. -/
theorem literalBlockRest_append {z : List Char} (hcode : ∀ c ∈ z, isCode c = false)
    (hquote : ¬ List.replicate 3 '\'' <:+: z) (t : List Char) :
    literalBlockRest (z ++ '\'' :: '\'' :: '\'' :: '\n' :: t) = some (z, '\n' :: t) := by
  induction z with
  | nil => exact congrArg some (closing_newline (by decide) t)
  | cons c z ih =>
    have hread := ih (fun d hd => hcode d (List.mem_cons_of_mem c hd))
      (fun h => hquote (h.trans (List.suffix_cons c z).isInfix))
    -- A run at the end of the text goes on in the closing quotes.
    by_cases hend : c :: z = ['\''] ∨ c :: z = ['\'', '\'']
    · rcases hend with h | h <;> rw [h] <;> rfl
    · have hstep : c = '\'' → ∀ r, z ++ '\'' :: '\'' :: '\'' :: '\n' :: t ≠ '\'' :: '\'' :: r := by
        rintro rfl r h
        match z with
        | [] => exact hend (Or.inl rfl)
        | [d] =>
          rw [(List.cons.inj h).1] at hend
          exact hend (Or.inr rfl)
        | d :: d' :: z =>
          rw [(List.cons.inj h).1, (List.cons.inj (List.cons.inj h).2).1] at hquote
          exact hquote (List.prefix_append _ z).isInfix
      rw [List.cons_append, literalBlockRest_cons hstep (hcode c List.mem_cons_self), hread]
      rfl

/-! ## Quoted strings -/

/-- The forms in which a string is written. One with a line break stands in a block. -/
inductive Written (s : List Char) : List Char → Prop
  | basic (hline : '\n' ∉ s) : Written s ('"' :: escapeFrom false 0 s ++ ['"'])
  | literal (hcode : ∀ c ∈ s, isCode c = false) (hline : '\n' ∉ s) (hquote : '\'' ∉ s) :
    Written s ('\'' :: s ++ ['\''])
  | basicBlock : Written s (block '"' (s.contains '\n') (escapeFrom true 0 s))
  | literalBlock (hcode : ∀ c ∈ s, isCode c = false) (hquote : ¬ List.replicate 3 '\'' <:+: s) :
    Written s (block '\'' (s.contains '\n') s)

theorem written_quotedChars (s : List Char) : Written s (quotedChars s) := by
  have hcode : (!(Shape.ofText s).code) = true → ∀ c ∈ s, isCode c = false := by
    simp [Shape.ofText]
  have hline : (!(Shape.ofText s).lines) = true → '\n' ∉ s := by simp [Shape.ofText]
  have hquote : ∀ {k}, (Shape.ofText s).apostrophes < k → ¬ List.replicate k '\'' <:+: s :=
    fun hk h => Nat.not_le_of_lt hk (le_longestRun h)
  simp only [quotedChars]
  split
  · next h =>
    simp only [Bool.and_eq_true] at h
    exact .basic (hline h.1.2)
  · split
    · next h =>
      simp only [Bool.and_eq_true, decide_eq_true_eq] at h
      refine .literal (hcode h.1.1) (hline h.1.2) fun hq => ?_
      obtain ⟨a, b, hs⟩ := List.append_of_mem hq
      exact hquote (k := 1) (by omega) ⟨a, b, by simp [hs]⟩
    · split
      · exact .basicBlock
      · split
        · next h =>
          simp only [Bool.and_eq_true, decide_eq_true_eq] at h
          exact .literalBlock (hcode h.1) (hquote (by omega))
        · split
          · next h =>
            have hform := Written.basicBlock (s := s)
            rwa [show s.contains '\n' = true from h] at hform
          · next h => exact .basic (hline (by simpa using h))

/-- An escaped text begins with a backslash, or as the text does. -/
theorem escapeFrom_eq_cons {b : Bool} {run : Nat} {z : List Char} {c : Char}
    {r : List Char}
    (h : escapeFrom b run z = c :: r) :
    c = '\\' ∨ z.head? = some c ∧ isCode c = false ∧ (b = false → c ≠ '"') := by
  cases z with
  | nil => cases h
  | cons d z =>
    by_cases hd : d = '"'
    · subst hd
      cases b with
      | false =>
        rw [escapeFrom_false_quote] at h
        exact Or.inl (List.cons.inj h).1.symm
      | true =>
        rw [escapeFrom_true_quote] at h
        split at h
        · exact Or.inl (List.cons.inj h).1.symm
        · have hc : '"' = c := (List.cons.inj h).1
          exact Or.inr ⟨congrArg some hc, hc ▸ rfl, nofun⟩
    · rw [escapeFrom_cons b run hd] at h
      rcases escapeOf_cases b d with ⟨hself, hcode⟩ | ⟨r', hescape, -⟩
      · rw [hself] at h
        obtain ⟨rfl, -⟩ := List.cons.inj h
        exact Or.inr ⟨rfl, hcode, fun _ => hd⟩
      · rw [hescape] at h
        exact Or.inl (List.cons.inj h).1.symm

/-- A block begins with a line break exactly if one was put there. -/
theorem skipNewline_block {q : Char} (hq : q ≠ '\n' ∧ q ≠ '\r') {s z : List Char}
    (hz : ∀ c r, z = c :: r → c = '\\' ∨ s.head? = some c ∧ isCode c = false) (t : List Char) :
    skipNewline ((if s.contains '\n' then ['\n'] else []) ++ (z ++ q :: t)) = z ++ q :: t := by
  by_cases hline : s.contains '\n' = true
  · rw [if_pos hline]
    rfl
  · rw [if_neg hline, List.nil_append]
    have hhead : ∀ c r, z ++ q :: t = c :: r → c ≠ '\n' ∧ c ≠ '\r' := by
      intro c r h
      cases z with
      | nil => exact (List.cons.inj h).1 ▸ hq
      | cons d z =>
        obtain ⟨rfl, -⟩ := List.cons.inj h
        rcases hz d z rfl with rfl | ⟨hd, hcode⟩
        · decide
        · refine ⟨?_, ?_⟩
          · rintro rfl
            exact hline (by simpa using List.mem_of_head? hd)
          · rintro rfl
            exact absurd hcode (by decide)
    unfold skipNewline newline?
    split
    · next r h => exact absurd rfl (hhead '\n' r h).1
    · next r h => exact absurd rfl (hhead '\r' ('\n' :: r) h).2
    · rfl

/-- Text on one line begins with no further quotes, unless it is empty. -/
theorem string?_basic {x : List Char} (h : ∀ r, x ≠ '"' :: '"' :: r) :
    string? ('"' :: x) = (basicRest x).map fun (s, r) => (String.ofList s, r) := by
  unfold string?
  split <;> simp_all

theorem string?_literal {x : List Char} (h : ∀ r, x ≠ '\'' :: '\'' :: r) :
    string? ('\'' :: x) = (literalRest x).map fun (s, r) => (String.ofList s, r) := by
  unfold string?
  split <;> simp_all

/-- **A string is read back.** -/
theorem string?_quotedChars (s t : List Char) :
    string? (quotedChars s ++ '\n' :: t) = some (String.ofList s, '\n' :: t) := by
  have hform := written_quotedChars s
  generalize quotedChars s = w at hform
  cases hform with
  | basic hline =>
    have hempty : ∀ r, escapeFrom false 0 s ++ '"' :: '\n' :: t ≠ '"' :: '"' :: r := by
      intro r h
      cases hz : escapeFrom false 0 s with
      | nil =>
        rw [hz] at h
        cases h
      | cons c z =>
        rw [hz] at h
        obtain ⟨rfl, -⟩ := List.cons.inj h
        rcases escapeFrom_eq_cons hz with h | h
        · cases h
        · exact h.2.2 rfl rfl
    have htext : '"' :: escapeFrom false 0 s ++ ['"'] ++ '\n' :: t =
        '"' :: (escapeFrom false 0 s ++ '"' :: '\n' :: t) := by simp
    rw [htext, string?_basic hempty, basicRest_escapeFrom]
    rfl
  | literal hcode hline hquote =>
    have hempty : ∀ r, s ++ '\'' :: '\n' :: t ≠ '\'' :: '\'' :: r := by
      intro r h
      cases s with
      | nil => cases h
      | cons c s =>
        obtain ⟨rfl, -⟩ := List.cons.inj h
        exact hquote List.mem_cons_self
    have htext : '\'' :: s ++ ['\''] ++ '\n' :: t = '\'' :: (s ++ '\'' :: '\n' :: t) := by simp
    rw [htext, string?_literal hempty, literalRest_append hcode hline hquote]
    rfl
  | basicBlock =>
    have hskip := skipNewline_block (q := '"') (by decide) (s := s) (z := escapeFrom true 0 s)
      (fun c r h => (escapeFrom_eq_cons h).imp_right fun h => ⟨h.1, h.2.1⟩)
      ('"' :: '"' :: '\n' :: t)
    have htext : block '"' (s.contains '\n') (escapeFrom true 0 s) ++ '\n' :: t =
        '"' :: '"' :: '"' :: ((if s.contains '\n' then ['\n'] else []) ++
          (escapeFrom true 0 s ++ '"' :: '"' :: '"' :: '\n' :: t)) := by simp [block]
    rw [htext, string?]
    simp only [hskip, blockRest_escapeFrom_close]
    rfl
  | literalBlock hcode hquote =>
    have hread := literalBlockRest_append hcode hquote t
    have hskip := skipNewline_block (q := '\'') (by decide) (s := s) (z := s)
      (fun c r h => Or.inr ⟨by rw [h]; rfl, hcode c (by simp [h])⟩) ('\'' :: '\'' :: '\n' :: t)
    have htext : block '\'' (s.contains '\n') s ++ '\n' :: t =
        '\'' :: '\'' :: '\'' :: ((if s.contains '\n' then ['\n'] else []) ++
          (s ++ '\'' :: '\'' :: '\'' :: '\n' :: t)) := by simp [block]
    rw [htext, string?]
    simp only [hskip, hread]
    rfl

theorem quotedChars_head (s : List Char) :
    ∃ c r, quotedChars s = c :: r ∧ (c = '"' ∨ c = '\'') := by
  have hform := written_quotedChars s
  generalize quotedChars s = w at hform
  cases hform with
  | basic _ => exact ⟨_, _, rfl, Or.inl rfl⟩
  | literal _ _ _ => exact ⟨_, _, rfl, Or.inr rfl⟩
  | basicBlock => exact ⟨_, _, rfl, Or.inl rfl⟩
  | literalBlock _ _ => exact ⟨_, _, rfl, Or.inr rfl⟩

theorem value?_of_quote {c : Char} (hc : c = '"' ∨ c = '\'') (s : List Char) :
    value? (c :: s) = scalar? (c :: s) := by
  rcases hc with rfl | rfl <;> rfl

theorem value?_of_string? {c : Char} (hc : c = '"' ∨ c = '\'') {s t : List Char} {x : String}
    (h : string? (c :: s) = some (x, t)) : value? (c :: s) = some (.string x, t) := by
  rw [value?_of_quote hc]
  rcases hc with rfl | rfl <;> simp [scalar?, h]

/-- **A string is a value that is read back.** -/
theorem value?_quotedChars (s t : List Char) :
    value? (quotedChars s ++ '\n' :: t) = some (.string (String.ofList s), '\n' :: t) := by
  have hread := string?_quotedChars s t
  obtain ⟨c, r, h, hc⟩ := quotedChars_head s
  rw [h, List.cons_append] at hread ⊢
  exact value?_of_string? hc hread

/-! ## Lines of what is written -/

/-- Characters that stand for themselves in a block. -/
def Plain (w : List Char) : Prop :=
  ∀ c ∈ w, escapeOf true c = [c] ∧ c ≠ '\\' ∧ c ≠ '"'

instance (w : List Char) : Decidable (Plain w) :=
  List.decidableBAll (fun c => escapeOf true c = [c] ∧ c ≠ '\\' ∧ c ≠ '"') w

/-- A line begins with a plain text exactly if that is so with escapes. -/
theorem prefix_escapeFrom_iff {w : List Char} (hw : Plain w) (run : Nat) (l : List Char) :
    w <+: escapeFrom true run l ↔ w <+: l := by
  induction w generalizing run l with
  | nil => simp
  | cons c w ih =>
    obtain ⟨hself, hbackslash, hquote⟩ := hw c List.mem_cons_self
    cases l with
    | nil => rfl
    | cons d l =>
      by_cases hcd : c = d
      · subst hcd
        rw [escapeFrom_cons true run hquote, hself]
        simp only [List.cons_append, List.nil_append, List.cons_prefix_cons, true_and]
        exact ih (fun c hc => hw c (List.mem_cons_of_mem _ hc)) 0 l
      · refine ⟨fun h => ?_, fun h => absurd (List.cons_prefix_cons.1 h).1 hcd⟩
        obtain ⟨r, hr⟩ := h
        rcases escapeFrom_eq_cons hr.symm with hc | ⟨hc, -⟩
        · exact absurd hc hbackslash
        · exact absurd (Option.some.inj hc).symm hcd

theorem mem_escapeFrom {b : Bool} {run : Nat} {s : List Char}
    (h : '\n' ∈ escapeFrom b run s) : '\n' ∈ s := by
  induction s generalizing run with
  | nil => cases h
  | cons c s ih =>
    by_cases hc : c = '"'
    · subst hc
      cases b with
      | false =>
        rw [escapeFrom_false_quote] at h
        exact List.mem_cons_of_mem _ (ih (by simpa using h))
      | true =>
        rw [escapeFrom_true_quote] at h
        split at h
        · exact List.mem_cons_of_mem _ (ih (by simpa using h))
        · exact List.mem_cons_of_mem _ (ih (by simpa using h))
    · rw [escapeFrom_cons b run hc, List.mem_append] at h
      rcases h with h | h
      · rcases escapeOf_cases b c with ⟨hself, -⟩ | ⟨r, hr, hline⟩
        · rw [hself, List.mem_singleton] at h
          rw [h]
          exact List.mem_cons_self
        · rw [hr, List.mem_cons] at h
          exact absurd h (by simp [hline])
      · exact List.mem_cons_of_mem _ (ih h)

theorem escapeFrom_append_newline (run : Nat) (l r : List Char) :
    escapeFrom true run (l ++ '\n' :: r) =
      escapeFrom true run l ++ '\n' :: escapeFrom true 0 r := by
  induction l generalizing run with
  | nil => rfl
  | cons c l ih =>
    by_cases hc : c = '"'
    · subst hc
      rw [List.cons_append, escapeFrom_true_quote, escapeFrom_true_quote]
      split
      · rw [ih]
        rfl
      · rw [ih]
        rfl
    · rw [List.cons_append, escapeFrom_cons true run hc, ih, escapeFrom_cons true run hc,
        List.append_assoc]

theorem not_mem_quotedChars {s : List Char} (h : '\n' ∉ s) : '\n' ∉ quotedChars s := by
  have hform := written_quotedChars s
  generalize quotedChars s = w at hform
  have hflat : s.contains '\n' = false := by simpa using h
  cases hform with
  | basic _ => simpa using fun hmem => h (mem_escapeFrom hmem)
  | literal _ _ _ => simpa using h
  | basicBlock =>
    rw [hflat]
    simpa [block] using fun hmem => h (mem_escapeFrom hmem)
  | literalBlock _ _ =>
    rw [hflat]
    simpa [block] using h

/-! ## Blocks -/

/-- The two ways to write a text with line breaks. -/
inductive BlockForm where
  | escaped
  | literal

namespace BlockForm

def quote : BlockForm → Char
  | escaped => '"'
  | literal => '\''

def write : BlockForm → List Char → List Char
  | escaped => escapeFrom true 0
  | literal => id

/-- Whether a text can be written so. -/
def Fits : BlockForm → List Char → Prop
  | escaped, _ => True
  | literal, s => (∀ c ∈ s, isCode c = false) ∧ ¬ List.replicate 3 '\'' <:+: s

def text (b : BlockForm) (s : List Char) : List Char :=
  b.quote :: b.quote :: b.quote :: '\n' :: (b.write s ++ [b.quote, b.quote, b.quote])

theorem not_mem_write (b : BlockForm) {l : List Char} (hl : '\n' ∉ l) : '\n' ∉ b.write l := by
  cases b with
  | escaped => exact fun hmem => hl (mem_escapeFrom hmem)
  | literal => exact hl

theorem prefix_write_iff (b : BlockForm) {w : List Char} (hw : Plain w) (l : List Char) :
    w <+: b.write l ↔ w <+: l := by
  cases b with
  | escaped => exact prefix_escapeFrom_iff hw 0 l
  | literal => rfl

theorem write_append_newline (b : BlockForm) (l r : List Char) :
    b.write (l ++ '\n' :: r) = b.write l ++ '\n' :: b.write r := by
  cases b with
  | escaped => exact escapeFrom_append_newline 0 l r
  | literal => rfl

/-- **A block is a value that is read back.** -/
theorem value?_text (b : BlockForm) {s : List Char} (h : b.Fits s) (t : List Char) :
    value? (b.text s ++ '\n' :: t) = some (.string (String.ofList s), '\n' :: t) := by
  have hquote : b.quote = '"' ∨ b.quote = '\'' := by cases b <;> simp [quote]
  refine value?_of_string? hquote ?_
  cases b with
  | escaped =>
    have hbody : escapeFrom true 0 s ++ ['"', '"', '"'] ++ '\n' :: t =
        escapeFrom true 0 s ++ '"' :: '"' :: '"' :: '\n' :: t := by simp
    show ((blockRest false (escapeFrom true 0 s ++ ['"', '"', '"'] ++ '\n' :: t)).map _) = _
    rw [hbody, blockRest_escapeFrom_close]
    rfl
  | literal =>
    have hread := literalBlockRest_append h.1 h.2 t
    have hbody : s ++ ['\'', '\'', '\''] ++ '\n' :: t =
        s ++ '\'' :: '\'' :: '\'' :: '\n' :: t := by simp
    show ((literalBlockRest (s ++ ['\'', '\'', '\''] ++ '\n' :: t)).map _) = _
    rw [hbody, hread]
    rfl

end BlockForm

/-- A text with line breaks is written in a block. -/
theorem exists_blockForm {s : List Char} (h : '\n' ∈ s) :
    ∃ b : BlockForm, b.Fits s ∧ quotedChars s = b.text s := by
  have hform := written_quotedChars s
  generalize quotedChars s = w at hform
  have hlines : s.contains '\n' = true := by simpa using h
  cases hform with
  | basic hline => exact absurd h hline
  | literal _ hline _ => exact absurd h hline
  | basicBlock =>
    rw [hlines]
    exact ⟨.escaped, trivial, rfl⟩
  | literalBlock hcode hquote =>
    rw [hlines]
    exact ⟨.literal, ⟨hcode, hquote⟩, rfl⟩

end CallRouting.Toml
