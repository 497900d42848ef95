import CallRouting.Proofs.TomlLines

/-!
# The end of a TOML text

What a text begins with decides how the lines after it are read, for a string or an array may go on
over line breaks. But if the lines at the end begin with a heading and have no quotes of a block in
them, then they are read as they are, or else the whole text is malformed.

* `SameLine` : what a reader leaves of a text if it stays in one line, as those of numbers, times,
  keys and most strings do;
* `AfterQuotes` : what is left after a string over several lines;
* `EndsIn`, `Sectional` : a text at the end of another, and what is asked of it;
* `EndsIn.of_valueWithin?` : no value goes on into such an end;
* `exists_append_of_linesWithin?` : so its lines are the last ones.
-/

namespace CallRouting.Toml

/-! ## Readers in one line -/

/-- What is left of a text after some characters of the line that it begins with. -/
def SameLine (s r : List Char) : Prop := ∃ w, s = w ++ r ∧ '\n' ∉ w

namespace SameLine

variable {s r t : List Char}

theorem refl (s : List Char) : SameLine s s := ⟨[], rfl, List.not_mem_nil⟩

theorem trans (h : SameLine s r) (h' : SameLine r t) : SameLine s t := by
  obtain ⟨w, rfl, hw⟩ := h
  obtain ⟨w', rfl, hw'⟩ := h'
  exact ⟨w ++ w', (List.append_assoc ..).symm, fun hmem =>
    (List.mem_append.1 hmem).elim hw hw'⟩

theorem append {w : List Char} (hw : '\n' ∉ w) (h : SameLine s r) : SameLine (w ++ s) r :=
  trans ⟨w, rfl, hw⟩ h

theorem cons {c : Char} (hc : c ≠ '\n') (h : SameLine s r) : SameLine (c :: s) r :=
  h.append (w := [c]) (by simpa using hc.symm)

theorem dropWhile {p : Char → Bool} (hp : p '\n' = false) (s : List Char) :
    SameLine s (s.dropWhile p) := by
  induction s with
  | nil => exact refl []
  | cons c s ih =>
    rw [List.dropWhile_cons]
    split
    · next hc =>
      refine ih.cons ?_
      rintro rfl
      rw [hp] at hc
      cases hc
    · exact refl _

end SameLine

variable {s r : List Char}

theorem sameLine_skipSpaces (s : List Char) : SameLine s (skipSpaces s) := .dropWhile rfl s

theorem sameLine_expect? {c : Char} (hc : c ≠ '\n') (h : expect? c s = some r) : SameLine s r := by
  cases s with
  | nil => cases h
  | cons d s =>
    simp only [expect?] at h
    split at h
    · next hd =>
      cases h
      exact (SameLine.refl _).cons (hd ▸ hc)
    · cases h

/-! ## Numbers -/

theorem sameLine_moreDigits {p : Char → Bool} (hp : p '\n' = false) (s : List Char) :
    SameLine s (moreDigits p s).2 := by
  have hdigit : ∀ c, p c = true → c ≠ '\n' := by
    rintro c hc rfl
    rw [hp] at hc
    cases hc
  fun_induction moreDigits p s with
  | case1 => exact .refl _
  | case2 c r hc ds r' h ih => exact (h ▸ ih : SameLine r (ds, r').2).cons (hdigit c hc)
  | case3 d r hc ds r' h _ ih =>
    exact ((h ▸ ih : SameLine r (ds, r').2).cons (hdigit d hc)).cons (by decide)
  | case4 => exact .refl _
  | case5 => exact .refl _

theorem sameLine_digits? {p : Char → Bool} (hp : p '\n' = false) {ds : List Char}
    (h : digits? p s = some (ds, r)) : SameLine s r := by
  cases s with
  | nil => cases h
  | cons c s =>
    simp only [digits?] at h
    split at h
    · next hc =>
      obtain ⟨-, rfl⟩ := Prod.mk.inj (Option.some.inj h)
      refine (sameLine_moreDigits hp s).cons ?_
      rintro rfl
      rw [hp] at hc
      cases hc
    · cases h

theorem sameLine_whole? {ds : List Char} (h : whole? s = some (ds, r)) : SameLine s r := by
  unfold whole? at h
  split at h
  · cases h
    exact (SameLine.refl _).cons (by decide)
  · exact sameLine_digits? rfl h

theorem sameLine_sign (s : List Char) : SameLine s (sign s).2 := by
  unfold sign
  split
  · exact (SameLine.refl _).cons (by decide)
  · exact (SameLine.refl _).cons (by decide)
  · exact .refl _

theorem digit?_newline (base : Nat) : Text.digit? base '\n' = none := rfl

/-- Digits have no line break among them. -/
theorem not_mem_of_natInBase? {base n : Nat} {ds : List Char}
    (h : Text.natInBase? base ds = some n) : '\n' ∉ ds := by
  unfold Text.natInBase? at h
  split at h
  · cases h
  · next hne =>
    clear hne
    generalize 0 = m at h
    induction ds generalizing m with
    | nil => exact List.not_mem_nil
    | cons c ds ih =>
      rw [List.foldlM_cons, Option.bind_eq_bind, Option.bind_eq_some_iff] at h
      obtain ⟨m', hc, h⟩ := h
      rw [List.mem_cons, not_or]
      refine ⟨?_, ih m' h⟩
      rintro rfl
      rw [digit?_newline] at hc
      cases hc

theorem sameLine_based? {base : Nat} {n : Int} (h : based? base s = some (n, r)) :
    SameLine s r := by
  simp only [based?, Option.bind_eq_bind, Option.bind_eq_some_iff] at h
  obtain ⟨⟨ds, r'⟩, hd, m, -, h⟩ := h
  split at h
  · cases h
    exact sameLine_digits? (by rw [digit?_newline]; rfl) hd
  · cases h

theorem sameLine_integer? {n : Int} (h : integer? s = some (n, r)) : SameLine s r := by
  unfold integer? at h
  split at h
  · exact ((sameLine_based? h).cons (by decide)).cons (by decide)
  · exact ((sameLine_based? h).cons (by decide)).cons (by decide)
  · exact ((sameLine_based? h).cons (by decide)).cons (by decide)
  · simp only [Option.bind_eq_bind, Option.bind_eq_some_iff] at h
    obtain ⟨⟨ds, r'⟩, hd, m, -, h⟩ := h
    rw [Option.ite_none_right_eq_some] at h
    cases h.2
    exact (sameLine_sign s).trans (sameLine_whole? hd)

theorem sameLine_exponent? {ds : List Char} (h : exponent? s = some (ds, r)) : SameLine s r := by
  cases s with
  | nil => cases h
  | cons m s =>
    simp only [exponent?, Option.bind_eq_bind] at h
    split at h
    · next hm =>
      obtain ⟨⟨ds', r'⟩, hd, h⟩ := Option.bind_eq_some_iff.1 h
      cases h
      refine ((sameLine_sign s).trans (sameLine_digits? rfl hd)).cons ?_
      rintro rfl
      exact absurd hm (by decide)
    · cases h

theorem sameLine_getD {α : Type} {o : Option (α × List Char)} {x : α}
    (h : ∀ a r, o = some (a, r) → SameLine s r) : SameLine s (o.getD (x, s)).2 := by
  cases o with
  | none => exact .refl s
  | some p => exact h p.1 p.2 rfl

theorem sameLine_decimal? {ds : List Char} (h : decimal? s = some (ds, r)) : SameLine s r := by
  simp only [decimal?, Option.bind_eq_bind, Option.bind_eq_some_iff] at h
  obtain ⟨⟨ds', r'⟩, hd, h⟩ := h
  refine (sameLine_whole? hd).trans ?_
  split at h
  · next r₀ hpoint =>
    obtain ⟨⟨f, r₁⟩, hf, h⟩ := Option.bind_eq_some_iff.1 h
    cases h
    rw [show r' = '.' :: r₀ from hpoint]
    refine ((sameLine_digits? rfl hf).trans ?_).cons (by decide)
    exact sameLine_getD fun ds r h => sameLine_exponent? h
  · obtain ⟨⟨e, r₁⟩, he, h⟩ := Option.bind_eq_some_iff.1 h
    cases h
    exact sameLine_exponent? he

theorem sameLine_float? (h : float? s = some r) : SameLine s r := by
  refine (sameLine_sign s).trans ?_
  simp only [float?] at h
  split at h
  · next hs =>
    cases h
    rw [hs]
    exact .append (w := ['i', 'n', 'f']) (by decide) (.refl _)
  · next hs =>
    cases h
    rw [hs]
    exact .append (w := ['n', 'a', 'n']) (by decide) (.refl _)
  · simp only [Option.bind_eq_bind, Option.bind_eq_some_iff] at h
    obtain ⟨⟨ds, r'⟩, hd, d, -, h⟩ := h
    rw [Option.ite_none_right_eq_some] at h
    cases h.2
    exact sameLine_decimal? hd

/-! ## Times -/

theorem sameLine_two? {low high n : Nat} (h : two? low high s = some (n, r)) : SameLine s r := by
  unfold two? at h
  split at h
  · simp only [Option.bind_eq_bind, Option.bind_eq_some_iff] at h
    obtain ⟨m, hm, h⟩ := h
    split at h
    · cases h
      exact (SameLine.refl r).append (w := [_, _]) (not_mem_of_natInBase? hm)
    · cases h
  · cases h

theorem sameLine_date? {d : String} (h : date? s = some (d, r)) : SameLine s r := by
  unfold date? at h
  split at h
  · simp only [Option.bind_eq_bind, Option.bind_eq_some_iff] at h
    obtain ⟨year, hy, r₁, h₁, ⟨month, r₂⟩, h₂, r₃, h₃, ⟨day, r₄⟩, h₄, h⟩ := h
    cases h
    exact .append (w := [_, _, _, _]) (not_mem_of_natInBase? hy)
      ((sameLine_expect? (by decide) h₁).trans <| (sameLine_two? h₂).trans <|
        (sameLine_expect? (by decide) h₃).trans (sameLine_two? h₄))
  · cases h

theorem sameLine_fraction (s : List Char) : SameLine s (fraction s).2 := by
  unfold fraction
  split
  · dsimp only
    split
    · exact .refl _
    · exact (SameLine.dropWhile rfl _).cons (by decide)
  · exact .refl _

theorem sameLine_clock? {d : String} (h : clock? s = some (d, r)) : SameLine s r := by
  simp only [clock?, Option.bind_eq_bind, Option.bind_eq_some_iff] at h
  obtain ⟨⟨hour, r₁⟩, h₁, r₂, h₂, ⟨minute, r₃⟩, h₃, r₄, h₄, ⟨second, r₅⟩, h₅, h⟩ := h
  cases h
  exact (sameLine_two? h₁).trans <| (sameLine_expect? (by decide) h₂).trans <|
    (sameLine_two? h₃).trans <| (sameLine_expect? (by decide) h₄).trans <|
    (sameLine_two? h₅).trans (sameLine_fraction r₅)

theorem sameLine_offset? {d : String} (h : offset? s = some (d, r)) : SameLine s r := by
  unfold offset? at h
  split at h
  · cases h
    exact (SameLine.refl _).cons (by decide)
  · cases h
    exact (SameLine.refl _).cons (by decide)
  · split at h
    · next hc =>
      simp only [Option.bind_eq_bind, Option.bind_eq_some_iff] at h
      obtain ⟨⟨hour, r₁⟩, h₁, r₂, h₂, ⟨minute, r₃⟩, h₃, h⟩ := h
      cases h
      refine ((sameLine_two? h₁).trans <| (sameLine_expect? (by decide) h₂).trans
        (sameLine_two? h₃)).cons ?_
      rintro rfl
      exact absurd hc (by decide)
    · cases h
  · cases h

theorem sameLine_timeOfDay? {d : String} (h : timeOfDay? s = some (d, r)) : SameLine s r := by
  unfold timeOfDay? at h
  split at h
  · split at h
    · next hc =>
      simp only [Option.bind_eq_bind, Option.bind_eq_some_iff] at h
      obtain ⟨⟨time, r₁⟩, h₁, h⟩ := h
      cases h
      refine ((sameLine_clock? h₁).trans (sameLine_getD fun _ _ h => sameLine_offset? h)).cons ?_
      rintro rfl
      exact absurd hc (by decide)
    · cases h
  · cases h

theorem sameLine_time? {d : String} (h : time? s = some (d, r)) : SameLine s r := by
  unfold time? at h
  split at h
  · next hd =>
    cases h
    exact (sameLine_date? hd).trans (sameLine_getD fun _ _ h => sameLine_timeOfDay? h)
  · exact sameLine_clock? h

/-! ## Strings and keys -/

theorem consRead_eq_some {c : Char} {o : Option (List Char × List Char)} {x : List Char}
    (h : consRead c o = some (x, r)) : ∃ x', o = some (x', r) := by
  obtain ⟨⟨x', r'⟩, ho, h⟩ := Option.map_eq_some_iff.1 h
  cases h
  exact ⟨x', ho⟩

theorem ne_of_isPrinting {c : Char} (h : isPrinting c = true) : c ≠ '\n' := by
  rintro rfl
  exact absurd h (by decide)

theorem not_mem_of_charOf? {c : Char} {ds : List Char} (h : charOf? ds = some c) : '\n' ∉ ds := by
  obtain ⟨n, hn, -⟩ := Option.bind_eq_some_iff.1 h
  exact not_mem_of_natInBase? hn

theorem ne_of_shortEscape? {c e : Char} (h : shortEscape? e = some c) : e ≠ '\n' := by
  rintro rfl
  cases h

theorem sameLine_basicRest {x : List Char} (h : basicRest s = some (x, r)) : SameLine s r := by
  fun_induction basicRest s generalizing x with
  | case1 => cases h
  | case2 =>
    cases h
    exact (SameLine.refl r).cons (by decide)
  | case3 a b c d s ih =>
    obtain ⟨e, he, h⟩ := Option.bind_eq_some_iff.1 h
    obtain ⟨x', h⟩ := consRead_eq_some h
    exact .append (w := ['\\', 'u', a, b, c, d]) (by simpa using not_mem_of_charOf? he) (ih h)
  | case4 a b c d e f g k s ih =>
    obtain ⟨x₀, he, h⟩ := Option.bind_eq_some_iff.1 h
    obtain ⟨x', h⟩ := consRead_eq_some h
    exact .append (w := ['\\', 'U', a, b, c, d, e, f, g, k])
      (by simpa using not_mem_of_charOf? he) (ih h)
  | case5 e s _ _ ih =>
    obtain ⟨c, he, h⟩ := Option.bind_eq_some_iff.1 h
    obtain ⟨x', h⟩ := consRead_eq_some h
    exact ((ih h).cons (ne_of_shortEscape? he)).cons (by decide)
  | case6 c s _ _ _ _ hp ih =>
    obtain ⟨x', h⟩ := consRead_eq_some h
    exact (ih h).cons (ne_of_isPrinting hp)
  | case7 => cases h

theorem sameLine_literalRest {x : List Char} (h : literalRest s = some (x, r)) : SameLine s r := by
  fun_induction literalRest s generalizing x with
  | case1 => cases h
  | case2 =>
    cases h
    exact (SameLine.refl r).cons (by decide)
  | case3 c s _ hp ih =>
    obtain ⟨x', h⟩ := consRead_eq_some h
    exact (ih h).cons (ne_of_isPrinting hp)
  | case4 => cases h

theorem sameLine_name? {n : String} (h : name? s = some (n, r)) : SameLine s r := by
  unfold name? at h
  split at h
  · obtain ⟨⟨x, r'⟩, hx, h⟩ := Option.map_eq_some_iff.1 h
    cases h
    exact (sameLine_basicRest hx).cons (by decide)
  · obtain ⟨⟨x, r'⟩, hx, h⟩ := Option.map_eq_some_iff.1 h
    cases h
    exact (sameLine_literalRest hx).cons (by decide)
  · simp only [Option.ite_none_left_eq_some] at h
    cases h.2
    exact .dropWhile rfl s

theorem sameLine_names? {fuel : Nat} {ns : List String} (h : names? fuel s = some (ns, r)) :
    SameLine s r := by
  induction fuel generalizing s ns with
  | zero => cases h
  | succ fuel ih =>
    simp only [names?, Option.bind_eq_bind] at h
    obtain ⟨⟨n, r₁⟩, hn, h⟩ := Option.bind_eq_some_iff.1 h
    refine (sameLine_skipSpaces s).trans <| (sameLine_name? hn).trans ?_
    split at h
    · next r₂ hdot =>
      obtain ⟨⟨ns', r'⟩, hns, h⟩ := Option.map_eq_some_iff.1 h
      cases h
      have hskip := sameLine_skipSpaces r₁
      rw [show skipSpaces r₁ = '.' :: r₂ from hdot] at hskip
      exact hskip.trans ((ih hns).cons (by decide))
    · cases h
      exact sameLine_skipSpaces r₁

theorem sameLine_keyPath? {ns : List String} (h : keyPath? s = some (ns, r)) : SameLine s r :=
  sameLine_names? h

/-! ## Strings over several lines -/

/-- What is left of a text after three quotes somewhere in it. -/
def AfterQuotes (q : Char) (s r : List Char) : Prop := ∃ w, s = w ++ (List.replicate 3 q ++ r)

theorem AfterQuotes.append {q : Char} (h : AfterQuotes q s r) (w : List Char) :
    AfterQuotes q (w ++ s) r := by
  obtain ⟨w', rfl⟩ := h
  exact ⟨w ++ w', (List.append_assoc ..).symm⟩

theorem afterQuotes_closing (q : Char) (s : List Char) :
    AfterQuotes q (q :: q :: q :: s) (closing q s).2 := by
  have hclosing : ∃ k, s = List.replicate k q ++ (closing q s).2 := by
    unfold closing
    split
    · next a b r =>
      by_cases ha : a = q <;> by_cases hb : b = q
      · exact ⟨2, by simp [ha, hb]⟩
      · exact ⟨1, by simp [ha, hb]⟩
      · exact ⟨0, by simp [ha, hb]⟩
      · exact ⟨0, by simp [ha, hb]⟩
    · next a =>
      by_cases ha : a = q
      · exact ⟨1, by simp [ha]⟩
      · exact ⟨0, by simp [ha]⟩
    · exact ⟨0, rfl⟩
  obtain ⟨k, hk⟩ := hclosing
  refine ⟨List.replicate k q, ?_⟩
  have hswap : List.replicate 3 q ++ List.replicate k q =
      List.replicate k q ++ List.replicate 3 q := by
    rw [List.replicate_append_replicate, List.replicate_append_replicate, Nat.add_comm]
  calc q :: q :: q :: s = List.replicate 3 q ++ s := rfl
    _ = List.replicate 3 q ++ (List.replicate k q ++ (closing q s).2) := by rw [← hk]
    _ = _ := by rw [← List.append_assoc, hswap, List.append_assoc]

theorem afterQuotes_blockRest {gap : Bool} {x : List Char} (h : blockRest gap s = some (x, r)) :
    AfterQuotes '"' s r := by
  fun_induction blockRest gap s generalizing x with
  | case1 => cases h
  | case2 gap s =>
    have hr : (closing '"' s).2 = r := congrArg Prod.snd (Option.some.inj h)
    exact hr ▸ afterQuotes_closing '"' s
  | case3 gap a b c d s ih =>
    obtain ⟨e, -, h⟩ := Option.bind_eq_some_iff.1 h
    obtain ⟨x', h⟩ := consRead_eq_some h
    exact (ih h).append ['\\', 'u', a, b, c, d]
  | case4 gap a b c d e f g k s ih =>
    obtain ⟨x₀, -, h⟩ := Option.bind_eq_some_iff.1 h
    obtain ⟨x', h⟩ := consRead_eq_some h
    exact (ih h).append ['\\', 'U', a, b, c, d, e, f, g, k]
  | case5 gap e s _ _ _ ih => exact (ih h).append ['\\']
  | case6 gap e s _ _ _ ih =>
    obtain ⟨c, -, h⟩ := Option.bind_eq_some_iff.1 h
    obtain ⟨x', h⟩ := consRead_eq_some h
    exact (ih h).append ['\\', e]
  | case7 s ih => exact (ih h).append ['\r', '\n']
  | case8 gap s _ ih =>
    obtain ⟨x', h⟩ := consRead_eq_some h
    exact (ih h).append ['\r', '\n']
  | case9 s ih => exact (ih h).append ['\n']
  | case10 gap s _ ih =>
    obtain ⟨x', h⟩ := consRead_eq_some h
    exact (ih h).append ['\n']
  | case11 gap c s _ _ _ _ _ _ _ ih => exact (ih h).append [c]
  | case12 gap c s _ _ _ _ _ _ _ _ ih =>
    obtain ⟨x', h⟩ := consRead_eq_some h
    exact (ih h).append [c]
  | case13 => cases h

theorem afterQuotes_literalBlockRest {x : List Char} (h : literalBlockRest s = some (x, r)) :
    AfterQuotes '\'' s r := by
  fun_induction literalBlockRest s generalizing x with
  | case1 => cases h
  | case2 s =>
    have hr : (closing '\'' s).2 = r := congrArg Prod.snd (Option.some.inj h)
    exact hr ▸ afterQuotes_closing '\'' s
  | case3 s ih =>
    obtain ⟨x', h⟩ := consRead_eq_some h
    exact (ih h).append ['\r', '\n']
  | case4 s ih =>
    obtain ⟨x', h⟩ := consRead_eq_some h
    exact (ih h).append ['\n']
  | case5 c s _ _ _ _ ih =>
    obtain ⟨x', h⟩ := consRead_eq_some h
    exact (ih h).append [c]
  | case6 => cases h

theorem AfterQuotes.isInfix {q : Char} (h : AfterQuotes q s r) : List.replicate 3 q <:+: s := by
  obtain ⟨w, rfl⟩ := h
  exact ⟨w, r, List.append_assoc ..⟩

theorem blockRest_eq_none {gap : Bool} (h : ¬ List.replicate 3 '"' <:+: s) :
    blockRest gap s = none :=
  Option.eq_none_iff_forall_ne_some.2 fun _ hread => h (afterQuotes_blockRest hread).isInfix

theorem literalBlockRest_eq_none (h : ¬ List.replicate 3 '\'' <:+: s) :
    literalBlockRest s = none :=
  Option.eq_none_iff_forall_ne_some.2 fun _ hread => h (afterQuotes_literalBlockRest hread).isInfix

/-- What begins with a quote is a string or no value. -/
theorem value?_eq_none {c : Char} (hc : c = '"' ∨ c = '\'') (h : string? (c :: s) = none) :
    value? (c :: s) = none := by
  have hdigits : ∀ ds, Text.natInBase? 10 (c :: ds) = none := by
    rcases hc with rfl | rfl <;> intro ds <;> rfl
  have hdate : date? (c :: s) = none := by
    unfold date?
    split
    · next heq =>
      cases heq
      simp [hdigits]
    · rfl
  have htwo : two? 0 23 (c :: s) = none := by
    unfold two?
    split
    · next heq =>
      cases heq
      simp [hdigits]
    · rfl
  have htime : time? (c :: s) = none := by
    simp [time?, hdate, clock?, htwo]
  have hrest : float? (c :: s) = none ∧ integer? (c :: s) = none := by
    rcases hc with rfl | rfl <;> exact ⟨rfl, rfl⟩
  rw [value?_of_quote hc]
  rcases hc with rfl | rfl <;> simp [scalar?, h, htime, hrest]

/-! ## The end of a text -/

/-- A line break and the text `t` stand at the end. -/
def EndsIn (t s : List Char) : Prop := '\n' :: t <:+ s

variable {t : List Char}

theorem EndsIn.of_cons {c : Char} (h : EndsIn t (c :: s)) (hc : c ≠ '\n') : EndsIn t s := by
  rcases List.suffix_cons_iff.1 h with h | h
  · exact absurd (List.cons.inj h).1.symm hc
  · exact h

theorem EndsIn.of_newline (h : EndsIn t ('\n' :: s)) : s = t ∨ EndsIn t s :=
  (List.suffix_cons_iff.1 h).imp (fun h => (List.cons.inj h).2.symm) id

theorem EndsIn.ne_nil (h : EndsIn t s) : s ≠ [] := by
  rintro rfl
  exact absurd (List.suffix_nil.1 h) (by simp)

theorem EndsIn.sameLine (h : EndsIn t s) (hr : SameLine s r) : EndsIn t r := by
  obtain ⟨w, rfl, hw⟩ := hr
  induction w with
  | nil => exact h
  | cons c w ih =>
    rw [List.mem_cons, not_or] at hw
    exact ih hw.2 (EndsIn.of_cons h (Ne.symm hw.1))

/-- A string over several lines that begins before the end is closed before it, where the end has
no such quotes. -/
theorem EndsIn.afterQuotes {q : Char} (hq : q ≠ '\n') (ht : ¬ List.replicate 3 q <:+: t)
    (h : EndsIn t s) (hr : AfterQuotes q s r) : EndsIn t r := by
  obtain ⟨w, rfl⟩ := hr
  induction w with
  | nil => exact h.sameLine ⟨_, rfl, by simp [hq.symm]⟩
  | cons c w ih =>
    rcases List.suffix_cons_iff.1 h with h | h
    · have hwhole : t = w ++ (List.replicate 3 q ++ r) := (List.cons.inj h).2
      exact absurd ⟨w, r, by rw [hwhole, List.append_assoc]⟩ ht
    · exact ih h

theorem append_skipNewline (s : List Char) : ∃ w, s = w ++ skipNewline s := by
  unfold skipNewline newline?
  split
  · exact ⟨['\n'], rfl⟩
  · exact ⟨['\r', '\n'], rfl⟩
  · exact ⟨[], rfl⟩

/-- A text that begins with a heading, and in which no string goes on over several lines. -/
structure Sectional (t : List Char) : Prop where
  quotes : ¬ List.replicate 3 '"' <:+: t
  apostrophes : ¬ List.replicate 3 '\'' <:+: t
  bracket : ∃ x, t = '[' :: x
  /-- The heading is no array. -/
  value : ∀ depth, valueWithin? depth t = none

namespace EndsIn

theorem of_string? (ht : Sectional t) {x : String} (h : EndsIn t s)
    (hr : string? s = some (x, r)) : EndsIn t r := by
  obtain ⟨⟨x', r'⟩, hread, hx⟩ := Option.map_eq_some_iff.1 hr
  cases hx
  split at hread
  · next s' =>
    obtain ⟨w, hw⟩ := append_skipNewline s'
    have hafter := ((afterQuotes_blockRest hread).append w)
    rw [← hw] at hafter
    exact h.afterQuotes (by decide) ht.quotes (hafter.append ['"', '"', '"'])
  · exact h.sameLine ((sameLine_basicRest hread).cons (by decide))
  · next s' =>
    obtain ⟨w, hw⟩ := append_skipNewline s'
    have hafter := ((afterQuotes_literalBlockRest hread).append w)
    rw [← hw] at hafter
    exact h.afterQuotes (by decide) ht.apostrophes (hafter.append ['\'', '\'', '\''])
  · exact h.sameLine ((sameLine_literalRest hread).cons (by decide))
  · cases hread

theorem of_scalar? (ht : Sectional t) {v : Value} (h : EndsIn t s)
    (hr : scalar? s = some (v, r)) : EndsIn t r := by
  unfold scalar? at hr
  split at hr
  · cases hr
    exact h.sameLine ⟨['t', 'r', 'u', 'e'], rfl, by decide⟩
  · cases hr
    exact h.sameLine ⟨['f', 'a', 'l', 's', 'e'], rfl, by decide⟩
  · split at hr
    · next hs =>
      cases hr
      exact h.of_string? ht hs
    · split at hr
      · next hs =>
        cases hr
        exact h.sameLine (sameLine_time? hs)
      · split at hr
        · next hs =>
          cases hr
          exact h.sameLine (sameLine_float? hs)
        · obtain ⟨⟨n, r'⟩, hn, hr⟩ := Option.map_eq_some_iff.1 hr
          cases hr
          exact h.sameLine (sameLine_integer? hn)

theorem of_skipGap (ht : Sectional t) {inComment : Bool} (h : EndsIn t s)
    (hr : skipGap inComment s = some r) : r = t ∨ EndsIn t r := by
  have hend : skipGap false t = some t := by
    obtain ⟨x, rfl⟩ := ht.bracket
    rfl
  fun_induction skipGap inComment s with
  | case1 => exact absurd rfl h.ne_nil
  | case2 => exact absurd rfl h.ne_nil
  | case3 c s ih =>
    rcases (h.of_cons (by decide)).of_newline with rfl | h
    · exact Or.inl (Option.some.inj (hr.symm.trans hend))
    · exact ih h hr
  | case4 c s ih =>
    rcases h.of_newline with rfl | h
    · exact Or.inl (Option.some.inj (hr.symm.trans hend))
    · exact ih h hr
  | case5 c s _ _ hp ih => exact ih (h.of_cons (ne_of_isPrinting hp)) hr
  | case6 => cases hr
  | case7 _ c s _ hline _ _ ih => exact ih (h.of_cons hline) hr
  | case8 _ s _ _ _ _ ih => exact ih (h.of_cons (by decide)) hr
  | case9 => exact Or.inr (Option.some.inj hr ▸ h)

/-- Values in arrays and in tables on one line. -/
theorem of_items? (ht : Sectional t) {value? : List Char → Option (Value × List Char)}
    (hnone : value? t = none)
    (hvalue : ∀ {s r v}, EndsIn t s → value? s = some (v, r) → EndsIn t r) {fuel : Nat}
    {vs : List Value} (h : EndsIn t s) (hr : items? value? fuel s = some (vs, r)) : EndsIn t r := by
  obtain ⟨x, hx⟩ := ht.bracket
  induction fuel generalizing s vs with
  | zero => cases hr
  | succ fuel ih =>
    simp only [items?, Option.bind_eq_bind] at hr
    obtain ⟨s₁, hs₁, hr⟩ := Option.bind_eq_some_iff.1 hr
    rcases h.of_skipGap ht hs₁ with rfl | h₁
    · -- The end begins with a bracket, and no value begins there.
      split at hr
      · exact absurd (List.cons.inj hx).1 (by decide)
      · rw [hnone] at hr
        cases hr
    · split at hr
      · cases hr
        exact h₁.of_cons (by decide)
      · obtain ⟨⟨v, r₁⟩, hv, hr⟩ := Option.bind_eq_some_iff.1 hr
        have h₂ := hvalue h₁ hv
        obtain ⟨s₂, hs₂, hr⟩ := Option.bind_eq_some_iff.1 hr
        rcases h₂.of_skipGap ht hs₂ with rfl | h₃
        · split at hr
          · exact absurd (List.cons.inj hx).1 (by decide)
          · exact absurd (List.cons.inj hx).1 (by decide)
          · cases hr
        · split at hr
          · obtain ⟨⟨vs', r'⟩, hitems, hr⟩ := Option.map_eq_some_iff.1 hr
            cases hr
            exact ih (h₃.of_cons (by decide)) hitems
          · cases hr
            exact h₃.of_cons (by decide)
          · cases hr

theorem of_pair? {value? : List Char → Option (Value × List Char)}
    (hvalue : ∀ {s r v}, EndsIn t s → value? s = some (v, r) → EndsIn t r)
    {p : List String × Value} (h : EndsIn t s) (hr : pair? value? s = some (p, r)) :
    EndsIn t r := by
  simp only [pair?, Option.bind_eq_bind] at hr
  obtain ⟨⟨path, r₁⟩, hpath, hr⟩ := Option.bind_eq_some_iff.1 hr
  obtain ⟨r₂, hequals, hr⟩ := Option.bind_eq_some_iff.1 hr
  obtain ⟨⟨v, r₃⟩, hv, hr⟩ := Option.bind_eq_some_iff.1 hr
  cases hr
  refine hvalue (h.sameLine ?_) hv
  exact (sameLine_keyPath? hpath).trans <| (sameLine_expect? (by decide) hequals).trans
    (sameLine_skipSpaces r₂)

theorem of_pairs? {value? : List Char → Option (Value × List Char)}
    (hvalue : ∀ {s r v}, EndsIn t s → value? s = some (v, r) → EndsIn t r) {fuel : Nat}
    {es es' : Entries} (h : EndsIn t s) (hr : pairs? value? fuel es s = some (es', r)) :
    EndsIn t r := by
  induction fuel generalizing s es with
  | zero => cases hr
  | succ fuel ih =>
    simp only [pairs?, Option.bind_eq_bind] at hr
    obtain ⟨⟨⟨path, v⟩, r₁⟩, hpair, hr⟩ := Option.bind_eq_some_iff.1 hr
    obtain ⟨es₁, -, hr⟩ := Option.bind_eq_some_iff.1 hr
    have h₁ := (h.of_pair? hvalue hpair).sameLine (sameLine_skipSpaces r₁)
    split at hr
    · next hcomma =>
      rw [show skipSpaces r₁ = _ from hcomma] at h₁
      exact ih (h₁.of_cons (by decide)) hr
    · next hclose =>
      cases hr
      rw [show skipSpaces r₁ = _ from hclose] at h₁
      exact h₁.of_cons (by decide)
    · cases hr

/-- **No value goes on beyond the end.** -/
theorem of_valueWithin? (ht : Sectional t) {depth : Nat} {v : Value} (h : EndsIn t s)
    (hr : valueWithin? depth s = some (v, r)) : EndsIn t r := by
  induction depth generalizing s r v with
  | zero => cases hr
  | succ depth ih =>
    unfold valueWithin? at hr
    split at hr
    · cases hr
    · cases hr
    · obtain ⟨⟨vs, r'⟩, hitems, hr⟩ := Option.bind_eq_some_iff.1 hr
      cases hr
      exact (h.of_cons (by decide)).of_items? ht (ht.value depth) ih hitems
    · next s' _ =>
      have h₁ := (h.of_cons (by decide)).sameLine (sameLine_skipSpaces s')
      split at hr
      · next hclose =>
        cases hr
        rw [hclose] at h₁
        exact h₁.of_cons (by decide)
      · obtain ⟨⟨es, r'⟩, hpairs, hr⟩ := Option.bind_eq_some_iff.1 hr
        cases hr
        exact h₁.of_pairs? ih hpairs
    · exact h.of_scalar? ht hr

theorem of_heading? (ht : Sectional t) {line : Line} (h : EndsIn t s)
    (hr : heading? s = some (line, r)) : EndsIn t r := by
  unfold heading? at hr
  simp only [Option.bind_eq_bind] at hr
  split at hr
  · obtain ⟨⟨path, r₁⟩, hpath, hr⟩ := Option.bind_eq_some_iff.1 hr
    obtain ⟨r₂, h₂, hr⟩ := Option.bind_eq_some_iff.1 hr
    obtain ⟨r₃, h₃, hr⟩ := Option.bind_eq_some_iff.1 hr
    cases hr
    exact h.sameLine <| .append (w := ['[', '[']) (by decide) <|
      (sameLine_keyPath? hpath).trans <| (sameLine_expect? (by decide) h₂).trans
        (sameLine_expect? (by decide) h₃)
  · obtain ⟨⟨path, r₁⟩, hpath, hr⟩ := Option.bind_eq_some_iff.1 hr
    obtain ⟨r₂, h₂, hr⟩ := Option.bind_eq_some_iff.1 hr
    cases hr
    exact h.sameLine <| .append (w := ['[']) (by decide) <|
      (sameLine_keyPath? hpath).trans (sameLine_expect? (by decide) h₂)
  · obtain ⟨⟨⟨path, v⟩, r₁⟩, hpair, hr⟩ := Option.bind_eq_some_iff.1 hr
    cases hr
    exact h.of_pair? (fun h hr => h.of_valueWithin? ht hr) hpair

theorem of_endOfLine? (h : EndsIn t s) (hr : endOfLine? s = some r) : r = t ∨ EndsIn t r := by
  have hnewline : ∀ {s}, EndsIn t s → (if s.isEmpty then some [] else newline? s) = some r →
      r = t ∨ EndsIn t r := by
    intro s h hr
    rw [if_neg (mt List.isEmpty_iff.1 h.ne_nil)] at hr
    unfold newline? at hr
    split at hr
    · cases hr
      exact h.of_newline
    · cases hr
      exact (h.of_cons (by decide)).of_newline
    · cases hr
  have hblank := h.sameLine (sameLine_skipSpaces s)
  simp only [endOfLine?] at hr
  split at hr
  · next s' hcomment =>
    rw [hcomment] at hblank
    exact hnewline ((hblank.of_cons (by decide)).sameLine (.dropWhile rfl s')) hr
  · exact hnewline hblank hr

end EndsIn

/-! ## The lines at the end -/

theorem linesWithin?_mono {fuel : Nat} {ls : List Line} (h : linesWithin? fuel s = some ls)
    (more : Nat) : linesWithin? (fuel + more) s = some ls := by
  induction fuel generalizing s ls with
  | zero => cases h
  | succ fuel ih =>
    rw [Nat.add_right_comm]
    rw [linesWithin?_succ] at h ⊢
    split at h
    · next hs => rwa [if_pos hs]
    · next hs =>
      rw [if_neg hs]
      split at h
      · exact ih h
      · obtain ⟨⟨line, r⟩, hline, h⟩ := Option.bind_eq_some_iff.1 h
        obtain ⟨r', hr, h⟩ := Option.bind_eq_some_iff.1 h
        obtain ⟨ls', hls, h⟩ := Option.map_eq_some_iff.1 h
        simp only [hline, Option.bind_some, hr, ih hls, Option.map_some, h]

/-- **The lines at the end of a text are read**, whatever stands before them. -/
theorem exists_append_of_linesWithin? (ht : Sectional t) {fuel : Nat} {ls : List Line}
    (h : s = t ∨ EndsIn t s) (hr : linesWithin? fuel s = some ls) :
    ∃ before last fuel', ls = before ++ last ∧ linesWithin? fuel' t = some last := by
  induction fuel generalizing s ls with
  | zero => cases hr
  | succ fuel ih =>
    rcases h with rfl | h
    · exact ⟨[], ls, fuel + 1, rfl, hr⟩
    · have hblank := h.sameLine (sameLine_skipSpaces s)
      rw [linesWithin?_succ, if_neg hblank.ne_nil] at hr
      split at hr
      · next r hend => exact ih (hblank.of_endOfLine? hend) hr
      · obtain ⟨⟨line, r⟩, hline, hr⟩ := Option.bind_eq_some_iff.1 hr
        obtain ⟨r', hend, hr⟩ := Option.bind_eq_some_iff.1 hr
        obtain ⟨ls', hls, rfl⟩ := Option.map_eq_some_iff.1 hr
        obtain ⟨before, last, fuel', rfl, hlast⟩ :=
          ih ((hblank.of_heading? ht hline).of_endOfLine? hend) hls
        exact ⟨line :: before, last, fuel', rfl, hlast⟩

end CallRouting.Toml
