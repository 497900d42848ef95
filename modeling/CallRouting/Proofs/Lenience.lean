import CallRouting.Proofs.Markers

/-!
# Where the reader is lenient

In a clause of the grammar there is one `=>`, and in each part every word but the first has a
separator before it. The reader takes more than that, and what it takes it reads as something else:
a word with nothing but blanks before it as if `&` stood there, and a later `=>` as `=` and a word
that begins with `>`.

* `words` : the words of a part, with the separators before them;
* `TakenAsKey` : whether the reader opens a word as a key;
* `Orderly` : the words stand where the grammar has them; `Lenient` : where the reader has them;
* `ReadAs.orderly_iff` : the two differ just where two words have nothing but blanks between them;
* `alike_blank_and` : which are read as `&`;
* `alike_arrow_equals` : how a later arrow is read;
* `lenient_of_compile` : all of that, for every clause that is accepted.
-/

namespace CallRouting.Clause

open Token (scan)

/-! ## Parts -/

/-- The word that a part may have instead of a condition. -/
def idle : Side → List Char
  | .call => "true".toList
  | .endpoint => "false".toList

/-- The text of the part that looks at this side. -/
def part (s : List Char) : Side → List Char
  | .call => (parts (unmarked (Text.trim s))).1
  | .endpoint => (parts (unmarked (Text.trim s))).2

/-- The words of a part; one that is blank or idle has none. -/
def wordsOf (side : Side) (s : List Char) : List Token :=
  if s = [] ∨ s = idle side then [] else scan s

def words (s : List Char) (side : Side) : List Token := wordsOf side (part s side)

/-- What a clause asks of this side. -/
def asks (c : Clause) : Side → Condition
  | .call => c.whenPart
  | .endpoint => c.thenPart.getD .empty

/-- The condition is read from these words. -/
structure ReadAs (side : Side) (ts : List Token) (c : Condition) : Prop where
  solid : ∀ t ∈ ts, Solid t.word
  grammatical : Grammatical ts
  made : Condition.MadeOf side ts c

theorem readAs_nil (side : Side) : ReadAs side [] .empty where
  solid := nofun
  grammatical := grammatical_nil
  made := ⟨Dict.ordered_empty, fun _ => rfl⟩

theorem readAs_of_parse {side : Side} {s : List Char} {c : Condition}
    (h : Condition.parse side s = .ok c) : ReadAs side (scan s) c := by
  obtain ⟨ts, run, hs⟩ := exists_alternates s
  rcases Condition.parse_cases side hs with ⟨c', hc, hfits, rfl, hmade⟩ | ⟨f, hf, -⟩
  · obtain rfl := Except.ok.inj (hc.symm.trans h)
    have hscan : scan s = ts := hs.scan_eq.trans (List.append_nil ts)
    rw [hscan]
    exact ⟨hs.solid, hfits, hmade⟩
  · rw [hf] at h
    cases h

theorem readAs_parseWhen {s : List Char} {c : Condition} (h : parseWhen s = .ok c) :
    ReadAs .call (wordsOf .call s) c := by
  rcases parseWhen_cases h with ⟨hspecial, rfl⟩ | ⟨hspecial, hparse⟩
  · rw [show wordsOf .call s = [] from if_pos hspecial]
    exact readAs_nil .call
  · rw [show wordsOf .call s = scan s from if_neg hspecial]
    exact readAs_of_parse hparse

theorem readAs_parseThen {s : List Char} {c : Option Condition} (h : parseThen s = .ok c) :
    ReadAs .endpoint (wordsOf .endpoint s) (c.getD .empty) := by
  rcases parseThen_cases h with ⟨hspecial, rfl⟩ | ⟨hspecial, t, hparse, rfl⟩
  · rw [show wordsOf .endpoint s = [] from if_pos hspecial]
    exact readAs_nil .endpoint
  · rw [show wordsOf .endpoint s = scan s from if_neg hspecial]
    exact readAs_of_parse hparse

theorem readAs_words {s : List Char} {force : Bool} {c : Clause}
    (h : compile (String.ofList s) force = .ok c) (side : Side) :
    ReadAs side (words s side) (c.asks side) := by
  obtain ⟨-, hw, ht, -, -⟩ := compiled_of_compile h
  rw [String.toList_ofList] at hw ht
  cases side with
  | call => exact readAs_parseWhen hw
  | endpoint => exact readAs_parseThen ht

/-! ## Keys -/

/-- After the words before it the reader opens this one as a key: it is the one whose values come
next. -/
def TakenAsKey (side : Side) (before : List Token) (t : Token) : Prop :=
  ∃ r, (before ++ [t]).foldlM (Reading.token side) {} = .ok r ∧
    r.key = some (String.ofList t.word) ∧ r.polarity = none

/-- The separators before a value. -/
def signs : List (List Char) := [['='], ['!', '='], [',']]

/-- Keys come first or after `&`, and all other words after `=`, `!=` or a comma. -/
def Orderly (side : Side) (ts : List Token) : Prop :=
  ∀ before t after, ts = before ++ t :: after →
    (TakenAsKey side before t → before = [] ∨ t.run = ['&']) ∧
      (¬ TakenAsKey side before t → t.run ∈ signs)

/-- Keys are the words with `&` or no separators before them, and all other words come after `=`,
`!=` or a comma. -/
def Lenient (side : Side) (ts : List Token) : Prop :=
  ∀ before t after, ts = before ++ t :: after →
    (TakenAsKey side before t ↔ t.run = [] ∨ t.run = ['&']) ∧
      (¬ TakenAsKey side before t → t.run ∈ signs)

theorem Token.role_eq_key_iff (t : Token) : t.role = .key ↔ t.run = [] ∨ t.run = ['&'] := by
  unfold role
  split <;> simp_all

theorem Token.Fits.run_mem_signs {before : List Token} {t : Token} (h : t.Fits before)
    (hrole : t.role ≠ .key) : t.run ∈ signs := by
  unfold Fits at h
  unfold role at h hrole
  split at hrole <;> simp_all [signs]

theorem Grammatical.of_append {ts us : List Token} (h : Grammatical (ts ++ us)) :
    Grammatical ts := by
  intro before t after hts
  exact h before t (after ++ us) (by rw [hts, List.append_assoc, List.cons_append])

namespace ReadAs

variable {side : Side} {ts : List Token} {c : Condition} (h : ReadAs side ts c)

include h

theorem takenAsKey_iff {before after : List Token} {t : Token} (hts : ts = before ++ t :: after) :
    TakenAsKey side before t ↔ t.role = .key := by
  have hsplit : ts = (before ++ [t]) ++ after := by rw [hts, List.append_assoc]; rfl
  have hgrammatical : Grammatical (before ++ [t]) := (hsplit ▸ h.grammatical).of_append
  have hsolid : ∀ u ∈ before ++ [t], Solid u.word := fun u hu =>
    h.solid u (by rw [hsplit]; exact List.mem_append_left after hu)
  have hfits : t.Fits before := (grammatical_snoc.1 hgrammatical).2
  -- The words up to this one fit, so they have been read, and it is known what to.
  rcases Reading.foldlM_cases side hsolid with ⟨-, r, hr, hreads⟩ | ⟨b, u, hstops, -⟩
  · constructor
    · rintro ⟨r', hr', -, hpolarity⟩
      obtain rfl := Except.ok.inj (hr.symm.trans hr')
      by_contra hrole
      have hopened : Opened before := by
        unfold Token.Fits at hfits
        split at hfits
        · next hkey => exact absurd hkey hrole
        · exact hfits
        · exact hfits.opened
        · exact hfits.elim
      have hsome := hreads.continues.2 (continues_snoc.2 ⟨hrole, hopened⟩)
      rw [hpolarity] at hsome
      cases hsome
    · intro hrole
      refine ⟨r, hr, ?_, ?_⟩
      · rw [hreads.key, openKey?_snoc, if_pos hrole]
      · refine Option.not_isSome_iff_eq_none.1 fun hsome => ?_
        exact (continues_snoc.1 (hreads.continues.1 hsome)).1 hrole
  · obtain ⟨rest, hrest⟩ := hstops.split
    exact absurd (hgrammatical b u rest hrest) hstops.not_fits

theorem lenient : Lenient side ts := by
  intro before t after hts
  have hkey := h.takenAsKey_iff hts
  refine ⟨hkey.trans t.role_eq_key_iff, fun hno => ?_⟩
  exact (h.grammatical before t after hts).run_mem_signs (mt hkey.2 hno)

/-- A word is where the grammar has none exactly if nothing but blanks is between it and the word
before it. -/
theorem orderly_iff : Orderly side ts ↔ ∀ t ∈ ts.tail, t.run ≠ [] := by
  constructor
  · intro horderly t ht hrun
    cases ts with
    | nil => cases ht
    | cons u ts =>
      obtain ⟨l, r, hsplit⟩ := List.append_of_mem ht
      have hts : u :: ts = (u :: l) ++ t :: r := congrArg (u :: ·) hsplit
      have hkey := ((h.lenient (u :: l) t r hts).1).2 (Or.inl hrun)
      rcases (horderly (u :: l) t r hts).1 hkey with hnil | hand
      · cases hnil
      · rw [hrun] at hand
        cases hand
  · intro hruns before t after hts
    obtain ⟨hkey, hvalue⟩ := h.lenient before t after hts
    refine ⟨fun htaken => ?_, hvalue⟩
    rcases hkey.1 htaken with hrun | hand
    · refine Or.inl ?_
      cases before with
      | nil => rfl
      | cons u before => exact absurd hrun (hruns t (by rw [hts]; simp))
    · exact Or.inr hand

end ReadAs

/-! ## Parts that are read alike -/

/-- The part is neither blank nor idle. -/
structure Speaks (s : List Char) : Prop where
  ne_nil : Text.trim s ≠ []
  ne_idle : ∀ side, Text.trim s ≠ idle side

theorem speaks_of_equals {s : List Char} (h : '=' ∈ s) : Speaks s := by
  obtain ⟨l, r, hs, hl, hr⟩ := Text.exists_trim s
  have hmem : '=' ∈ Text.trim s := by
    rw [hs, List.mem_append, List.mem_append] at h
    rcases h with h | h | h
    · exact absurd (hl '=' h) (by decide)
    · exact h
    · exact absurd (hr '=' h) (by decide)
  refine ⟨List.ne_nil_of_mem hmem, fun side hidle => ?_⟩
  rw [hidle] at hmem
  cases side <;> exact absurd hmem (by decide)

theorem speaks_of_scan {s : List Char} (h : 1 < (scan s).length) : Speaks s := by
  rw [← Token.scan_trim] at h
  refine ⟨fun hnil => ?_, fun side hidle => ?_⟩
  · rw [hnil, Token.scan_nil] at h
    cases h
  · rw [hidle] at h
    cases side <;> exact absurd h (by decide +kernel)

theorem Speaks.parse_trim {s : List Char} (h : Speaks s) :
    parseWhen (Text.trim s) = Condition.parse .call s ∧
      parseThen (Text.trim s) = (Condition.parse .endpoint s).map some := by
  have hparse : ∀ side, Condition.parse side (Text.trim s) = Condition.parse side s := fun side => by
    rw [Condition.parse, Condition.parse, Token.scan_trim]
  have hwhen : parseWhen (Text.trim s) = Condition.parse .call (Text.trim s) :=
    if_neg (not_or.2 ⟨h.ne_nil, h.ne_idle .call⟩)
  have hthen : parseThen (Text.trim s) = (Condition.parse .endpoint (Text.trim s)).map some :=
    if_neg (not_or.2 ⟨h.ne_nil, h.ne_idle .endpoint⟩)
  rw [hwhen, hthen, hparse, hparse]
  exact ⟨rfl, rfl⟩

/-- Two parts that speak are read alike, whichever part of a clause they are. -/
theorem Speaks.parse_congr {s t : List Char} (hs : Speaks s) (ht : Speaks t)
    (h : ∀ side, Condition.parse side s = Condition.parse side t) :
    parseWhen (Text.trim s) = parseWhen (Text.trim t) ∧
      parseThen (Text.trim s) = parseThen (Text.trim t) := by
  rw [hs.parse_trim.1, hs.parse_trim.2, ht.parse_trim.1, ht.parse_trim.2, h, h]
  exact ⟨rfl, rfl⟩

/-! ## Blanks between two words -/

/-- The text ends in a word. -/
structure EndsInWord (x : List Char) : Prop where
  ne_nil : x ≠ []
  last : ∀ c ∈ x.getLast?, isGap c = false

theorem EndsInWord.of_append {x b : List Char} (h : EndsInWord (x ++ b)) (hb : b ≠ []) :
    EndsInWord b where
  ne_nil := hb
  last c hc := h.last c (by rw [List.getLast?_append, Option.mem_def.1 hc]; rfl)

theorem EndsInWord.scan_ne_nil {x : List Char} (h : EndsInWord x) : scan x ≠ [] := by
  obtain ⟨ts, run, hx⟩ := exists_alternates x
  rw [hx.scan_eq]
  cases hx with
  | gap hg =>
    obtain ⟨c, hc⟩ := Option.ne_none_iff_exists'.1 (mt List.getLast?_eq_none_iff.1 h.ne_nil)
    have hgap := hg c (List.mem_of_getLast? hc)
    rw [h.last c hc] at hgap
    cases hgap
  | word => exact List.cons_ne_nil _ _

/-- A text that can stand between two words. -/
structure Gap (g : List Char) : Prop where
  ne_nil : g ≠ []
  gap : ∀ c ∈ g, isGap c = true

theorem Gap.of_all {g : List Char} (h : g ≠ []) (hall : g.all isGap = true) : Gap g :=
  ⟨h, List.all_eq_true.1 hall⟩

theorem scan_between {x g w y : List Char} (hx : EndsInWord x) (hg : Gap g) (hw : Solid w)
    (hy : Open y) :
    scan (x ++ (g ++ (w ++ y))) = scan x ++ ⟨g.filter isSeparator, w⟩ :: scan y := by
  have hopen : Open (g ++ (w ++ y)) := by
    obtain ⟨d, g, rfl⟩ := List.exists_cons_of_ne_nil hg.ne_nil
    exact open_cons (hg.gap d List.mem_cons_self)
  rw [Token.scan_append_open hx.last hopen, Token.scan_append hg.gap hw hy]

theorem speaks_between {x g w y : List Char} (hx : EndsInWord x) (hg : Gap g) (hw : Solid w)
    (hy : Open y) : Speaks (x ++ (g ++ (w ++ y))) := by
  refine speaks_of_scan ?_
  have hpos := List.length_pos_of_ne_nil hx.scan_ne_nil
  rw [scan_between hx hg hw hy, List.length_append, List.length_cons]
  omega

/-- A key may have `&` before it or not. -/
theorem token_and (side : Side) (r : Reading) {w : List Char} (hw : w ≠ []) :
    r.token side ⟨[], w⟩ = r.token side ⟨['&'], w⟩ := by
  rw [Reading.token_eq hw, Reading.token_eq hw]
  rfl

theorem parse_between {x g g' w y : List Char} (hx : EndsInWord x) (hg : Gap g) (hg' : Gap g')
    (hrun : g.filter isSeparator = []) (hrun' : g'.filter isSeparator = ['&']) (hw : Solid w)
    (hy : Open y) (side : Side) :
    Condition.parse side (x ++ (g ++ (w ++ y))) = Condition.parse side (x ++ (g' ++ (w ++ y))) := by
  rw [Condition.parse, Condition.parse, scan_between hx hg hw hy, scan_between hx hg' hw hy, hrun,
    hrun', List.foldlM_append, List.foldlM_append]
  simp only [List.foldlM_cons, token_and side _ hw.ne_nil]

/-- What stands between two words is in the same part as they are, whatever it is, as long as it
has no `=`. -/
theorem exists_part {x w y : List Char} (hx : EndsInWord x) (harrow : ¬ arrow <:+ x) (hw : Solid w)
    (hy : Open y) :
    ∃ b z other, EndsInWord b ∧ Open z ∧
      ((∀ g, (∀ c ∈ g, c ≠ '=') →
          parts (x ++ (g ++ (w ++ y))) = (other, Text.trim (b ++ (g ++ (w ++ z))))) ∨
        ∀ g, (∀ c ∈ g, c ≠ '=') →
          parts (x ++ (g ++ (w ++ y))) = (Text.trim (b ++ (g ++ (w ++ z))), other)) := by
  cases hcut : Text.cut? arrow x with
  | some p =>
    obtain ⟨a, b⟩ := p
    have hsplit := Text.cut?_eq_some hcut
    have hb : b ≠ [] := by
      rintro rfl
      exact harrow ⟨a, by rw [hsplit, List.append_nil]⟩
    refine ⟨b, y, Text.trim a, (hsplit ▸ hx).of_append hb, hy, Or.inl fun g _ => ?_⟩
    rw [parts, Text.cut?_append_right (by simp) hcut]
  | none =>
    have hlast : ∀ c ∈ x.getLast?, c ≠ '=' := fun c hc => ne_of_isGap_eq_false (hx.last c hc)
    have hskip : ∀ g, (∀ c ∈ g, c ≠ '=') → Text.Skips arrow (x ++ (g ++ w)) := fun g hg =>
      (skips_of_noArrow (Text.cut?_eq_none_iff.1 hcut) hlast).append <|
        (Text.Skips.of_forall_ne hg).append (skips_word ⟨w, hw⟩)
    have hassoc : ∀ g z, x ++ (g ++ (w ++ z)) = x ++ (g ++ w) ++ z := fun g z => by simp
    cases hcut' : Text.cut? arrow y with
    | some p =>
      obtain ⟨z, other⟩ := p
      have hz : Open z := by
        have hsplit := Text.cut?_eq_some hcut'
        cases z with
        | nil => exact open_nil
        | cons d z => exact open_cons (hy d (by rw [hsplit]; rfl))
      refine ⟨x, z, Text.trim other, hx, hz, Or.inr fun g hg => ?_⟩
      rw [parts, hassoc, hskip g hg y, hcut', hassoc]
      rfl
    | none =>
      refine ⟨x, y, [], hx, hy, Or.inl fun g hg => ?_⟩
      rw [parts, hassoc, hskip g hg y, hcut']
      rfl

/-- No marker reaches over a gap. -/
theorem unmarked_gap {g : List Char} (hg : Gap g) (x s : List Char) :
    unmarked (x ++ (g ++ s)) = unmarked x ++ (g ++ unmarked s) := by
  have hhead : ∀ c ∈ (g ++ s).head?, Divides c := by
    obtain ⟨d, g, rfl⟩ := List.exists_cons_of_ne_nil hg.ne_nil
    rintro _ ⟨⟩
    exact divides_of_isGap (hg.gap d List.mem_cons_self)
  have hlast : ∀ c ∈ g.getLast?, Divides c := fun c hc =>
    divides_of_isGap (hg.gap c (List.mem_of_getLast? hc))
  rw [unmarked_append_of_head x hhead, unmarked_append_of_last hlast, unmarked_of_forall hg.gap]

theorem open_unmarked {y : List Char} (hy : Open y) : Open (unmarked y) := by
  cases y with
  | nil => simpa using open_nil
  | cons d y =>
    have hd := hy d rfl
    rw [unmarked_cons (divides_of_isGap hd)]
    exact open_cons hd

/-- Two words of a part with nothing but blanks between them. Either has something left without
markers, and the first one does not end an arrow. -/
structure Adjacent (before v g w after : List Char) : Prop where
  leads : Leads before
  first : Solid v
  second : Solid w
  opens : Open after
  left_first : unmarked v ≠ []
  left_second : unmarked w ≠ []
  not_arrow : ¬ arrow <:+ unmarked (before ++ v)
  ne_nil : g ≠ []
  blank : ∀ c ∈ g, Text.isBlank c = true

/-- Between two words blanks are read as `&`. -/
theorem alike_blank_and {before v g w after : List Char} (h : Adjacent before v g w after)
    (force : Bool) :
    Alike (compile (String.ofList (before ++ (v ++ (g ++ (w ++ after))))) force)
      (compile (String.ofList (before ++ (v ++ (" & ".toList ++ (w ++ after))))) force) := by
  have hg : Gap g := ⟨h.ne_nil, fun c hc => isGap_of_isBlank (h.blank c hc)⟩
  have hg' : Gap " & ".toList := .of_all (by decide) (by decide)
  have hrun : g.filter isSeparator = [] := (filter_isSeparator_eq_nil_iff hg.gap).2 h.blank
  have hequals : ∀ c ∈ g, c ≠ '=' := by
    rintro _ hc rfl
    exact absurd (h.blank '=' hc) (by decide)
  have hequals' : ∀ c ∈ " & ".toList, c ≠ '=' := fun _ hc =>
    ne_of_mem_of_not_mem hc (by decide)
  have hunmarked : ∀ g, Gap g → unmarked (before ++ (v ++ (g ++ (w ++ after)))) =
      unmarked (before ++ v) ++ (g ++ (unmarked w ++ unmarked after)) := fun g hg => by
    rw [← List.append_assoc, unmarked_gap hg,
      unmarked_append_of_head w fun c hc => divides_of_isGap (h.opens c hc)]
  have hword := h.first.unmarked h.left_first
  have hx : EndsInWord (unmarked (before ++ v)) := by
    rw [unmarked_append_of_last h.leads.divides]
    refine ⟨by simp [h.left_first], fun c hc => hword.notGap c ?_⟩
    rw [List.getLast?_append_of_ne_nil _ h.left_first] at hc
    exact List.mem_of_getLast? hc
  have hw := h.second.unmarked h.left_second
  obtain ⟨b, z, other, hb, hz, hparts⟩ := exists_part hx h.not_arrow hw (open_unmarked h.opens)
  -- The part with the two words is read the same, and the other part is the same.
  obtain ⟨hwhen, hthen⟩ := (speaks_between hb hg hw hz).parse_congr (speaks_between hb hg' hw hz)
    (parse_between hb hg hg' hrun (by decide) hw hz)
  refine alike_of_parts (trim_around_ne_nil h.first) (trim_around_ne_nil h.first) ?_ ?_ force <;>
    rw [parts_trim, parts_trim, hunmarked g hg, hunmarked _ hg'] <;>
    rcases hparts with hparts | hparts <;> rw [hparts g hequals, hparts _ hequals']
  · exact hwhen
  · exact hthen

/-! ## Later arrows -/

/-- The first arrow is found at this one or before it, so what comes after is then-part. -/
theorem exists_parts_arrow (x : List Char) :
    ∃ before after, ∀ s, parts (unmarked (Text.trim (x ++ (arrow ++ s)))) =
      (before, Text.trim (after ++ unmarked s)) := by
  obtain ⟨⟨a, b⟩, hcut⟩ : ∃ p, Text.cut? arrow (unmarked x ++ arrow) = some p :=
    Option.isSome_iff_exists.1 ((Text.contains_iff _ _).2 (List.suffix_append _ _).isInfix)
  refine ⟨Text.trim a, b, fun s => ?_⟩
  have hgreater : Divides '>' := by
    unfold Divides
    decide
  have harrow : unmarked (x ++ (arrow ++ s)) = unmarked x ++ arrow ++ unmarked s := by
    rw [List.cons_append, unmarked_append_cons (divides_of_isGap (by decide)),
      List.singleton_append, unmarked_cons hgreater, List.append_assoc]
    rfl
  rw [parts_trim, harrow, parts, Text.cut?_append_right (by simp) hcut]

/-- An arrow that is not the first one is read as `=` and a word that begins with `>`. -/
theorem alike_arrow_equals (x y z : List Char) (force : Bool) :
    Alike (compile (String.ofList (x ++ (arrow ++ (y ++ (arrow ++ z))))) force)
      (compile (String.ofList (x ++ (arrow ++ (y ++ ("= >".toList ++ z))))) force) := by
  have hne : ∀ s, Text.trim (x ++ (arrow ++ s)) ≠ [] := fun s h => by
    have := (Text.trim_eq_nil_iff _).1 h '=' (by simp)
    exact absurd this (by decide)
  have hg : Gap ['='] := .of_all (by decide) (by decide)
  have hg' : Gap ['=', ' '] := .of_all (by decide) (by decide)
  obtain ⟨before, after, hparts⟩ := exists_parts_arrow x
  have hfirst : unmarked (y ++ (arrow ++ z)) = unmarked y ++ (['='] ++ unmarked ('>' :: z)) :=
    unmarked_gap hg y ('>' :: z)
  have hsecond : unmarked (y ++ ("= >".toList ++ z)) =
      unmarked y ++ (['=', ' '] ++ unmarked ('>' :: z)) := unmarked_gap hg' y ('>' :: z)
  have hparse : ∀ side,
      Condition.parse side (after ++ (unmarked y ++ (['='] ++ unmarked ('>' :: z)))) =
        Condition.parse side (after ++ (unmarked y ++ (['=', ' '] ++ unmarked ('>' :: z)))) := by
    intro side
    rw [Condition.parse, Condition.parse, ← List.append_assoc, ← List.append_assoc after,
      Token.scan_congr_gap hg.gap hg'.gap hg.ne_nil hg'.ne_nil (by decide)]
  obtain ⟨-, hthen⟩ := Speaks.parse_congr (speaks_of_equals (by simp)) (speaks_of_equals (by simp))
    hparse
  refine alike_of_parts (hne _) (hne _) ?_ ?_ force
  · rw [hparts, hparts]
  · rw [hparts, hparts, hfirst, hsecond]
    exact hthen

/-! ## Clauses that are accepted -/

/-- **What is accepted is more than the grammar.** The words of a clause that is accepted are keys
with `&` or no separators before them, and values after `=`, `!=` or a comma; so they stand where
the grammar has them exactly if no two words of a part have nothing but blanks between them. Such
blanks are read as `&`, and an arrow that is not the first one as `=` and a word that begins with
`>`: with these in their place the clause is refused or has the same effect. -/
theorem lenient_of_compile (force : Bool) :
    (∀ s c, compile (String.ofList s) force = .ok c → ∀ side,
      Condition.MadeOf side (words s side) (c.asks side) ∧ Lenient side (words s side) ∧
        (Orderly side (words s side) ↔ ∀ t ∈ (words s side).tail, t.run ≠ [])) ∧
    (∀ before v g w after, Adjacent before v g w after →
      Alike (compile (String.ofList (before ++ (v ++ (g ++ (w ++ after))))) force)
        (compile (String.ofList (before ++ (v ++ (" & ".toList ++ (w ++ after))))) force)) ∧
    ∀ x y z, Alike (compile (String.ofList (x ++ (arrow ++ (y ++ (arrow ++ z))))) force)
      (compile (String.ofList (x ++ (arrow ++ (y ++ ("= >".toList ++ z))))) force) := by
  refine ⟨fun s c hc side => ?_, fun before v g w after h => alike_blank_and h force,
    fun x y z => alike_arrow_equals x y z force⟩
  have hread := readAs_words hc side
  exact ⟨hread.made, hread.lenient, hread.orderly_iff⟩

/-- The clause `=> host = a b`, which has two keys. -/
def forgottenComma : Clause where
  source := "=> host = a b"
  force := true
  whenPart := .empty
  thenPart := some ⟨[("b", {}), ("host", { accepted := [.exact "a"] })]⟩

theorem compile_forgottenComma :
    compile (String.ofList "=> host = a b".toList) true = .ok forgottenComma := by decide +kernel

theorem words_forgottenComma : words "=> host = a b".toList .endpoint =
    [⟨[], "host".toList⟩, ⟨['='], ['a']⟩, ⟨[], ['b']⟩] := by decide +kernel

theorem lenient_of_forgottenComma :
    TakenAsKey .endpoint [⟨[], "host".toList⟩, ⟨['='], ['a']⟩] ⟨[], ['b']⟩ ∧
      Alike (compile "=> host = a b" true) (compile "=> host = a & b" true) ∧
      Alike (compile "host = x => host = y => host = z" true)
        (compile "host = x => host = y = > host = z" true) := by
  obtain ⟨hwords, hblank, harrow⟩ := lenient_of_compile true
  obtain ⟨-, hlenient, -⟩ := hwords _ _ compile_forgottenComma .endpoint
  have hadjacent : Adjacent "=> host = ".toList ['a'] [' '] ['b'] [] :=
    { leads := fun c hc => by
        have hlast : "=> host = ".toList.getLast? = some ' ' := by decide +kernel
        rw [hlast] at hc
        rw [← Option.mem_some.1 hc]
        exact Or.inl (by decide)
      first := by decide
      second := by decide
      opens := open_nil
      left_first := by decide +kernel
      left_second := by decide +kernel
      not_arrow := by decide +kernel
      ne_nil := by decide
      blank := List.forall_mem_singleton.2 (by decide) }
  refine ⟨((hlenient _ _ [] words_forgottenComma).1).2 (Or.inl rfl), ?_, ?_⟩
  · have hfirst : "=> host = a b".toList =
        "=> host = ".toList ++ (['a'] ++ ([' '] ++ (['b'] ++ []))) := by decide +kernel
    have hsecond : "=> host = a & b".toList =
        "=> host = ".toList ++ (['a'] ++ (" & ".toList ++ (['b'] ++ []))) := by decide +kernel
    have h := hblank _ _ _ _ _ hadjacent
    rwa [← hfirst, ← hsecond, String.ofList_toList, String.ofList_toList] at h
  · have hfirst : "host = x => host = y => host = z".toList =
        "host = x ".toList ++ (arrow ++ (" host = y ".toList ++ (arrow ++ " host = z".toList))) := by
      decide +kernel
    have hsecond : "host = x => host = y = > host = z".toList =
        "host = x ".toList ++
          (arrow ++ (" host = y ".toList ++ ("= >".toList ++ " host = z".toList))) := by
      decide +kernel
    have h := harrow "host = x ".toList " host = y ".toList " host = z".toList
    rwa [← hfirst, ← hsecond, String.ofList_toList, String.ofList_toList] at h

/-- A forgotten comma makes a key of a value, and a second arrow is a value. -/
theorem not_orderly :
    ¬ (∀ s force c, compile (String.ofList s) force = .ok c →
        ∀ side, Orderly side (words s side)) ∧
      ¬ ∀ s force c, compile (String.ofList s) force = .ok c →
        ∀ a b, s = a ++ (arrow ++ b) → ¬ arrow <:+: b := by
  refine ⟨fun h => ?_, fun h => ?_⟩
  · have horderly := h _ _ _ compile_forgottenComma .endpoint
    have hread := readAs_words compile_forgottenComma .endpoint
    exact hread.orderly_iff.1 horderly ⟨[], ['b']⟩
      (by rw [words_forgottenComma]; simp) rfl
  · let c : Clause :=
      { source := "host = x => host = y => host = z"
        force := true
        whenPart := ⟨[("host", { accepted := [.exact "x"] })]⟩
        thenPart := some ⟨[("host", { accepted := [.exact "y", .exact ">", .exact "z"] })]⟩ }
    have hc : compile (String.ofList "host = x => host = y => host = z".toList) true = .ok c := by
      decide +kernel
    exact h _ _ _ hc "host = x ".toList " host = y => host = z".toList
      (by decide +kernel) ⟨" host = y ".toList, " host = z".toList, by decide +kernel⟩

end CallRouting.Clause
