import Mathlib.Data.List.Induction
import CallRouting.Proofs.ConditionText
import CallRouting.Proofs.Words

/-!
# The grammar of conditions

Which words with which separators before them make up a condition, and which condition that is, said
by looking at the words that stand before each word.

* `Token.role` : what the separators before a word say that it is;
* `Token.Fits` : whether it can be that after the words before it;
* `Grammatical` : every word fits where it stands;
* `given`, `asked` : the words that a key is given on its two lists, and what that asks of it;
* `Reading.Reads` : what has been read after some words (`Reading.Reads.token`);
* `Reading.foldlM_cases` : the reader goes as far as the words fit, and stops at the first that does
  not;
* `Condition.parse_cases`, `Condition.parse_iff_grammatical` : a text is read to the condition that
  its words make up, or is refused for the leftmost thing that is wrong.
-/

namespace CallRouting.Clause

/-! ## Places -/

/-- What a word is for. -/
inductive Role where
  | key
  /-- A value on this list. -/
  | value (p : Polarity)
  /-- One more value on the list that the value before it went to. -/
  | oneMore
  | misplaced
deriving DecidableEq

/-- A word with no separators before it is a key, as one after `&` is. -/
def Token.role (t : Token) : Role :=
  match t.run with
  | [] | ['&'] => .key
  | ['='] => .value .accepted
  | ['!', '='] => .value .rejected
  | [','] => .oneMore
  | _ => .misplaced

/-- A word that begins like a positional argument names a position. -/
def Positional (word : List Char) : Prop :=
  argumentsStart <+: word → ∃ digits n, word = argumentsStart ++ digits ++ [']'] ∧
    Text.natBelow? UInt64.size digits = some n

/-- Some key is open. -/
def Opened (before : List Token) : Prop := ∃ t ∈ before, t.role = .key

/-- A value was given since the last key was opened. -/
def Continues (before : List Token) : Prop :=
  ∃ earlier key values, before = earlier ++ key :: values ∧ key.role = .key ∧ values ≠ [] ∧
    ∀ v ∈ values, v.role ≠ .key

/-- The token can stand after these. -/
def Token.Fits (before : List Token) (t : Token) : Prop :=
  match t.role with
  | .key => Positional t.word
  | .value _ => Opened before
  | .oneMore => Continues before
  | .misplaced => False

def Grammatical (ts : List Token) : Prop :=
  ∀ before t after, ts = before ++ t :: after → t.Fits before

/-- What is wrong with a token that does not fit. -/
def Token.fault (t : Token) : Fault :=
  if t.role = .key then .argument (String.ofList t.word)
  else .misplaced (String.ofList t.run) (String.ofList t.word)

theorem grammatical_nil : Grammatical [] := by
  intro before t after h
  simp at h

theorem grammatical_snoc {ts : List Token} {t : Token} :
    Grammatical (ts ++ [t]) ↔ Grammatical ts ∧ t.Fits ts := by
  constructor
  · intro h
    refine ⟨fun before u after hts => ?_, h ts t [] rfl⟩
    exact h before u (after ++ [t]) (by rw [hts, List.append_assoc, List.cons_append])
  · rintro ⟨hts, ht⟩ before u after h
    rcases List.eq_nil_or_concat after with rfl | ⟨after, v, rfl⟩
    · obtain ⟨rfl, hu⟩ := List.append_inj' h rfl
      obtain rfl := List.singleton_inj.1 hu
      exact ht
    · rw [List.concat_eq_append, ← List.cons_append, ← List.append_assoc] at h
      exact hts before u after (List.append_inj' h rfl).1

theorem Continues.opened {ts : List Token} (h : Continues ts) : Opened ts := by
  obtain ⟨earlier, key, values, rfl, hkey, -⟩ := h
  exact ⟨key, by simp, hkey⟩

/-- The last key that was opened, and the values after it. -/
theorem Opened.exists_last {ts : List Token} (h : Opened ts) :
    ∃ earlier key values, ts = earlier ++ key :: values ∧ key.role = .key ∧
      ∀ v ∈ values, v.role ≠ .key := by
  induction ts using List.reverseRecOn with
  | nil => simp [Opened] at h
  | append_singleton ts t ih =>
    by_cases ht : t.role = .key
    · exact ⟨ts, t, [], rfl, ht, nofun⟩
    · obtain ⟨u, hu, hkey⟩ := h
      rcases List.mem_append.1 hu with hu | hu
      · obtain ⟨earlier, key, values, rfl, hkey, hvalues⟩ := ih ⟨u, hu, hkey⟩
        refine ⟨earlier, key, values ++ [t], by simp, hkey, ?_⟩
        simpa [or_imp, forall_and, ht] using hvalues
      · rw [List.mem_singleton.1 hu] at hkey
        exact absurd hkey ht

theorem continues_snoc {ts : List Token} {t : Token} :
    Continues (ts ++ [t]) ↔ t.role ≠ .key ∧ Opened ts := by
  constructor
  · rintro ⟨earlier, key, values, hts, hkey, hne, hvalues⟩
    obtain ⟨values, v, rfl⟩ := (List.eq_nil_or_concat values).resolve_left hne
    rw [List.concat_eq_append, ← List.cons_append, ← List.append_assoc] at hts
    obtain ⟨rfl, hv⟩ := List.append_inj' hts rfl
    obtain rfl := List.singleton_inj.1 hv
    exact ⟨hvalues t (by simp), key, by simp, hkey⟩
  · rintro ⟨ht, hopened⟩
    obtain ⟨earlier, key, values, rfl, hkey, hvalues⟩ := hopened.exists_last
    refine ⟨earlier, key, values ++ [t], by simp, hkey, by simp, ?_⟩
    simpa [or_imp, forall_and, ht] using hvalues

/-! ## Values -/

/-- The key that is open after these tokens. -/
def openKey? (ts : List Token) : Option String :=
  (ts.filter (·.role = .key)).getLast?.map fun t => String.ofList t.word

/-- The list that a sign names. -/
def Role.list? : Role → Option Polarity
  | .value p => some p
  | _ => none

/-- The list that was named last. -/
def lastList? (ts : List Token) : Option Polarity := (ts.filterMap (·.role.list?)).getLast?

/-- The list that a token adds its word to. -/
def Token.list? (before : List Token) (t : Token) : Option Polarity :=
  if t.role = .oneMore then lastList? before else t.role.list?

/-- The words that a key is given on one of its lists, in the order of the text: each goes to the
key that was opened last before it. -/
def given (key : String) (p : Polarity) (before : List Token) : List Token → List (List Char)
  | [] => []
  | t :: ts =>
    (if openKey? before = some key ∧ t.list? before = some p then [t.word] else []) ++
      given key p (before ++ [t]) ts

/-- The key is opened somewhere. -/
def HasKey (ts : List Token) (key : String) : Prop :=
  ∃ t ∈ ts, t.role = .key ∧ String.ofList t.word = key

instance (ts : List Token) (key : String) : Decidable (HasKey ts key) :=
  inferInstanceAs (Decidable (∃ t ∈ ts, _))

/-- What is asked of a key. -/
def asked (side : Side) (ts : List Token) (key : String) : Test where
  accepted := (given key .accepted [] ts).map (Pattern.ofWord side)
  rejected := (given key .rejected [] ts).map (Pattern.ofWord side)

section

variable (ts : List Token) (t : Token)

theorem openKey?_snoc :
    openKey? (ts ++ [t]) = if t.role = .key then some (String.ofList t.word) else openKey? ts := by
  by_cases h : t.role = .key <;> simp [openKey?, List.filter_append, h]

theorem lastList?_snoc : lastList? (ts ++ [t]) = t.role.list?.or (lastList? ts) := by
  cases h : t.role.list? <;> simp [lastList?, List.filterMap_append, h]

theorem hasKey_snoc (key : String) :
    HasKey (ts ++ [t]) key ↔ HasKey ts key ∨ t.role = .key ∧ String.ofList t.word = key := by
  simp [HasKey, or_and_right, exists_or]

theorem given_snoc (key : String) (p : Polarity) (before : List Token) :
    given key p before (ts ++ [t]) = given key p before ts ++
      if openKey? (before ++ ts) = some key ∧ t.list? (before ++ ts) = some p then [t.word]
      else [] := by
  induction ts generalizing before with
  | nil => simp [given]
  | cons u ts ih => simp [given, ih]

theorem isSome_openKey?_iff : (openKey? ts).isSome = true ↔ Opened ts := by
  simp [openKey?, Opened]

theorem hasKey_of_openKey? {key : String} (h : openKey? ts = some key) : HasKey ts key := by
  obtain ⟨u, hu, hword⟩ := Option.map_eq_some_iff.1 h
  obtain ⟨hmem, hkey⟩ := List.mem_filter.1 (List.mem_of_getLast? hu)
  exact ⟨u, hmem, by simpa using hkey, hword⟩

/-- A key that is not opened is given nothing. -/
theorem given_eq_nil {key : String} (p : Polarity) (h : ¬ HasKey ts key) :
    given key p [] ts = [] := by
  induction ts using List.reverseRecOn with
  | nil => rfl
  | append_singleton ts u ih =>
    have hts : ¬ HasKey ts key := fun hhas => h ((hasKey_snoc ts u key).2 (.inl hhas))
    rw [given_snoc, ih hts, List.nil_append, List.nil_append, if_neg]
    rintro ⟨hkey, -⟩
    exact hts (hasKey_of_openKey? ts hkey)

end

/-! ## One token -/

/-- The position of an argument is found where there is one. -/
theorem exists_digits_of_argumentIndex? {word : List Char} (hw : Solid word) {n : Nat}
    (h : argumentIndex? (String.ofList word) = some n) :
    ∃ digits, word = argumentsStart ++ digits ++ [']'] ∧
      Text.natBelow? UInt64.size digits = some n := by
  simp only [argumentIndex?, String.toList_ofList, Option.bind_eq_bind] at h
  obtain ⟨index, hindex, hn⟩ := Option.bind_eq_some_iff.1 h
  obtain rfl := List.isPrefixOf?_eq_some_iff_append_eq.1 hindex
  split at hn
  · next hlast =>
    have hsplit : index.dropLast ++ [']'] = index := List.dropLast_append_getLast? _ hlast
    have hblank : ∀ c ∈ index.dropLast, Text.isBlank c = false := fun c hc =>
      hw.notBlank c (List.mem_append_right _ ((List.dropLast_sublist index).subset hc))
    rw [Text.trim_bare (Text.bare_of_forall hblank)] at hn
    exact ⟨index.dropLast, by rw [List.append_assoc, hsplit], hn⟩
  · cases hn

theorem positional_iff {word : List Char} (hw : Solid word) :
    Positional word ↔ ¬ (argumentsStart.isPrefixOf word &&
      (argumentIndex? (String.ofList word)).isNone) = true := by
  rw [Bool.and_eq_true, List.isPrefixOf_iff_prefix, not_and]
  refine forall_congr' fun _ => ?_
  constructor
  · rintro ⟨digits, n, rfl, hn⟩
    rw [argumentIndex?_of_solid hw hn]
    exact Bool.false_ne_true
  · intro h
    obtain ⟨n, hn⟩ := Option.ne_none_iff_exists'.1 (mt Option.isNone_iff_eq_none.2 h)
    obtain ⟨digits, hword, hdigits⟩ := exists_digits_of_argumentIndex? hw hn
    exact ⟨digits, n, hword, hdigits⟩

namespace Reading

/-- The reading is what these tokens come to. -/
structure Reads (side : Side) (ts : List Token) (r : Reading) : Prop where
  key : r.key = openKey? ts
  continues : r.polarity.isSome = true ↔ Continues ts
  polarity : ∀ p, r.polarity = some p → lastList? ts = some p
  ordered : r.condition.Ordered
  condition : ∀ key, r.condition.get? key = if HasKey ts key then some (asked side ts key) else none

variable {side : Side} {ts : List Token} {t : Token} {r : Reading}

theorem reads_nil (side : Side) : Reads side [] {} where
  key := rfl
  continues := by simp [Continues]
  polarity := nofun
  ordered := Dict.ordered_empty
  condition _ := rfl

/-- What the reader does with a token is a matter of its role. -/
theorem token_eq (hw : t.word ≠ []) : r.token side t = match t.role, r.key, r.polarity with
    | .key, _, _ => r.openKey t.word
    | .value p, some key, _ => .ok (r.addValue side key t.word p)
    | .oneMore, some key, some p => .ok (r.addValue side key t.word p)
    | _, _, _ => .error (.misplaced (String.ofList t.run) (String.ofList t.word)) := by
  obtain ⟨run, word⟩ := t
  rw [token, if_neg hw]
  generalize hrole : Token.role ⟨run, word⟩ = role
  simp only [Token.role] at hrole
  split at hrole <;> subst hrole
  · rfl
  · rfl
  · cases r.key <;> rfl
  · cases r.key <;> rfl
  · cases r.key <;> cases r.polarity <;> rfl
  · split <;> simp_all

/-- Whatever has been read of a key is what is asked of it. -/
theorem Reads.getD_condition (h : Reads side ts r) (key : String) :
    (r.condition.get? key).getD {} = asked side ts key := by
  rw [h.condition]
  split
  · rfl
  · next hno =>
    have hnil : ∀ p, given key p [] ts = [] := fun p => given_eq_nil ts p hno
    simp only [Option.getD_none, asked, hnil, List.map_nil]

/-- A key is opened. Nothing is asked of it that was not asked before. -/
theorem Reads.openKey (h : Reads side ts r) (hw : Solid t.word) (hrole : t.role = .key) :
    (Positional t.word → ∃ r', r.openKey t.word = .ok r' ∧ Reads side (ts ++ [t]) r') ∧
      (¬ Positional t.word → r.openKey t.word = .error t.fault) := by
  rw [positional_iff hw, Decidable.not_not]
  refine ⟨fun hpos => ⟨_, if_neg hpos, ?_⟩, fun hpos => ?_⟩
  · have hlist : t.list? ts = none := by simp [Token.list?, Role.list?, hrole]
    have hgiven : ∀ key p, given key p [] (ts ++ [t]) = given key p [] ts := by
      intro key p
      simp [given_snoc, hlist]
    refine ⟨by simp [openKey?_snoc, hrole], by simp [continues_snoc, hrole], nofun,
      h.ordered.update _ _, fun key => ?_⟩
    have hasked : asked side (ts ++ [t]) key = asked side ts key := by simp [asked, hgiven]
    rw [Dict.get?_update, h.getD_condition, hasked, h.condition]
    by_cases hk : key = String.ofList t.word
    · subst hk
      simp [hasKey_snoc, hrole]
    · simp [hasKey_snoc, hk, Ne.symm hk]
  · rw [Reading.openKey, if_pos hpos, Token.fault, if_pos hrole]

/-- A value is given to the key that is open. -/
theorem Reads.addValue (h : Reads side ts r) (hrole : t.role ≠ .key) {key : String}
    (hkey : r.key = some key) {p : Polarity} (hp : t.list? ts = some p) :
    Reads side (ts ++ [t]) (r.addValue side key t.word p) := by
  have hopen : openKey? ts = some key := by rw [← h.key, hkey]
  have hopened : Opened ts := (isSome_openKey?_iff ts).1 (by simp [hopen])
  have hlast : t.role.list?.or (lastList? ts) = some p := by
    unfold Token.list? at hp
    split at hp
    · next hmore => simp [Role.list?, hmore, hp]
    · simp [hp]
  refine ⟨?_, ?_, ?_, h.ordered.update _ _, fun k => ?_⟩
  · simp [Reading.addValue, openKey?_snoc, hrole, h.key]
  · simp [Reading.addValue, continues_snoc, hrole, hopened]
  · rintro _ ⟨⟩
    rw [lastList?_snoc, hlast]
  · have hgiven : ∀ q, given k q [] (ts ++ [t]) = given k q [] ts ++
        if key = k ∧ p = q then [t.word] else [] := by
      intro q
      simp [given_snoc, hopen, hp]
    have hhas : HasKey (ts ++ [t]) k ↔ HasKey ts k := by simp [hasKey_snoc, hrole]
    simp only [Reading.addValue, Dict.get?_update, h.getD_condition, hhas]
    by_cases hk : key = k
    · subst hk
      rw [if_pos rfl, if_pos (hasKey_of_openKey? ts hopen)]
      cases p <;> simp [asked, hgiven, Test.add]
    · have hasked : asked side (ts ++ [t]) k = asked side ts k := by simp [asked, hgiven, hk]
      rw [if_neg (Ne.symm hk), h.condition, hasked]

/-- If a token fits it is read, and if not it is refused with what is wrong about it. -/
theorem Reads.token (h : Reads side ts r) (hw : Solid t.word) :
    (t.Fits ts → ∃ r', r.token side t = .ok r' ∧ Reads side (ts ++ [t]) r') ∧
      (¬ t.Fits ts → r.token side t = .error t.fault) := by
  rw [token_eq hw.ne_nil, Token.Fits]
  cases hrole : t.role with
  | key => exact h.openKey hw hrole
  | value p =>
    have hne : t.role ≠ .key := by simp [hrole]
    have hlist : t.list? ts = some p := by simp [Token.list?, Role.list?, hrole]
    rw [← isSome_openKey?_iff, ← h.key]
    cases hkey : r.key with
    | none => exact ⟨nofun, fun _ => by rw [Token.fault, if_neg hne]⟩
    | some key => exact ⟨fun _ => ⟨_, rfl, h.addValue hne hkey hlist⟩, fun hno => absurd rfl hno⟩
  | oneMore =>
    have hne : t.role ≠ .key := by simp [hrole]
    cases hp : r.polarity with
    | none =>
      have hno : ¬ Continues ts := by simp [← h.continues, hp]
      refine ⟨fun hyes => absurd hyes hno, fun _ => ?_⟩
      rw [Token.fault, if_neg hne]
      cases r.key <;> rfl
    | some p =>
      have hyes : Continues ts := by simp [← h.continues, hp]
      have hlist : t.list? ts = some p := by rw [Token.list?, if_pos hrole, h.polarity p hp]
      -- A value was given, so there is a key that it was given to.
      obtain ⟨key, hkey⟩ := Option.isSome_iff_exists.1 ((isSome_openKey?_iff ts).2 hyes.opened)
      rw [← h.key] at hkey
      rw [hkey]
      exact ⟨fun _ => ⟨_, rfl, h.addValue hne hkey hlist⟩, fun hno => absurd hyes hno⟩
  | misplaced => exact ⟨nofun, fun _ => by rw [Token.fault, if_neg (by simp [hrole])]⟩

/-! ## All tokens -/

/-- The words before this one fit, and this one does not. -/
structure Stops (ts before : List Token) (t : Token) : Prop where
  fits : Grammatical before
  not_fits : ¬ t.Fits before
  split : ∃ after, ts = before ++ t :: after

/-- The reader goes as far as the words fit. -/
theorem foldlM_cases (side : Side) {ts : List Token} (hts : ∀ t ∈ ts, Solid t.word) :
    (Grammatical ts ∧ ∃ r, ts.foldlM (token side) {} = .ok r ∧ Reads side ts r) ∨
      ∃ before t, Stops ts before t ∧ ts.foldlM (token side) {} = .error t.fault := by
  induction ts using List.reverseRecOn with
  | nil => exact .inl ⟨grammatical_nil, {}, rfl, reads_nil side⟩
  | append_singleton ts t ih =>
    obtain ⟨hwords, ht⟩ := List.forall_mem_append.1 hts
    have ht := ht t (List.mem_singleton_self t)
    rw [List.foldlM_append]
    rcases ih hwords with ⟨hfits, r, hr, hreads⟩ | ⟨before, u, hstops, hu⟩
    · rw [hr]
      obtain ⟨hread, hrefused⟩ := hreads.token ht
      by_cases hfit : t.Fits ts
      · obtain ⟨r', hr', hreads'⟩ := hread hfit
        refine .inl ⟨grammatical_snoc.2 ⟨hfits, hfit⟩, r', ?_, hreads'⟩
        show [t].foldlM (token side) r = _
        rw [List.foldlM_cons, hr']
        rfl
      · refine .inr ⟨ts, t, ⟨hfits, hfit, [], rfl⟩, ?_⟩
        show [t].foldlM (token side) r = _
        rw [List.foldlM_cons, hrefused hfit]
        rfl
    · obtain ⟨after, rfl⟩ := hstops.split
      refine .inr ⟨before, u, ⟨hstops.fits, hstops.not_fits, after ++ [t], by simp⟩, ?_⟩
      rw [hu]
      rfl

end Reading

/-! ## Whole texts -/

/-- The leftmost thing that is wrong in a text of these words with these separators at its end. -/
inductive Offends (ts : List Token) (run : List Char) : Fault → Prop
  | word {before : List Token} {t : Token} : Reading.Stops ts before t → Offends ts run t.fault
  | run : Grammatical ts → run ≠ [] → Offends ts run (.dangling (String.ofList run))

theorem Offends.not_grammatical {ts : List Token} {run : List Char} {f : Fault}
    (h : Offends ts run f) : ¬ (Grammatical ts ∧ run = []) := by
  rintro ⟨hfits, hrun⟩
  cases h with
  | word hstops =>
    obtain ⟨after, hts⟩ := hstops.split
    exact hstops.not_fits (hfits _ _ after hts)
  | run _ hne => exact hne hrun

namespace Condition

/-- The condition asks of each key that the words open what they give to it, and of no other. -/
structure MadeOf (side : Side) (ts : List Token) (c : Condition) : Prop where
  ordered : c.Ordered
  get? : ∀ key, c.get? key = if HasKey ts key then some (asked side ts key) else none

theorem parse_cases (side : Side) {s : List Char} {ts : List Token} {run : List Char}
    (h : Alternates s ts run) :
    (∃ c, parse side s = .ok c ∧ Grammatical ts ∧ run = [] ∧ MadeOf side ts c) ∨
      ∃ f, parse side s = .error f ∧ Offends ts run f := by
  rw [parse, h.scan_eq, List.foldlM_append]
  rcases Reading.foldlM_cases side h.solid with ⟨hfits, r, hr, hreads⟩ | ⟨before, t, hstops, ht⟩
  · rw [hr]
    by_cases hrun : run = []
    · subst hrun
      exact .inl ⟨r.condition, rfl, hfits, rfl, hreads.ordered, hreads.condition⟩
    · rw [Token.dangling, if_neg hrun]
      exact .inr ⟨_, rfl, .run hfits hrun⟩
  · rw [ht]
    exact .inr ⟨_, rfl, .word hstops⟩

/-- **Conditions are what the grammar says.** A text can be read in one way as words with separators
between them. It is a condition exactly if every word fits where it stands and nothing follows the
last one; then it asks of each key what its words give to the key. If not, it is refused for the
leftmost thing that is wrong. -/
theorem parse_iff_grammatical (side : Side) (s : List Char) :
    ∃ ts run, (∀ ts' run', Alternates s ts' run' ↔ ts' = ts ∧ run' = run) ∧
      ((∃ c, parse side s = .ok c) ↔ Grammatical ts ∧ run = []) ∧
      (∀ c, parse side s = .ok c → MadeOf side ts c) ∧
      ∀ f, parse side s = .error f → Offends ts run f := by
  obtain ⟨ts, run, h⟩ := exists_alternates s
  refine ⟨ts, run, fun ts' run' => ⟨h.unique, ?_⟩, ?_⟩
  · rintro ⟨rfl, rfl⟩
    exact h
  rcases parse_cases side h with ⟨c, hc, hfits, hrun, hmade⟩ | ⟨f, hf, hoffends⟩
  · rw [hc]
    refine ⟨⟨fun _ => ⟨hfits, hrun⟩, fun _ => ⟨c, rfl⟩⟩, ?_, nofun⟩
    rintro _ ⟨⟩
    exact hmade
  · rw [hf]
    refine ⟨⟨nofun, fun hboth => absurd hboth hoffends.not_grammatical⟩, nofun, ?_⟩
    rintro _ ⟨⟩
    exact hoffends

/-- The first word can only be a key, so a condition asks for something. -/
theorem isEmpty_of_parse {side : Side} {s : List Char} {c : Condition} (h : parse side s = .ok c)
    (hs : ¬ ∀ x ∈ s, Text.isBlank x = true) : c.isEmpty = false := by
  obtain ⟨ts, run, hwords⟩ := exists_alternates s
  rcases parse_cases side hwords with ⟨c', hc, hfits, hrun, hmade⟩ | ⟨f, hf, -⟩
  · obtain rfl : c' = c := Except.ok.inj (hc.symm.trans h)
    cases ts with
    | nil =>
      cases hwords with
      | gap hg => exact absurd ((filter_isSeparator_eq_nil_iff hg).1 hrun) hs
    | cons t ts =>
      have hrole : t.role = .key := by
        have hfit := hfits [] t ts rfl
        unfold Token.Fits at hfit
        split at hfit
        · assumption
        · exact absurd hfit (by simp [Opened])
        · exact absurd hfit.opened (by simp [Opened])
        · exact hfit.elim
      have hkey := hmade.get? (String.ofList t.word)
      rw [if_pos ⟨t, List.mem_cons_self, hrole, rfl⟩] at hkey
      exact Dict.isEmpty_eq_false hkey
  · rw [hf] at h
    cases h

/-- The second list of a key goes on where the first one stopped. -/
example : (parse .call "a=1,2 & b!=x & a=3,4".toList).toOption.map (·.get? "a") =
    some (some { accepted := [.exact "1", .exact "2", .exact "3", .exact "4"] }) := by
  decide +kernel

end Condition
end CallRouting.Clause
