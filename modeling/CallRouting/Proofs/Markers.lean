import CallRouting.Proofs.ClauseText
import CallRouting.Proofs.Grammar

/-!
# Markers

The markers `consumer.` and `provider.` say on which side a key is looked up. They are dropped from
the text of a clause before it is read, and so from all of its words: from keys, which is what they
are for, but from values too, and a word of markers only is gone altogether.

* `unmarked_append_cons` : no marker reaches over a gap, so words lose their markers one by one;
* `unmarked_eq_self_iff` : what has no marker is kept, and nothing else;
* `Alike`, `alike_of_unmarked_eq` : of a word nothing counts but what is left of it;
* `parts_trim` : where the parts are cut does not depend on the blanks around the clause;
* `compile_host`, `hostAsWritten_iff` : a host is accepted as it is written exactly if there is no
  marker in it;
* `UsedUp`, `special_iff` : a part counts as blank if its words are made of markers;
* `markers_dropped` : all of that, for every clause.
-/

namespace CallRouting.Clause

/-! ## Dropping markers -/

def markers : List (List Char) := ["consumer.".toList, "provider.".toList]

/-- No marker has this character. -/
def Divides (d : Char) : Prop := ∀ m ∈ markers, d ∉ m

theorem solid_of_mem_markers : ∀ m ∈ markers, Solid m := by decide +kernel

theorem divides_of_isGap {d : Char} (h : isGap d = true) : Divides d := by
  intro m hm hd
  rw [(solid_of_mem_markers m hm).notGap d hd] at h
  exact Bool.false_ne_true h

@[simp] theorem unmarked_nil : unmarked [] = [] := by decide +kernel

theorem unmarked_append_cons {d : Char} (hd : Divides d) (a b : List Char) :
    unmarked (a ++ d :: b) = unmarked a ++ d :: unmarked b := by
  obtain ⟨hconsumer, hprovider, -⟩ := List.forall_mem_cons.1 hd |>.imp_right List.forall_mem_cons.1
  rw [unmarked, Text.remove_append_cons hconsumer, Text.remove_append_cons hprovider]
  rfl

theorem unmarked_append_of_last {a : List Char} (h : ∀ c ∈ a.getLast?, Divides c) (b : List Char) :
    unmarked (a ++ b) = unmarked a ++ unmarked b := by
  rcases List.eq_nil_or_concat a with rfl | ⟨a, d, rfl⟩
  · simp
  · rw [List.concat_eq_append] at h ⊢
    have hd : Divides d := h d (by simp)
    rw [List.append_assoc, List.singleton_append, unmarked_append_cons hd, unmarked_append_cons hd,
      unmarked_nil, List.append_assoc]
    rfl

theorem unmarked_cons {d : Char} (hd : Divides d) (b : List Char) :
    unmarked (d :: b) = d :: unmarked b := by
  simpa using unmarked_append_cons hd [] b

theorem unmarked_append_of_head (a : List Char) {b : List Char} (h : ∀ c ∈ b.head?, Divides c) :
    unmarked (a ++ b) = unmarked a ++ unmarked b := by
  cases b with
  | nil => simp
  | cons d b =>
    have hd : Divides d := h d rfl
    rw [unmarked_append_cons hd, unmarked_cons hd]

theorem unmarked_eq_self_iff (s : List Char) : unmarked s = s ↔ ∀ m ∈ markers, ¬ m <:+: s := by
  have hsub := Text.remove_sublist "consumer.".toList s
  have hsub' := Text.remove_sublist "provider.".toList (Text.remove "consumer.".toList s)
  simp only [markers, List.forall_mem_cons, List.not_mem_nil, false_imp_iff, implies_true, and_true]
  rw [← Text.remove_eq_self_iff (by decide), ← Text.remove_eq_self_iff (by decide)]
  constructor
  · intro h
    -- Nothing was lost on the way, so both steps kept everything.
    rw [unmarked] at h
    rw [h] at hsub'
    have hconsumer := hsub.antisymm hsub'
    rw [hconsumer] at h
    exact ⟨hconsumer, h⟩
  · rintro ⟨hconsumer, hprovider⟩
    rw [unmarked, hconsumer, hprovider]

theorem unmarked_sublist (s : List Char) : (unmarked s).Sublist s :=
  (Text.remove_sublist _ _).trans (Text.remove_sublist _ s)

theorem unmarked_of_forall {g : List Char} (h : ∀ c ∈ g, isGap c = true) : unmarked g = g := by
  refine (unmarked_eq_self_iff g).2 fun m hm hin => ?_
  have hsolid := solid_of_mem_markers m hm
  obtain ⟨c, hc⟩ := List.exists_mem_of_ne_nil m hsolid.ne_nil
  have hgap := hsolid.notGap c hc
  rw [h c (hin.subset hc)] at hgap
  cases hgap

/-- A marker at the beginning goes, and what comes after it is as if it had not been there. -/
theorem unmarked_marker_append {m : List Char} (hm : m ∈ markers) (s : List Char) :
    unmarked (m ++ s) = unmarked s := by
  simp only [markers, List.mem_cons, List.not_mem_nil, or_false] at hm
  rcases hm with rfl | rfl
  · rw [unmarked, Text.remove_append_self (by decide)]
    rfl
  · have hkept : Text.remove "consumer.".toList ("provider.".toList ++ s) =
        "provider.".toList ++ Text.remove "consumer.".toList s :=
      Text.remove_append_of_notMem (by decide) s
    rw [unmarked, hkept, Text.remove_append_self (by decide)]
    rfl

/-! ## Words -/

/-- A text after which a word can begin. -/
def Leads (s : List Char) : Prop := ∀ c ∈ s.getLast?, isGap c = true ∨ c = '>'

theorem Leads.divides {s : List Char} (h : Leads s) : ∀ c ∈ s.getLast?, Divides c := by
  intro c hc
  rcases h c hc with hgap | rfl
  · exact divides_of_isGap hgap
  · unfold Divides
    decide

/-- Both texts are refused, or both leave the same of every pool for every call. -/
def Alike (r r' : Except CompileError Clause) : Prop :=
  r.toOption.map apply = r'.toOption.map apply

/-- Nothing counts but what the parts are read to. -/
theorem alike_of_parts {s t : List Char} (hs : Text.trim s ≠ []) (ht : Text.trim t ≠ [])
    (hwhen : parseWhen (parts (unmarked (Text.trim s))).1 =
      parseWhen (parts (unmarked (Text.trim t))).1)
    (hthen : parseThen (parts (unmarked (Text.trim s))).2 =
      parseThen (parts (unmarked (Text.trim t))).2) (force : Bool) :
    Alike (compile (String.ofList s) force) (compile (String.ofList t) force) := by
  simp only [Alike, compile, String.toList_ofList, if_neg hs, if_neg ht, hwhen, hthen]
  cases parseWhen (parts (unmarked (Text.trim t))).1 with
  | error f => rfl
  | ok w => cases parseThen (parts (unmarked (Text.trim t))).2 <;> rfl

/-- Markers are dropped from a word and from what stands around it apart from each other. -/
theorem unmarked_trim_around {before after w : List Char} (hbefore : Leads before)
    (hafter : Open after) (hw : Solid w) :
    unmarked (Text.trim (before ++ (w ++ after))) =
      unmarked (Text.trimStart before) ++ (unmarked w ++ unmarked (Text.trimEnd after)) := by
  obtain ⟨l, hl, -⟩ := Text.exists_trimStart before
  obtain ⟨r, hr, -⟩ := Text.exists_trimEnd after
  have hstart : Leads (Text.trimStart before) := by
    intro c hc
    refine hbefore c ?_
    rw [hl, List.getLast?_append, Option.mem_def.1 hc]
    rfl
  have hend : Open (Text.trimEnd after) := by
    intro c hc
    refine hafter c ?_
    rw [hr, List.head?_append, Option.mem_def.1 hc]
    rfl
  rw [Text.trim_around (.of_forall hw.ne_nil hw.notBlank) (.of_forall hw.ne_nil hw.notBlank),
    unmarked_append_of_last hstart.divides,
    unmarked_append_of_head w fun c hc => divides_of_isGap (hend c hc)]

theorem trim_around_ne_nil {before after w : List Char} (hw : Solid w) :
    Text.trim (before ++ (w ++ after)) ≠ [] := by
  rw [Text.trim_around (.of_forall hw.ne_nil hw.notBlank) (.of_forall hw.ne_nil hw.notBlank)]
  simp [hw.ne_nil]

/-- Of a word nothing counts but what is left of it without markers. -/
theorem alike_of_unmarked_eq {before after v w : List Char} (hbefore : Leads before)
    (hafter : Open after) (hv : Solid v) (hw : Solid w) (h : unmarked v = unmarked w)
    (force : Bool) :
    Alike (compile (String.ofList (before ++ (v ++ after))) force)
      (compile (String.ofList (before ++ (w ++ after))) force) := by
  have heq : unmarked (Text.trim (before ++ (v ++ after))) =
      unmarked (Text.trim (before ++ (w ++ after))) := by
    rw [unmarked_trim_around hbefore hafter hv, unmarked_trim_around hbefore hafter hw, h]
  exact alike_of_parts (trim_around_ne_nil hv) (trim_around_ne_nil hw) (by rw [heq]) (by rw [heq])
    force

theorem solid_marker_append {m w : List Char} (hm : m ∈ markers) (hw : Solid w) :
    Solid (m ++ w) where
  ne_nil h := hw.ne_nil (List.append_eq_nil_iff.1 h).2
  notGap := List.forall_mem_append.2 ⟨(solid_of_mem_markers m hm).notGap, hw.notGap⟩

theorem Solid.unmarked {w : List Char} (hw : Solid w) (hne : unmarked w ≠ []) :
    Solid (unmarked w) where
  ne_nil := hne
  notGap c hc := hw.notGap c ((unmarked_sublist w).subset hc)

/-! ## Hosts -/

/-- The conjunction `host = w`. -/
def hostIs (w : Word) : Conjunction where
  first :=
    { key := ⟨"host".toList, by decide⟩
      listings := [⟨.accepted, w, []⟩]
      position := fun h => absurd h (by decide) }
  more := []

theorem text_hostIs (w : Word) : (hostIs w).text = "host = ".toList ++ w.chars := by
  simp [hostIs, Conjunction.text, Group.text, Listing.text, Polarity.sign]

theorem holds_hostIs_iff (w : Word) (call : Call) (e : Endpoint) :
    (hostIs w).Holds .endpoint call e.lookup ↔ w.Fits .endpoint call e.host := by
  simp [hostIs, Conjunction.Holds, Conjunction.groups, Conjunction.Passes, Conjunction.values,
    Group.values, Listing.values, Listing.words, Word.text, Endpoint.lookup]

theorem parseThen_hostIs (w : Word) :
    parseThen (Text.trim (" host = ".toList ++ w.chars)) =
      .ok (some ((hostIs w).condition .endpoint)) := by
  have htrim : Text.trim (" host = ".toList ++ w.chars) = (hostIs w).text := by
    have hpad := Text.trim_blank_append Text.isBlank_space (hostIs w).text
    rw [Text.trim_bare (hostIs w).bare_text] at hpad
    rwa [text_hostIs] at hpad ⊢
  have hspecial : ¬ ((hostIs w).text = [] ∨ (hostIs w).text = "false".toList) := by
    simp [text_hostIs]
  rw [htrim, parseThen, if_neg hspecial, (hostIs w).parse_text]
  rfl

theorem parseThen_noHost : parseThen (Text.trim " host = ".toList) = .error (.dangling "=") := by
  have htrim : Text.trim " host = ".toList = "host =".toList := by decide +kernel
  have hscan : Token.scan "host =".toList = [⟨[], "host".toList⟩, ⟨['='], []⟩] := by
    decide +kernel
  have hkey : Reading.token .endpoint {} ⟨[], "host".toList⟩ = .ok
      { condition := Dict.empty.update "host" (·.getD {}), key := some "host" } :=
    if_neg (by decide +kernel)
  rw [htrim, parseThen, if_neg (by decide), Condition.parse, hscan, List.foldlM_cons, hkey]
  rfl

/-- The clause `=> host = v` says that the host is `v` without its markers. -/
theorem compile_host {v : List Char} (hv : Solid v) (force : Bool) :
    let source := "=> host = ".toList ++ v
    compile (String.ofList source) force =
      if h : unmarked v = [] then .error (.fault (String.ofList source) (.dangling "="))
      else .ok
        { source := String.ofList source
          force
          whenPart := .empty
          thenPart := some ((hostIs ⟨unmarked v, hv.unmarked h⟩).condition .endpoint) } := by
  intro source
  have hstart : Text.Starts source := ⟨'=', _, rfl, by decide⟩
  have hend : Text.Ends source := (Text.Ends.of_forall hv.ne_nil hv.notBlank).append _
  have htrim : Text.trim source = source := Text.trim_bare (hstart.bare hend)
  have hunmarked : unmarked source = arrow ++ (" host = ".toList ++ unmarked v) := by
    have hlead : Leads "=> host = ".toList := by
      rintro _ ⟨⟩
      exact Or.inl (by decide)
    have hkept : unmarked "=> host = ".toList = "=> host = ".toList :=
      (unmarked_eq_self_iff _).2 (by decide +kernel)
    rw [unmarked_append_of_last hlead.divides, hkept]
    rfl
  have hparts : parts (unmarked source) = ([], Text.trim (" host = ".toList ++ unmarked v)) := by
    rw [hunmarked, parts, ← List.nil_append (arrow ++ _), Text.Skips.nil.cut?_append]
    rfl
  have hne : source ≠ [] := by simp [source]
  have hwhen : parseWhen [] = .ok .empty := rfl
  by_cases h : unmarked v = []
  · rw [h, List.append_nil] at hparts
    simp only [compile, String.toList_ofList, htrim, if_neg hne, hparts, hwhen, parseThen_noHost,
      dif_pos h]
  · have hthen := parseThen_hostIs ⟨unmarked v, hv.unmarked h⟩
    simp only [compile, String.toList_ofList, htrim, if_neg hne, hparts, hwhen, hthen, dif_neg h]

/-- A host without markers is read as it stands. -/
theorem compile_plainHost {v : List Char} (hv : Solid v) (hmarkers : ∀ m ∈ markers, ¬ m <:+: v)
    (force : Bool) :
    compile (String.ofList ("=> host = ".toList ++ v)) force = .ok
      { source := String.ofList ("=> host = ".toList ++ v)
        force
        whenPart := .empty
        thenPart := some ((hostIs ⟨v, hv⟩).condition .endpoint) } := by
  have hkept : unmarked v = v := (unmarked_eq_self_iff v).2 hmarkers
  have hne : unmarked v ≠ [] := by
    rw [hkept]
    exact hv.ne_nil
  have hword : (⟨unmarked v, hv.unmarked hne⟩ : Word) = ⟨v, hv⟩ := Word.ext hkept
  rw [← hword]
  exact (compile_host hv force).trans (dif_neg hne)

/-- The clause `=> host = v` accepts the host `v` and no other. -/
def HostAsWritten (v : List Char) (force : Bool) : Prop :=
  ∃ c, compile (String.ofList ("=> host = ".toList ++ v)) force = .ok c ∧
    ∀ call e, c.accepts call e = true ↔ e.host = String.ofList v

theorem accepts_hostIs_iff {c : Clause} {w : Word}
    (h : c.thenPart = some ((hostIs w).condition .endpoint)) (call : Call) (e : Endpoint) :
    c.accepts call e = true ↔ w.Fits .endpoint call e.host := by
  rw [← holds_hostIs_iff, accepts, h]
  exact (hostIs w).holds_condition_iff (fun _ => rfl) e.lookup

/-- Of an empty call nothing is known. -/
theorem lookup_empty (key : String) : Call.lookup {} key = none := by
  unfold Call.lookup
  repeat' split
  all_goals rfl

/-- A word without `*` fits for an empty call only what it is. -/
theorem Word.eq_of_fits {w : Word} {value : String} (hstar : '*' ∉ w.chars)
    (h : w.Fits .endpoint {} value) : w.chars = value.toList := by
  unfold Fits at h
  split at h
  · rw [lookup_empty] at h
    cases h
  · exact (stands_iff_eq hstar).1 h

theorem Word.reference?_eq_none {w : Word} (h : w.chars.head? ≠ some '$') (side : Side) :
    w.reference? side = none := by
  unfold reference?
  split
  · rfl
  · split
    · next hchars => simp [hchars] at h
    · rfl

/-- A word that is neither a pattern nor a reference fits itself and nothing else. -/
theorem Word.fits_iff_eq {w : Word} (hstar : '*' ∉ w.chars) (href : w.chars.head? ≠ some '$')
    (call : Call) (value : String) :
    w.Fits .endpoint call value ↔ value = String.ofList w.chars := by
  rw [Fits, Word.reference?_eq_none href, eq_comm (a := value), ← String.toList_inj,
    String.toList_ofList]
  exact stands_iff_eq hstar

theorem hostAsWritten_iff {v : List Char} (hv : Solid v) (hstar : '*' ∉ v)
    (href : v.head? ≠ some '$') (force : Bool) :
    HostAsWritten v force ↔ ∀ m ∈ markers, ¬ m <:+: v := by
  rw [← unmarked_eq_self_iff, HostAsWritten, compile_host hv]
  constructor
  · rintro ⟨c, hc, haccepts⟩
    split at hc
    · cases hc
    · next hne =>
      obtain rfl := Except.ok.inj hc
      let e : Endpoint := { id := "", host := String.ofList v }
      have hfits := (accepts_hostIs_iff rfl {} e).1 ((haccepts {} e).2 rfl)
      have hstar' : '*' ∉ unmarked v := fun h => hstar ((unmarked_sublist v).subset h)
      exact (Word.eq_of_fits hstar' hfits).trans String.toList_ofList
  · intro hkept
    have hne : unmarked v ≠ [] := by
      rw [hkept]
      exact hv.ne_nil
    have hword : ⟨unmarked v, hv.unmarked hne⟩ = (⟨v, hv⟩ : Word) := Word.ext hkept
    rw [dif_neg hne]
    refine ⟨_, rfl, fun call e => ?_⟩
    rw [accepts_hostIs_iff rfl, hword]
    exact Word.fits_iff_eq hstar href call e.host

/-! ## Parts -/

/-- Nothing of the text is left but blanks once the markers are gone: it has no separators, and its
words are made of markers. -/
def UsedUp (s : List Char) : Prop := ∀ t ∈ Token.scan s, t.run = [] ∧ unmarked t.word = []

instance (s : List Char) : Decidable (UsedUp s) :=
  inferInstanceAs (Decidable (∀ t ∈ Token.scan s, _))

theorem Solid.blank_unmarked_iff {w : List Char} (hw : Solid w) :
    (∀ c ∈ Clause.unmarked w, Text.isBlank c = true) ↔ Clause.unmarked w = [] := by
  refine ⟨fun h => ?_, fun h => by rw [h]; nofun⟩
  refine List.eq_nil_iff_forall_not_mem.2 fun c hc => ?_
  have hnot := hw.notBlank c ((unmarked_sublist w).subset hc)
  rw [h c hc] at hnot
  cases hnot

theorem Alternates.usedUp_iff {s run : List Char} {ts : List Token} (h : Alternates s ts run) :
    UsedUp s ↔ ∀ c ∈ unmarked s, Text.isBlank c = true := by
  rw [UsedUp, h.scan_eq]
  induction h with
  | gap hg =>
    rw [unmarked_of_forall hg, ← filter_isSeparator_eq_nil_iff hg, List.nil_append, Token.dangling]
    split <;> simp_all
  | @word g w rest ts run hg hw hopen _ ih =>
    have hopen' : ∀ c ∈ rest.head?, Divides c := fun c hc => divides_of_isGap (hopen c hc)
    have hg' : ∀ c ∈ g.getLast?, Divides c :=
      fun c hc => divides_of_isGap (hg c (List.mem_of_getLast? hc))
    rw [unmarked_append_of_last hg', unmarked_append_of_head w hopen', unmarked_of_forall hg,
      List.cons_append, List.forall_mem_cons, ih, List.forall_mem_append, List.forall_mem_append,
      hw.blank_unmarked_iff, filter_isSeparator_eq_nil_iff hg, and_assoc]

theorem usedUp_iff (s : List Char) : UsedUp s ↔ Text.trim (unmarked s) = [] := by
  obtain ⟨ts, run, h⟩ := exists_alternates s
  rw [h.usedUp_iff, Text.trim_eq_nil_iff]

/-- The arrow that is written is the one that is found, if there is none before it. -/
theorem cut?_arrow {a : List Char} (h : ¬ arrow <:+: a) (b : List Char) :
    Text.cut? arrow (a ++ (arrow ++ b)) = some (a, b) := by
  induction a with
  | nil => exact Text.Skips.nil.cut?_append b
  | cons c a ih =>
    have hrest : ¬ arrow <:+: a := fun hi => h (hi.trans (List.suffix_cons c a).isInfix)
    have hstart : ¬ arrow.isPrefixOf (c :: (a ++ (arrow ++ b))) = true := by
      intro hp
      cases a with
      | nil => simp at hp
      | cons d a =>
        have hall : c :: d :: a <+: c :: d :: a ++ (arrow ++ b) := List.prefix_append _ _
        have hp' := List.prefix_of_prefix_length_le (List.isPrefixOf_iff_prefix.1 hp) hall (by simp)
        exact h hp'.isInfix
    rw [List.cons_append, Text.cut?, if_neg hstart, ih hrest]
    rfl

/-- No arrow is found in a text that has none, if it cannot end in the middle of one. -/
theorem skips_of_noArrow {a : List Char} (h : ¬ arrow <:+: a)
    (hlast : ∀ c ∈ a.getLast?, c ≠ '=') : Text.Skips arrow a := by
  intro s
  induction a with
  | nil => simp
  | cons c a ih =>
    have hrest : ¬ arrow <:+: a := fun hi => h (hi.trans (List.suffix_cons c a).isInfix)
    have hstart : ¬ arrow.isPrefixOf (c :: (a ++ s)) = true := by
      intro hp
      cases a with
      | nil =>
        obtain ⟨rfl, -⟩ : '=' = c ∧ _ := by simpa using hp
        exact hlast '=' rfl rfl
      | cons d a =>
        obtain ⟨rfl, rfl⟩ : '=' = c ∧ '>' = d := by simpa using hp
        exact h (List.prefix_append arrow a).isInfix
    have hlast' : ∀ d ∈ a.getLast?, d ≠ '=' := fun d hd =>
      hlast d (by rw [List.getLast?_cons, Option.mem_def.1 hd]; rfl)
    rw [List.cons_append, Text.cut?, if_neg hstart, ih hrest hlast', Option.map_map]
    rfl

theorem unmarked_pad {l r : List Char} (hl : ∀ c ∈ l, Text.isBlank c = true)
    (hr : ∀ c ∈ r, Text.isBlank c = true) (s : List Char) :
    unmarked (l ++ (s ++ r)) = l ++ (unmarked s ++ r) := by
  have hl' : ∀ c ∈ l.getLast?, Divides c :=
    fun c hc => divides_of_isGap (isGap_of_isBlank (hl c (List.mem_of_getLast? hc)))
  have hr' : ∀ c ∈ r.head?, Divides c :=
    fun c hc => divides_of_isGap (isGap_of_isBlank (hr c (List.mem_of_mem_head? hc)))
  rw [unmarked_append_of_last hl', unmarked_append_of_head s hr',
    unmarked_of_forall fun c hc => isGap_of_isBlank (hl c hc),
    unmarked_of_forall fun c hc => isGap_of_isBlank (hr c hc)]

theorem notMem_arrow {d : Char} (h : Text.isBlank d = true) : d ∉ arrow := by
  rintro hd
  simp only [List.mem_cons, List.not_mem_nil, or_false] at hd
  rcases hd with rfl | rfl <;> exact absurd h (by decide)

/-- The parts of a clause do not depend on the blanks around it. -/
theorem parts_trim (s : List Char) : parts (unmarked (Text.trim s)) = parts (unmarked s) := by
  obtain ⟨l, r, hs, hl, hr⟩ := Text.exists_trim s
  have hpad := unmarked_pad hl hr (Text.trim s)
  rw [← hs] at hpad
  have hskip : Text.Skips arrow l := .of_forall_ne fun c hc heq =>
    notMem_arrow (hl c hc) (by simp [heq])
  rw [hpad, parts, parts, hskip]
  cases hcut : Text.cut? arrow (unmarked (Text.trim s)) with
  | some p =>
    rw [Text.cut?_append_right (by simp) hcut]
    simp only [Option.map_some]
    rw [Text.trim_blank_append hl, Text.trim_append_blank hr]
  | none =>
    have hnone : Text.cut? arrow (unmarked (Text.trim s) ++ r) = none := by
      rw [Text.cut?_eq_none_iff] at hcut ⊢
      cases r with
      | nil => rwa [List.append_nil]
      | cons d r =>
        have hblank : ¬ arrow <:+: r := fun hin =>
          notMem_arrow (hr '=' (List.mem_cons_of_mem d (hin.subset List.mem_cons_self)))
            List.mem_cons_self
        rw [Text.infix_append_cons_iff (notMem_arrow (hr d List.mem_cons_self))]
        exact not_or.2 ⟨hcut, hblank⟩
    rw [hnone]
    simp only [Option.map_none]
    rw [Text.trim_blank_append hl, Text.trim_append_blank hr]

/-- The parts of a clause are what stands before and after its arrow, without the markers. -/
theorem parts_arrow {before : List Char} (h : ¬ arrow <:+: unmarked before) (after : List Char) :
    parts (unmarked (Text.trim (before ++ (arrow ++ after)))) =
      (Text.trim (unmarked before), Text.trim (unmarked after)) := by
  have hequals : ∀ c ∈ (arrow ++ after).head?, Divides c := by
    rintro _ ⟨⟩
    exact divides_of_isGap (by decide)
  have hlead : Leads arrow := by
    rintro _ ⟨⟩
    exact Or.inr rfl
  rw [parts_trim, unmarked_append_of_head _ hequals, unmarked_append_of_last hlead.divides,
    (unmarked_eq_self_iff arrow).2 (by decide), parts, cut?_arrow h]

/-- Without an arrow all is then-part. -/
theorem parts_noArrow {s : List Char} (h : ¬ arrow <:+: unmarked s) :
    parts (unmarked (Text.trim s)) = ([], Text.trim (unmarked s)) := by
  rw [parts_trim, parts, Text.cut?_eq_none_iff.2 h]

theorem trim_parts (s : List Char) :
    Text.trim (parts s).1 = (parts s).1 ∧ Text.trim (parts s).2 = (parts s).2 := by
  unfold parts
  split
  · exact ⟨Text.trim_trim _, Text.trim_trim _⟩
  · exact ⟨rfl, Text.trim_trim _⟩

theorem isEmpty_parseWhen {s : List Char} {w : Condition} (h : parseWhen s = .ok w)
    (hs : Text.trim s = s) : w.isEmpty = true ↔ s = [] ∨ s = "true".toList := by
  rcases parseWhen_cases h with ⟨hspecial, rfl⟩ | ⟨hspecial, hparse⟩
  · exact iff_of_true rfl hspecial
  · refine iff_of_false ?_ hspecial
    have hblank : ¬ ∀ c ∈ s, Text.isBlank c = true := by
      rw [← Text.trim_eq_nil_iff, hs]
      exact fun hnil => hspecial (Or.inl hnil)
    rw [Condition.isEmpty_of_parse hparse hblank]
    exact Bool.false_ne_true

theorem isNone_parseThen {s : List Char} {t : Option Condition} (h : parseThen s = .ok t) :
    t.isNone = true ↔ s = [] ∨ s = "false".toList := by
  rcases parseThen_cases h with ⟨hspecial, rfl⟩ | ⟨hspecial, c, -, rfl⟩
  · exact iff_of_true rfl hspecial
  · exact iff_of_false Bool.false_ne_true hspecial

/-- When a clause is for every call, and when it is a blacklist. -/
theorem special_iff {s before after : List Char} {force : Bool} {c : Clause}
    (h : compile (String.ofList s) force = .ok c)
    (hparts : parts (unmarked (Text.trim s)) = (before, after)) :
    (c.everyCall = true ↔ before = [] ∨ before = "true".toList) ∧
      (c.blacklists = true ↔ after = [] ∨ after = "false".toList) := by
  have htrim := (trim_parts (unmarked (Text.trim s))).1
  obtain ⟨-, hw, ht, -, -⟩ := compiled_of_compile h
  rw [String.toList_ofList, hparts] at hw ht
  rw [hparts] at htrim
  exact ⟨isEmpty_parseWhen hw htrim, isNone_parseThen ht⟩

/-! ## Clauses with markers -/

/-- **Markers are dropped wherever they stand.** A key means the same with a marker before it and
without. But of every word, be it a key or a value, nothing counts except what is left of it without
markers; a host is accepted as it is written exactly if no marker occurs in it; and a part counts as
blank not only if it is, but also if its words are made of markers, or as `true` or `false` if that
is what is left of it. -/
theorem markers_dropped (force : Bool) :
    (∀ m ∈ markers, ∀ before key after, Leads before → Solid key → Open after →
      Alike (compile (String.ofList (before ++ (m ++ key ++ after))) force)
        (compile (String.ofList (before ++ (key ++ after))) force)) ∧
    (∀ before v w after, Leads before → Solid v → Solid w → Open after → unmarked v = unmarked w →
      Alike (compile (String.ofList (before ++ (v ++ after))) force)
        (compile (String.ofList (before ++ (w ++ after))) force)) ∧
    (∀ v, Solid v → '*' ∉ v → v.head? ≠ some '$' →
      (HostAsWritten v force ↔ ∀ m ∈ markers, ¬ m <:+: v)) ∧
    (∀ before after c, ¬ arrow <:+: unmarked before →
      compile (String.ofList (before ++ (arrow ++ after))) force = .ok c →
      (c.everyCall = true ↔ UsedUp before ∨ Text.trim (unmarked before) = "true".toList) ∧
        (c.blacklists = true ↔ UsedUp after ∨ Text.trim (unmarked after) = "false".toList)) ∧
    (∀ s c, ¬ arrow <:+: unmarked s → compile (String.ofList s) force = .ok c →
      c.everyCall = true ∧
        (c.blacklists = true ↔ UsedUp s ∨ Text.trim (unmarked s) = "false".toList)) := by
  refine ⟨fun m hm before key after hbefore hkey hafter => ?_,
    fun before v w after hbefore hv hw hafter h => alike_of_unmarked_eq hbefore hafter hv hw h force,
    fun v hv hstar href => hostAsWritten_iff hv hstar href force, fun before after c h hc => ?_,
    fun s c h hc => ?_⟩
  · exact alike_of_unmarked_eq hbefore hafter (solid_marker_append hm hkey) hkey
      (unmarked_marker_append hm key) force
  · rw [usedUp_iff, usedUp_iff]
    exact special_iff hc (parts_arrow h after)
  · obtain ⟨hevery, hblack⟩ := special_iff hc (parts_noArrow h)
    rw [usedUp_iff]
    exact ⟨hevery.2 (Or.inl rfl), hblack⟩

theorem markers_dropped_region :
    Alike (compile "consumer.region=a => zone=b" true) (compile "region=a => zone=b" true) ∧
      Alike (compile "=> host = consumer.a" true) (compile "=> host = a" true) ∧
      HostAsWritten ['a'] true ∧ ¬ HostAsWritten "consumer.a".toList true ∧
      (∃ c, compile "consumer. => provider." true = .ok c ∧ c.everyCall = true ∧ c.blacklists = true) ∧
      ∃ c, compile "provider." true = .ok c ∧ c.everyCall = true ∧ c.blacklists = true := by
  obtain ⟨hkey, hword, hhost, harrow, hbare⟩ := markers_dropped true
  have hlead : Leads "=> host = ".toList := by
    rintro _ ⟨⟩
    exact Or.inl (by decide)
  have hregion := hkey "consumer.".toList (by decide) [] "region".toList "=a => zone=b".toList nofun
    (by decide) (open_cons (by decide))
  have ha := hword "=> host = ".toList "consumer.a".toList ['a'] [] hlead (by decide) (by decide)
    open_nil (by decide +kernel)
  refine ⟨?_, ?_, (hhost ['a'] (by decide) (by decide) (by decide)).2 (by decide), fun h => ?_, ?_, ?_⟩
  · rwa [show String.ofList _ = "consumer.region=a => zone=b" by decide +kernel,
      show String.ofList _ = "region=a => zone=b" by decide +kernel] at hregion
  · rwa [show String.ofList _ = "=> host = consumer.a" by decide +kernel,
      show String.ofList _ = "=> host = a" by decide +kernel] at ha
  · exact (hhost "consumer.a".toList (by decide) (by decide) (by decide)).1 h
      "consumer.".toList (by decide) (by decide)
  · let c : Clause :=
      { source := "consumer. => provider.", force := true, whenPart := .empty, thenPart := none }
    have hc : compile (String.ofList ("consumer. ".toList ++ (arrow ++ " provider.".toList))) true =
      .ok c := by decide +kernel
    have hiff := harrow _ _ c (by decide +kernel) hc
    exact ⟨c, by decide +kernel, hiff.1.2 (Or.inl (by decide +kernel)),
      hiff.2.2 (Or.inl (by decide +kernel))⟩
  · let c : Clause := { source := "provider.", force := true, whenPart := .empty, thenPart := none }
    have hc : compile (String.ofList "provider.".toList) true = .ok c := by decide +kernel
    have hboth := hbare _ c (by decide +kernel) hc
    exact ⟨c, by decide +kernel, hboth.1, hboth.2.2 (Or.inl (by decide +kernel))⟩

/-- A host that has a marker in its name is not accepted as it is written. -/
theorem not_hostAsWritten :
    ¬ ∀ v, Solid v → '*' ∉ v → v.head? ≠ some '$' → HostAsWritten v true := by
  intro h
  have hconsumer := h "consumer.a".toList (by decide) (by decide) (by decide)
  exact (hostAsWritten_iff (by decide) (by decide) (by decide) true).1 hconsumer
    "consumer.".toList (by decide) (by decide)

end CallRouting.Clause
