import CallRouting.Proofs.ConditionText

/-!
# Clauses read from their texts

A clause that is written as the grammar has it is compiled, and does what its tree means.

* `Tree.before`, `Tree.after`, `trim_text` : the two sides of the arrow in the trimmed text;
* `parts_source` : the arrow that is found is the one that joins the parts;
* `Tree.Plain` : the texts in which nothing but the grammar counts;
* `Tree.compile_text` : the clause that is compiled, and what it leaves of a pool.
-/

namespace CallRouting.Clause

/-! ## The arrow -/

abbrev arrow : List Char := ['=', '>']

theorem ne_of_isGap_eq_false {c : Char} (h : isGap c = false) : c ≠ '=' := by
  rintro rfl
  exact absurd h (by decide)

theorem skips_word (w : Word) : Text.Skips arrow w.chars :=
  .of_forall_ne fun c hc => ne_of_isGap_eq_false (w.solid.notGap c hc)

/-- The sign of equality begins no arrow, since a blank follows it. -/
theorem skips_sign (p : Polarity) : Text.Skips arrow (p.sign ++ [' ']) := by
  intro s
  cases p <;> simp [Polarity.sign, Text.cut?, Function.comp_def]

theorem skips_listing (l : Listing) : Text.Skips arrow l.text := by
  have hblank : Text.Skips arrow [' '] := .singleton (by decide)
  have hcomma : Text.Skips arrow [' ', ',', ' '] := .of_forall_ne (by simp)
  have hmore : Text.Skips arrow (l.more.flatMap fun w => [' ', ',', ' '] ++ w.chars) :=
    .flatMap fun w _ => hcomma.append (skips_word w)
  have hall := ((hblank.append (skips_sign l.polarity)).append (skips_word l.first)).append hmore
  rwa [← List.append_assoc [' '] l.polarity.sign] at hall

theorem skips_group (g : Group) : Text.Skips arrow g.text :=
  (skips_word g.key).append (.flatMap fun l _ => skips_listing l)

theorem skips_conjunction (c : Conjunction) : Text.Skips arrow c.text := by
  have hopener : Text.Skips arrow [' ', '&', ' '] := .of_forall_ne (by simp)
  exact (skips_group c.first).append (.flatMap fun g _ => hopener.append (skips_group g))

/-! ## Ends -/

theorem ends_spaced {w : List Char} {ts : List Token} (hw : Solid w)
    (hts : ∀ t ∈ ts, t.WellFormed) : Text.Ends (w ++ ts.flatMap Token.spaced) := by
  induction ts generalizing w with
  | nil => simpa using Text.Ends.of_forall hw.ne_nil hw.notBlank
  | cons t ts ih =>
    obtain ⟨⟨-, hword⟩, hrest⟩ := List.forall_mem_cons.1 hts
    have := (ih hword hrest).append (w ++ (' ' :: t.run ++ [' ']))
    simpa [Token.spaced] using this

namespace Conjunction

variable (c : Conjunction)

theorem starts_text : Text.Starts c.text := by
  have hkey := c.first.key.solid
  rw [c.text_eq]
  exact (Text.Starts.of_forall hkey.ne_nil hkey.notBlank).append _

theorem ends_text : Text.Ends c.text := by
  rw [c.text_eq]
  exact ends_spaced c.first.key.solid c.wellFormed

theorem bare_text : Text.Bare c.text := c.starts_text.bare c.ends_text

end Conjunction

namespace Tree

variable (t : Tree)

/-- What stands before the arrow once the blanks around the clause are gone. -/
def before : List Char :=
  match t.whenPart with
  | some c => c.text ++ [' ']
  | none => []

/-- What stands after the arrow once the blanks around the clause are gone. -/
def after : List Char :=
  match t.thenPart with
  | some c => ' ' :: c.text
  | none => []

def source : List Char := t.before ++ (arrow ++ t.after)

theorem starts_source : Text.Starts t.source := by
  obtain ⟨_ | w, _⟩ := t
  · exact ⟨'=', _, rfl, by decide⟩
  · exact (w.starts_text.append _).append _

theorem ends_source : Text.Ends t.source := by
  have harrow : Text.Ends arrow := ⟨['='], '>', rfl, by decide⟩
  obtain ⟨_, _ | c⟩ := t
  · exact harrow.append _
  · exact ((c.ends_text.append [' ']).append arrow).append _

/-- Only blanks stand around the trimmed text. -/
theorem exists_pad : ∃ l r, t.text = l ++ (t.source ++ r) ∧
    (∀ c ∈ l, Text.isBlank c = true) ∧ ∀ c ∈ r, Text.isBlank c = true := by
  obtain ⟨_ | w, _ | c⟩ := t
  · exact ⟨[' '], [' '], rfl, Text.isBlank_space, Text.isBlank_space⟩
  · exact ⟨[' '], [], by simp [text, source, before, after, partText], Text.isBlank_space, nofun⟩
  · exact ⟨[], [' '], by simp [text, source, before, after, partText], nofun, Text.isBlank_space⟩
  · exact ⟨[], [], by simp [text, source, before, after, partText], nofun, nofun⟩

theorem trim_text : Text.trim t.text = t.source := by
  obtain ⟨l, r, htext, hl, hr⟩ := t.exists_pad
  rw [htext, Text.trim_pad hl (t.starts_source.bare t.ends_source) hr]

theorem source_isInfix : t.source <:+: t.text := by
  obtain ⟨l, r, htext, -⟩ := t.exists_pad
  exact ⟨l, r, by rw [htext, List.append_assoc]⟩

theorem skips_before : Text.Skips arrow t.before := by
  obtain ⟨_ | w, _⟩ := t
  · exact .nil
  · exact (skips_conjunction w).append (.singleton (by decide))

theorem trim_before : Text.trim t.before = partText t.whenPart := by
  obtain ⟨_ | w, _⟩ := t
  · rfl
  · exact Text.trim_pad (l := []) nofun w.bare_text Text.isBlank_space

theorem trim_after : Text.trim t.after = partText t.thenPart := by
  obtain ⟨_, _ | c⟩ := t
  · rfl
  · have := Text.trim_pad (l := [' ']) (r := []) Text.isBlank_space c.bare_text nofun
    rwa [List.append_nil] at this

theorem parts_source : parts t.source = (partText t.whenPart, partText t.thenPart) := by
  rw [parts, source, t.skips_before.cut?_append, ← t.trim_before, ← t.trim_after]

/-! ## Compiling -/

/-- Nothing in the text is dropped as a marker, and neither part is one of the words that stand for
an absent part. -/
structure Plain : Prop where
  consumer : ¬ "consumer.".toList <:+: t.text
  provider : ¬ "provider.".toList <:+: t.text
  whenPart : partText t.whenPart ≠ "true".toList
  thenPart : partText t.thenPart ≠ "false".toList

theorem unmarked_source (h : t.Plain) : unmarked t.source = t.source := by
  have hkept : ∀ w, ¬ w <:+: t.text → Text.remove w t.source = t.source :=
    fun w hw => Text.remove_eq_self fun hi => hw (hi.trans t.source_isInfix)
  rw [unmarked, hkept _ h.consumer, hkept _ h.provider]

theorem parseWhen_text (h : t.Plain) : parseWhen (partText t.whenPart) =
    .ok ((t.whenPart.map (Conjunction.condition .call)).getD .empty) := by
  obtain ⟨_ | w, _⟩ := t
  · rfl
  · obtain ⟨d, r, htext, -⟩ := w.starts_text
    have hempty : w.text ≠ [] := by simp [htext]
    exact (if_neg (not_or.2 ⟨hempty, h.whenPart⟩)).trans (w.parse_text .call)

theorem parseThen_text (h : t.Plain) : parseThen (partText t.thenPart) =
    .ok (t.thenPart.map (Conjunction.condition .endpoint)) := by
  obtain ⟨_, _ | c⟩ := t
  · rfl
  · obtain ⟨d, r, htext, -⟩ := c.starts_text
    have hempty : c.text ≠ [] := by simp [htext]
    refine (if_neg (not_or.2 ⟨hempty, h.thenPart⟩)).trans ?_
    rw [partText, c.parse_text .endpoint]
    rfl

/-- The clause that the text of a tree is compiled to. -/
def clause (force : Bool) : Clause where
  source := String.ofList t.source
  force := force
  whenPart := (t.whenPart.map (Conjunction.condition .call)).getD .empty
  thenPart := t.thenPart.map (Conjunction.condition .endpoint)

theorem compile_eq (h : t.Plain) (force : Bool) :
    compile (String.ofList t.text) force = .ok (t.clause force) := by
  obtain ⟨d, r, hsource, -⟩ := t.starts_source
  have hne : t.source ≠ [] := by simp [hsource]
  simp only [compile, String.toList_ofList, t.trim_text, if_neg hne, t.unmarked_source h,
    t.parts_source, t.parseWhen_text h, t.parseThen_text h]
  rfl

/-! ## Meaning -/

theorem selects_clause_iff (force : Bool) (call : Call) :
    (t.clause force).selects call = true ↔ t.Selects call := by
  obtain ⟨_ | w, _⟩ := t
  · exact iff_of_true rfl nofun
  · have hholds : (w.condition .call).holds call.lookup (fun _ => none) = true ↔
        w.Holds .call call call.lookup := w.holds_condition_iff (by nofun) call.lookup
    simp [Clause.selects, clause, everyCall, Selects, w.isEmpty_condition, hholds]

theorem accepts_clause_iff {c : Conjunction} (h : t.thenPart = some c) (force : Bool)
    (call : Call) (e : Endpoint) :
    (t.clause force).accepts call e = true ↔ c.Holds .endpoint call e.lookup := by
  simp only [Clause.accepts, clause, h, Option.map_some]
  exact c.holds_condition_iff (fun _ => rfl) e.lookup

theorem apply_clause (force : Bool) (call : Call) (pool : Pool) :
    (t.clause force).apply call pool = t.applied force call pool := by
  have hselects : (pool.isEmpty || !(t.clause force).selects call) = true ↔
      pool = [] ∨ ¬ t.Selects call := by
    simp [← t.selects_clause_iff force]
  rw [Clause.apply, applied]
  by_cases hpass : pool = [] ∨ ¬ t.Selects call
  · rw [if_pos (hselects.2 hpass), if_pos hpass]
  rw [if_neg (mt hselects.1 hpass), if_neg hpass]
  cases hthen : t.thenPart with
  | none => simp [blacklists, clause, hthen]
  | some c =>
    have hkept : pool.filter ((t.clause force).accepts call) =
        pool.filter fun e => c.Holds .endpoint call e.lookup :=
      List.filter_congr fun e _ => by
        rw [Bool.eq_iff_iff, decide_eq_true_iff, t.accepts_clause_iff hthen force call e]
    have hblack : (t.clause force).blacklists = false := by simp [blacklists, clause, hthen]
    have hforce : (t.clause force).force = force := rfl
    simp only [hblack, hkept, hforce, Bool.false_eq_true, if_false, Bool.and_eq_true,
      List.isEmpty_iff, Bool.not_eq_true']

/-- **A clause written as the grammar has it** is compiled, and leaves of every pool what its tree
says. -/
theorem compile_text (h : t.Plain) (force : Bool) :
    ∃ c, compile (String.ofList t.text) force = .ok c ∧
      ∀ call pool, c.apply call pool = t.applied force call pool :=
  ⟨t.clause force, t.compile_eq h force, t.apply_clause force⟩

end Tree

/-! ## One clause -/

/-- The text `method = get* & arguments[0] != x => region = $region , hangzhou`. -/
def nearby : Tree where
  whenPart := some
    { first :=
        { key := ⟨"method".toList, by decide⟩
          listings := [⟨.accepted, ⟨"get*".toList, by decide⟩, []⟩]
          position := fun h => absurd h (by decide) }
      more :=
        [{ key := ⟨"arguments[0]".toList, by decide⟩
           listings := [⟨.rejected, ⟨['x'], by decide⟩, []⟩]
           position := fun _ => ⟨['0'], 0, by decide, by decide⟩ }] }
  thenPart := some
    { first :=
        { key := ⟨"region".toList, by decide⟩
          listings := [⟨.accepted, ⟨"$region".toList, by decide⟩,
            [⟨"hangzhou".toList, by decide⟩]⟩]
          position := fun h => absurd h (by decide) }
      more := [] }

theorem nearby_plain : nearby.Plain where
  consumer := by decide +kernel
  provider := by decide +kernel
  whenPart := by decide +kernel
  thenPart := by decide +kernel

theorem compile_text_nearby :
    let call : Call := { method := some "getUser", attributes := .ofList [("region", "beijing")] }
    let near : Endpoint := { id := "1", host := "a", attributes := .ofList [("region", "beijing")] }
    let far : Endpoint := { id := "2", host := "b", attributes := .ofList [("region", "qingdao")] }
    nearby.Plain ∧
      ∃ c, compile "method = get* & arguments[0] != x => region = $region , hangzhou" false = .ok c ∧
        c.apply call [far, near] = [near] := by
  intro call near far
  have htext : String.ofList nearby.text =
      "method = get* & arguments[0] != x => region = $region , hangzhou" := by decide +kernel
  obtain ⟨c, hc, happly⟩ := nearby.compile_text nearby_plain false
  exact ⟨nearby_plain, c, htext ▸ hc, (happly call [far, near]).trans (by decide +kernel)⟩

end CallRouting.Clause
