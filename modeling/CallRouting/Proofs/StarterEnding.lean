import CallRouting.Proofs.StarterText
import CallRouting.Proofs.TomlEnding
import CallRouting.Proofs.TomlTables

/-!
# The end of the first configuration

From the heading of the source on, the text has no setting in it that somebody has asked for, and
nothing that stands before it can get into it.

* `ending`, `sectional_ending` : the lines from there on, and that no value goes on into them;
* `exists_append_of_lines?` : a text with this end is malformed, or these lines are read last;
* `hasRules_of_ending`, `dir_of_hasRules` : then the folder is the one that they set;
* `dir_of_endsIn` : all of this together.
-/

namespace CallRouting.Starter

open Toml (Document EndsIn Line ReadsAs Sectional)

/-- The text from the heading of the source on. -/
def ending : List (List Char) := middle.drop 1 ++ setting "dir" "rules" :: tail

def endingLines : List (Option Line) :=
  middleLines.drop 1 ++ some (.assignment ["dir"] (.string "rules")) :: tailLines

theorem readsAs_ending : List.Forall₂ ReadsAs ending endingLines := by
  have hmiddle := readsAs_of_other other_middle
  cases hmiddle with
  | cons _ hmiddle =>
    exact List.rel_append hmiddle <|
      .cons (readsAs_setting (by decide) (by decide)) (readsAs_of_other other_tail)

theorem infix_unlines {w : List Char} (hne : w ≠ []) (hw : '\n' ∉ w) {ls : List (List Char)}
    (h : w <:+: unlines ls) : ∃ l ∈ ls, w <:+: l := by
  induction ls with
  | nil => exact absurd (List.infix_nil.1 h) hne
  | cons l ls ih =>
    rw [unlines_cons, Text.infix_append_cons_iff hw] at h
    rcases h with h | h
    · exact ⟨l, List.mem_cons_self, h⟩
    · obtain ⟨m, hm, h⟩ := ih h
      exact ⟨m, List.mem_cons_of_mem l hm, h⟩

theorem noBlock_ending : ∀ l ∈ ending, NoBlock l := by
  intro l hl
  simp only [ending, List.mem_append, List.mem_cons] at hl
  rcases hl with hl | rfl | hl
  · exact forall_of_forall₂ (fun _ _ h => h.block) other_middle l (List.mem_of_mem_drop hl)
  · decide
  · exact forall_of_forall₂ (fun _ _ h => h.block) other_tail l hl

theorem noBlock_unlines {ls : List (List Char)} (h : ∀ l ∈ ls, NoBlock l) :
    NoBlock (unlines ls) := by
  refine ⟨fun hin => ?_, fun hin => ?_⟩
  · obtain ⟨l, hl, hin⟩ := infix_unlines (by decide) (by decide) hin
    exact (h l hl).1 hin
  · obtain ⟨l, hl, hin⟩ := infix_unlines (by decide) (by decide) hin
    exact (h l hl).2 hin

theorem sectional_ending : Sectional (unlines ending) where
  quotes := (noBlock_unlines noBlock_ending).1
  apostrophes := (noBlock_unlines noBlock_ending).2
  bracket := ⟨_, rfl⟩
  value depth := by
    have htext : ∃ r, unlines ending = "[source]".toList ++ '\n' :: r := ⟨_, rfl⟩
    obtain ⟨r, hr⟩ := htext
    rw [hr]
    -- In an array a value would have to begin with the name.
    match depth with
    | 0 => rfl
    | 1 => rfl
    | 2 => rfl
    | depth + 3 => rfl

/-- A text with this end is malformed, or its lines are the last ones. -/
theorem exists_append_of_lines? {s : List Char} {ls : List Line}
    (h : EndsIn (unlines ending) s) (hr : Toml.lines? s = some ls) :
    ∃ before, ls = before ++ endingLines.reduceOption := by
  have hlines : ∀ {fuel s}, EndsIn (unlines ending) s → Toml.linesWithin? fuel s = some ls →
      ∃ before, ls = before ++ endingLines.reduceOption := by
    intro fuel s h hr
    obtain ⟨before, last, fuel', rfl, hlast⟩ :=
      Toml.exists_append_of_linesWithin? sectional_ending (Or.inr h) hr
    have hread := linesWithin?_unlines readsAs_ending (fuel' + 1) []
    have hend : Toml.linesWithin? (fuel' + 1) [] = some [] := rfl
    have hmore := Toml.linesWithin?_mono hlast (1 + ending.length)
    rw [List.append_nil, hend, Option.map_some, List.append_nil, Nat.add_assoc, hmore] at hread
    exact ⟨before, by rw [Option.some.inj hread]⟩
  unfold Toml.lines? at hr
  split at hr
  · exact hlines (h.of_cons (by decide)) hr
  · exact hlines h hr

/-- The source has the folder for everyone. -/
def HasRules (root : Toml.Entries) : Prop :=
  ∃ (passed dotted : Bool) (inner : Toml.Entries),
    root.get? "source" = some (.table passed dotted inner) ∧
      inner.get? "dir" = some (.value (.string "rules"))

theorem hasRules_of_ending {d d' : Document}
    (h : endingLines.reduceOption.foldlM Document.line d = some d') : HasRules d'.root := by
  have hlines : endingLines.reduceOption = [
      .heading ["source"], .assignment ["kind"] (.string "file"),
      .assignment ["dir"] (.string "rules"), .assignment ["poll_interval_ms"] (.integer 1000),
      .heading ["notifications"], .assignment ["capacity"] (.integer 16),
      .heading ["logging"], .assignment ["level"] (.string "info"),
      .assignment ["format"] (.string "pretty")] := rfl
  rw [hlines] at h
  simp only [List.foldlM_cons, Option.bind_eq_bind, Option.bind_eq_some_iff, List.foldlM_nil] at h
  obtain ⟨d₁, h₁, d₂, h₂, d₃, h₃, d₄, h₄, d₅, h₅, d₆, h₆, d₇, h₇, d₈, h₈, d₉, h₉, h⟩ := h
  cases h
  have hself : ∀ (es : Toml.Entries) k i, (es.set k i).get? k = some i :=
    fun es k i => by rw [Toml.Entries.get?_set, if_pos rfl]
  obtain ⟨source, rfl⟩ := Document.line_heading h₁
  obtain rfl := Document.line_assignment rfl (hself _ _ _) h₂
  obtain rfl := Document.line_assignment rfl (hself _ _ _) h₃
  obtain rfl := Document.line_assignment rfl (hself _ _ _) h₄
  obtain ⟨notifications, rfl⟩ := Document.line_heading h₅
  obtain rfl := Document.line_assignment rfl (hself _ _ _) h₆
  obtain ⟨logging, rfl⟩ := Document.line_heading h₇
  obtain rfl := Document.line_assignment rfl (hself _ _ _) h₈
  obtain rfl := Document.line_assignment rfl (hself _ _ _) h₉
  refine ⟨false, false, ((source.set "kind" (.value (.string "file"))).set "dir"
    (.value (.string "rules"))).set "poll_interval_ms" (.value (.integer 1000)), ?_, ?_⟩
  · simp [Toml.Entries.get?_set]
  · simp [Toml.Entries.get?_set]

theorem field?_entriesToValues {α : Type} (es : Toml.Entries) (name : String) (absent : Option α)
    (read? : Toml.Value → Option α) :
    Toml.field? (Toml.Item.entriesToValues es) name absent read? =
      match es.get? name with
      | some i => read? i.toValue
      | none => absent := by
  unfold Toml.field?
  rw [Toml.find?_entriesToValues, Toml.Entries.get?]
  cases List.find? (fun x => decide (x.1 = name)) es <;> rfl

theorem dir_of_hasRules {root : Toml.Entries} (hroot : HasRules root) {c : Config}
    (h : Config.ofValue? (.table (Toml.Item.entriesToValues root)) = some c) : c.dir = "rules" := by
  obtain ⟨passed, dotted, inner, hsource, hdir⟩ := hroot
  simp only [Config.ofValue?, Toml.Value.fields?, Toml.Value.entries?, Option.bind_eq_bind,
    Option.bind_some, Option.bind_eq_some_iff] at h
  obtain ⟨application, -, c', hc', capacity, -, logging, -, h⟩ := h
  cases h
  rw [field?_entriesToValues, hsource] at hc'
  simp only [Toml.Item.toValue, Config.withSource?, Toml.Value.fields?, Toml.Value.entries?,
    Option.bind_eq_bind, Option.bind_some, Option.bind_eq_some_iff] at hc'
  obtain ⟨kind, -, dir, hd, interval, -, hc'⟩ := hc'
  cases hc'
  rw [field?_entriesToValues, hdir] at hd
  exact (Option.some.inj hd).symm

/-- **With this end the folder is that of everyone**, whatever stands before it. -/
theorem dir_of_endsIn {s : List Char} (hs : EndsIn (unlines ending) s) {c : Config}
    (h : Config.parse? (String.ofList s) = some c) : c.dir = "rules" := by
  simp only [Config.parse?, Toml.parse?, String.toList_ofList, Option.bind_eq_bind,
    Option.bind_eq_some_iff] at h
  obtain ⟨v, ⟨ls, hls, d, hd, hv⟩, h⟩ := h
  cases hv
  obtain ⟨before, rfl⟩ := exists_append_of_lines? hs hls
  rw [List.foldlM_append, Option.bind_eq_bind, Option.bind_eq_some_iff] at hd
  obtain ⟨d₀, -, hd⟩ := hd
  exact dir_of_hasRules (hasRules_of_ending hd) h

end CallRouting.Starter
