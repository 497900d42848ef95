import CallRouting.Proofs.Markers

/-!
# Written parts

A condition without keys is for every call in a when-part, and accepts nothing in a then-part. Only
a part that is not written becomes one: whatever else a part says, if it is read at all then the
first word of it is a key.

* `Condition.exists_key_of_parse` : what is read from a text that is not blank has a key;
* `exists_key_of_compile` : so has every then-part;
* `Unwritten` : what stands for a part that is not there;
* `special_iff_of_arrow`, `special_iff_of_noArrow` : only such parts make a clause one for every
  call, or a blacklist;
* `written_parts` : all of that, for every text.
-/

namespace CallRouting

theorem Dict.exists_mem_keys {α : Type} {d : Dict α} (h : d.isEmpty = false) :
    ∃ key, key ∈ d.keys := by
  obtain ⟨l⟩ := d
  cases l with
  | nil => cases h
  | cons e r => exact ⟨e.1, List.mem_cons_self⟩

namespace Clause

/-- All of the text is blank, or it is the one literal that stands for nothing. -/
def Unwritten (literal : String) (s : List Char) : Prop :=
  (∀ x ∈ s, Text.isBlank x = true) ∨ Text.trim s = literal.toList

theorem unwritten_iff (literal : String) (s : List Char) :
    Unwritten literal s ↔ Text.trim s = [] ∨ Text.trim s = literal.toList := by
  rw [Unwritten, Text.trim_eq_nil_iff]

instance (literal : String) (s : List Char) : Decidable (Unwritten literal s) :=
  decidable_of_iff _ (unwritten_iff literal s).symm

theorem Condition.exists_key_of_parse {side : Side} {s : List Char} {c : Condition}
    (hs : ∃ x ∈ s, Text.isBlank x = false) (h : Condition.parse side s = .ok c) :
    ∃ key, key ∈ c.keys := by
  obtain ⟨x, hx, hblank⟩ := hs
  refine Dict.exists_mem_keys (Condition.isEmpty_of_parse h fun hall => ?_)
  rw [hall x hx] at hblank
  cases hblank

/-- A then-part that is there asks for something. -/
theorem exists_key_of_compile {text : String} {force : Bool} {c : Clause}
    (h : compile text force = .ok c) {t : Condition} (ht : c.thenPart = some t) :
    ∃ key, key ∈ t.keys := by
  have htrim := (trim_parts (unmarked (Text.trim text.toList))).2
  rcases parseThen_cases (compiled_of_compile h).thenPart with
    ⟨-, hnone⟩ | ⟨hwritten, t', hparse, hsome⟩
  · rw [hnone] at ht
    cases ht
  · obtain rfl : t' = t := Option.some.inj (hsome.symm.trans ht)
    refine Dict.exists_mem_keys (Condition.isEmpty_of_parse hparse fun hblank => ?_)
    rw [← Text.trim_eq_nil_iff, htrim] at hblank
    exact hwritten (Or.inl hblank)

section

variable {text : String} {force : Bool} {c : Clause} (h : compile text force = .ok c)

include h

theorem special_iff_of_arrow {before after : List Char}
    (hsplit : unmarked (Text.trim text.toList) = before ++ (arrow ++ after))
    (hfirst : ¬ arrow <:+: before) :
    (c.everyCall = true ↔ Unwritten "true" before) ∧
      (c.blacklists = true ↔ Unwritten "false" after) := by
  have hparts : parts (unmarked (Text.trim text.toList)) = (Text.trim before, Text.trim after) := by
    rw [hsplit, parts, cut?_arrow hfirst]
  rw [unwritten_iff, unwritten_iff]
  exact special_iff (by rwa [String.ofList_toList]) hparts

theorem special_iff_of_noArrow (hnone : ¬ arrow <:+: unmarked (Text.trim text.toList)) :
    c.everyCall = true ∧
      (c.blacklists = true ↔ Unwritten "false" (unmarked (Text.trim text.toList))) := by
  have hparts : parts (unmarked (Text.trim text.toList)) =
      ([], Text.trim (unmarked (Text.trim text.toList))) := by
    rw [parts, Text.cut?_eq_none_iff.2 hnone]
  obtain ⟨hevery, hblack⟩ := special_iff (by rwa [String.ofList_toList]) hparts
  rw [unwritten_iff]
  exact ⟨hevery.2 (Or.inl rfl), hblack⟩

end

/-- **A written condition is never read as an empty one.** On either side, a text that is not blank
is read to a condition with a key, or not at all. So a clause is for every call only if nothing but
blanks or `true` stands before its arrow, or if it has none; it is a blacklist only if nothing but
blanks or `false` stands after it; and every other then-part asks for something. Markers do not
count. -/
theorem written_parts :
    (∀ side s c, (∃ x ∈ s, Text.isBlank x = false) → Condition.parse side s = .ok c →
      ∃ key, key ∈ c.keys) ∧
    ∀ text force c, compile text force = .ok c →
      let stripped := unmarked (Text.trim text.toList)
      (∀ before after, stripped = before ++ (arrow ++ after) → ¬ arrow <:+: before →
        (c.everyCall = true ↔ Unwritten "true" before) ∧
          (c.blacklists = true ↔ Unwritten "false" after)) ∧
      (¬ arrow <:+: stripped →
        c.everyCall = true ∧ (c.blacklists = true ↔ Unwritten "false" stripped)) ∧
      ∀ t, c.thenPart = some t → ∃ key, key ∈ t.keys := by
  refine ⟨fun side s c hs h => Condition.exists_key_of_parse hs h, fun text force c h => ?_⟩
  refine ⟨fun before after hsplit hfirst => ?_, fun hnone => ?_, fun t ht => ?_⟩
  · exact special_iff_of_arrow h hsplit hfirst
  · exact special_iff_of_noArrow h hnone
  · exact exists_key_of_compile h ht

/-- A wide blank before the arrow and a marker on each side; words that only begin like the literals;
and a character that cannot be seen but is no blank. -/
theorem written_parts_wideBlank :
    (∃ c, compile "consumer.\u2003=> provider.false" true = .ok c ∧ c.everyCall = true ∧
      c.blacklists = true) ∧
    (∃ c t key, compile "truely => falsely" true = .ok c ∧ c.everyCall = false ∧
      c.thenPart = some t ∧ key ∈ t.keys) ∧
    ∃ c key, Condition.parse .call ['\u200b'] = .ok c ∧ key ∈ c.keys := by
  obtain ⟨hwritten, hparts⟩ := written_parts
  refine ⟨?_, ?_, ?_⟩
  · let c : Clause :=
      { source := "consumer.\u2003=> provider.false"
        force := true
        whenPart := .empty
        thenPart := none }
    have hc : compile "consumer.\u2003=> provider.false" true = .ok c := by decide +kernel
    obtain ⟨hsplit, -, -⟩ := hparts _ _ c hc
    have hiff := hsplit ['\u2003'] " false".toList (by decide +kernel) (by decide +kernel)
    exact ⟨c, hc, hiff.1.2 (by decide +kernel), hiff.2.2 (by decide +kernel)⟩
  · let t : Condition := ⟨[("falsely", {})]⟩
    let c : Clause :=
      { source := "truely => falsely"
        force := true
        whenPart := ⟨[("truely", {})]⟩
        thenPart := some t }
    have hc : compile "truely => falsely" true = .ok c := by decide +kernel
    obtain ⟨hsplit, -, hthen⟩ := hparts _ _ c hc
    have hiff := hsplit "truely ".toList " falsely".toList (by decide +kernel) (by decide +kernel)
    obtain ⟨key, hkey⟩ := hthen t rfl
    refine ⟨c, t, key, hc, ?_, rfl, hkey⟩
    rw [← Bool.not_eq_true, hiff.1]
    decide +kernel
  · let c : Condition := ⟨[("\u200b", {})]⟩
    have hc : Condition.parse .call ['\u200b'] = .ok c := by decide +kernel
    have hvisible : ∃ x ∈ ['\u200b'], Text.isBlank x = false :=
      ⟨'\u200b', List.mem_singleton_self _, by decide⟩
    obtain ⟨key, hkey⟩ := hwritten .call ['\u200b'] c hvisible hc
    exact ⟨c, key, hc, hkey⟩

end Clause
end CallRouting
