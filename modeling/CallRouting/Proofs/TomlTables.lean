import CallRouting.Toml.Document

/-!
# Tables of TOML under construction

What the most common lines, those with a single name, add to the tables.

* `Entries.get?_set` : what a name stands for after one has been set;
* `Document.line_heading`, `Document.line_assignment` : a heading, and an entry below it;
* `find?_entriesToValues` : a name stands for the same in the end.
-/

namespace CallRouting.Toml

theorem Entries.get?_cons (k₀ k : String) (i₀ : Item) (es : Entries) :
    Entries.get? ((k₀, i₀) :: es) k = if k₀ = k then some i₀ else es.get? k := by
  unfold Entries.get?
  by_cases h : k₀ = k <;> simp [h]

theorem Entries.get?_map (es : Entries) (k k' : String) (i : Item) :
    Entries.get? (es.map fun (k₀, i₀) => if k₀ = k then (k, i) else (k₀, i₀)) k' =
      if k' = k then (es.get? k).map fun _ => i else es.get? k' := by
  induction es with
  | nil => simp [Entries.get?]
  | cons e es ih =>
    obtain ⟨k₀, i₀⟩ := e
    rw [List.map_cons, Entries.get?_cons, Entries.get?_cons]
    by_cases h₀ : k₀ = k
    · simp only [h₀, if_true, Entries.get?_cons, ih]
      by_cases hk : k' = k
      · simp [hk]
      · simp [hk, Ne.symm hk]
    · simp only [if_neg h₀, Entries.get?_cons, ih]
      by_cases hk : k' = k
      · simp [hk, h₀]
      · simp [hk]

theorem Entries.get?_set (es : Entries) (k k' : String) (i : Item) :
    (es.set k i).get? k' = if k' = k then some i else es.get? k' := by
  unfold Entries.set
  split
  · next hk =>
    obtain ⟨i₀, hi⟩ := Option.isSome_iff_exists.1 hk
    rw [Entries.get?_map, hi]
    rfl
  · next hk =>
    rw [Option.not_isSome_iff_eq_none] at hk
    have happend : Entries.get? (es ++ [(k, i)]) k' =
        (es.get? k').or (if k = k' then some i else none) := by
      simp only [Entries.get?, List.find?_append]
      cases List.find? (fun x => decide (x.1 = k')) es with
      | none => by_cases h : k = k' <;> simp [h]
      | some e => rfl
    rw [happend]
    by_cases h : k' = k
    · simp [h, hk]
    · simp [h, Ne.symm h]

/-- Headings define a table, in place of one that has only been passed through. -/
theorem Document.line_heading {d d' : Document} {k : String} (h : d.line (.heading [k]) = some d') :
    ∃ inner : Entries, d' = ⟨d.root.set k (.table false false inner), [k]⟩ := by
  have hopen : (openTable k false d.root).map (Document.mk · [k]) = some d' := by
    rw [← h]
    simp only [line, above, List.getLast?_singleton, Option.bind_eq_bind, Option.bind_some,
      List.dropLast_singleton, Item.descend]
    cases openTable k false d.root <;> rfl
  obtain ⟨root, hroot, rfl⟩ := Option.map_eq_some_iff.1 hopen
  unfold openTable at hroot
  split at hroot
  · exact ⟨[], by rw [← Option.some.inj hroot]⟩
  · next inner _ => exact ⟨inner, by rw [← Option.some.inj hroot]⟩
  · cases hroot

/-- An entry goes into the table last headed. -/
theorem Document.line_assignment {d d' : Document} {k n : String} {v : Value} {passed dotted : Bool}
    {inner : Entries} (hcurrent : d.current = [k])
    (hk : d.root.get? k = some (.table passed dotted inner))
    (h : d.line (.assignment [n] v) = some d') :
    d' = ⟨d.root.set k (.table passed dotted (inner.set n (.value v))), [k]⟩ := by
  have hadd : (if (inner.get? n).isSome then none else
      some (Document.mk (d.root.set k (.table passed dotted (inner.set n (.value v)))) [k])) =
        some d' := by
    rw [← h]
    obtain ⟨root, current⟩ := d
    simp only at hcurrent hk
    subst hcurrent
    by_cases hn : (inner.get? n).isSome = true
    · simp [line, Item.descend, hk, assign, Item.add, hn]
    · simp [line, Item.descend, hk, assign, Item.add, hn]
  rw [Option.ite_none_left_eq_some] at hadd
  exact (Option.some.inj hadd.2).symm

theorem find?_entriesToValues (es : Entries) (k : String) :
    (Item.entriesToValues es).find? (·.1 = k) =
      (es.find? (·.1 = k)).map fun e => (e.1, e.2.toValue) := by
  induction es with
  | nil => rfl
  | cons e es ih =>
    obtain ⟨k', i⟩ := e
    rw [Item.entriesToValues, List.find?_cons, List.find?_cons]
    by_cases hk : k' = k
    · simp [hk]
    · simp [hk, ih]

end CallRouting.Toml
