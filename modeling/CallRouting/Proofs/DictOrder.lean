import CallRouting.Dict

/-!
# The order of a dictionary

A dictionary that is made by inserting lists its keys in strictly rising order. So no key has two
entries, and the list of entries says no more and no less than `get?`.

* `Dict.Ordered` : the keys rise;
* `Ordered.insert`, `Ordered.update`, `Ordered.map` : inserting and changing values keep the order;
* `Ordered.mem_toList_iff` : the entries are the answers of `get?`;
* `insert_insert` : of two values inserted for one key only the second counts;
* `toList_map`, `map_map` : changing values goes entry by entry, and twice is once.
-/

namespace CallRouting.Dict

variable {α : Type}

def Ordered (d : Dict α) : Prop := d.keys.Pairwise (· < ·)

theorem ordered_empty : (empty : Dict α).Ordered := .nil

theorem mem_keys_place {k j : String} {v : α} {l : List (String × α)} :
    j ∈ (place k v l).map Prod.fst ↔ j = k ∨ j ∈ l.map Prod.fst := by
  induction l with
  | nil => simp [place]
  | cons e r ih =>
    unfold place
    split
    · subst_vars
      simp
    · split
      · simp
      · simp only [List.map_cons, List.mem_cons, ih]
        exact or_left_comm

theorem Ordered.insert {d : Dict α} (h : d.Ordered) (k : String) (v : α) :
    (d.insert k v).Ordered := by
  obtain ⟨l⟩ := d
  simp only [Ordered, Dict.insert, keys] at h ⊢
  induction l with
  | nil => exact List.pairwise_singleton _ _
  | cons e r ih =>
    obtain ⟨hrest, hr⟩ := List.pairwise_cons.1 h
    unfold place
    split
    · subst_vars
      exact h
    · rename_i hne
      split
      · rename_i hlt
        refine List.pairwise_cons.2 ⟨fun j hj => ?_, h⟩
        rcases List.mem_cons.1 hj with rfl | hj
        · exact hlt
        · exact String.lt_trans hlt (hrest j hj)
      · rename_i hnot
        refine List.pairwise_cons.2 ⟨fun j hj => ?_, ih hr⟩
        rcases mem_keys_place.1 hj with rfl | hj
        · exact Std.lt_of_le_of_ne (String.not_lt.1 hnot) (Ne.symm hne)
        · exact hrest j hj

theorem Ordered.update {d : Dict α} (h : d.Ordered) (k : String) (f : Option α → α) :
    (d.update k f).Ordered :=
  h.insert k _

/-! ## Changing values -/

section map

variable {β γ : Type}

theorem toList_map (d : Dict α) (f : String → α → β) :
    (d.map f).toList = d.toList.map fun e => (e.1, f e.1 e.2) := rfl

theorem keys_map (d : Dict α) (f : String → α → β) : (d.map f).keys = d.keys := by
  simp only [keys, map, List.map_map]
  rfl

theorem map_map (d : Dict α) (f : String → α → β) (g : String → β → γ) :
    (d.map f).map g = d.map fun k v => g k (f k v) := by
  simp only [map, List.map_map]
  rfl

theorem Ordered.map {d : Dict α} (h : d.Ordered) (f : String → α → β) : (d.map f).Ordered := by
  rw [Ordered, keys_map]
  exact h

end map

/-! ## Entries and answers -/

theorem Ordered.mem_toList_iff {d : Dict α} (h : d.Ordered) {k : String} {v : α} :
    (k, v) ∈ d.toList ↔ d.get? k = some v := by
  obtain ⟨l⟩ := d
  simp only [Ordered, keys, toList, get?] at h ⊢
  induction l with
  | nil => simp [find]
  | cons e r ih =>
    obtain ⟨j, w⟩ := e
    obtain ⟨hrest, hr⟩ := List.pairwise_cons.1 h
    by_cases hj : k = j
    · subst hj
      -- a second entry for the key would stand after itself
      have hv : (k, v) ∉ r := fun hmem =>
        String.lt_irrefl k (hrest k (List.mem_map_of_mem hmem))
      simp [find, hv, eq_comm]
    · simp [find, hj, ih hr]

theorem isEmpty_eq_false {d : Dict α} {k : String} {v : α} (h : d.get? k = some v) :
    d.isEmpty = false := by
  obtain ⟨l⟩ := d
  cases l with
  | nil => cases h
  | cons => rfl

theorem insert_insert (d : Dict α) (k : String) (v w : α) :
    (d.insert k v).insert k w = d.insert k w := by
  obtain ⟨l⟩ := d
  simp only [Dict.insert, mk.injEq]
  induction l with
  | nil => simp [place]
  | cons e r ih =>
    obtain ⟨j, u⟩ := e
    by_cases hj : k = j
    · simp [place, hj]
    · by_cases hlt : k < j
      · simp [place, hj, hlt]
      · simp [place, hj, hlt, ih]

theorem update_update (d : Dict α) (k : String) (f g : Option α → α) :
    (d.update k f).update k g = d.update k fun o => g (some (f o)) := by
  simp [update, insert_insert]

end CallRouting.Dict
