/-!
# Dictionaries with text keys

A `Dict` lists its entries by key, in code point order, so that what is printed from it has one
order. `get?` is the view of it that the lemmas speak of: `get?_insert`, `get?_erase`,
`get?_update`.
-/

namespace CallRouting

structure Dict (α : Type) where
  entries : List (String × α)
deriving DecidableEq

namespace Dict

variable {α : Type}

def empty : Dict α := ⟨[]⟩

instance : Inhabited (Dict α) := ⟨empty⟩

def toList (d : Dict α) : List (String × α) := d.entries

def keys (d : Dict α) : List String := d.entries.map Prod.fst

def size (d : Dict α) : Nat := d.entries.length

def isEmpty (d : Dict α) : Bool := d.entries.isEmpty

def find (k : String) : List (String × α) → Option α
  | [] => none
  | (k', v) :: r => if k = k' then some v else find k r

def get? (d : Dict α) (k : String) : Option α := find k d.entries

def contains (d : Dict α) (k : String) : Bool := (d.get? k).isSome

def place (k : String) (v : α) : List (String × α) → List (String × α)
  | [] => [(k, v)]
  | (k', v') :: r =>
    if k = k' then (k, v) :: r
    else if k < k' then (k, v) :: (k', v') :: r
    else (k', v') :: place k v r

/-- The value of a key that is there is replaced; a new key goes where its order puts it. -/
def insert (d : Dict α) (k : String) (v : α) : Dict α := ⟨place k v d.entries⟩

def update (d : Dict α) (k : String) (f : Option α → α) : Dict α := d.insert k (f (d.get? k))

def erase (d : Dict α) (k : String) : Dict α := ⟨d.entries.filter (·.1 ≠ k)⟩

/-- Changes each value, in the light of its key. -/
def map {β : Type} (d : Dict α) (f : String → α → β) : Dict β :=
  ⟨d.entries.map fun (k, v) => (k, f k v)⟩

/-- The later of two entries with one key wins. -/
def ofList (l : List (String × α)) : Dict α := l.foldl (fun d (k, v) => d.insert k v) empty

/-! ## Lookups -/

@[simp] theorem get?_empty (k : String) : (empty : Dict α).get? k = none := rfl

theorem find_place (k k' : String) (v : α) (l : List (String × α)) :
    find k' (place k v l) = if k' = k then some v else find k' l := by
  induction l with
  | nil => simp [place, find]
  | cons e r ih =>
    obtain ⟨j, w⟩ := e
    unfold place
    split
    · subst_vars
      by_cases h : k' = j <;> simp [find, h]
    · split
      · simp [find]
      · rename_i hne _
        by_cases h : k' = j
        · subst h
          simp [find, Ne.symm hne]
        · simp [find, h, ih]

@[simp] theorem get?_insert (d : Dict α) (k k' : String) (v : α) :
    (d.insert k v).get? k' = if k' = k then some v else d.get? k' :=
  find_place k k' v d.entries

theorem get?_update (d : Dict α) (k k' : String) (f : Option α → α) :
    (d.update k f).get? k' = if k' = k then some (f (d.get? k)) else d.get? k' :=
  get?_insert d k k' _

@[simp] theorem get?_erase (d : Dict α) (k k' : String) :
    (d.erase k).get? k' = if k' = k then none else d.get? k' := by
  simp only [get?, erase]
  induction d.entries with
  | nil => simp [find]
  | cons e r ih =>
    obtain ⟨j, w⟩ := e
    by_cases hj : j = k
    · subst hj
      simp only [List.filter, ne_eq, not_true_eq_false, decide_false, ih, find]
      split <;> simp_all
    · by_cases h : k' = j
      · subst h
        simp [List.filter, hj, find]
      · simp only [List.filter, ne_eq, hj, not_false_eq_true, decide_true, find, if_neg h, ih]

@[simp] theorem get?_map {β : Type} (d : Dict α) (f : String → α → β) (k : String) :
    (d.map f).get? k = (d.get? k).map (f k) := by
  simp only [get?, map]
  induction d.entries with
  | nil => rfl
  | cons e r ih =>
    obtain ⟨j, w⟩ := e
    by_cases h : k = j
    · subst h
      simp [find]
    · simp [find, h, ih]

end Dict
end CallRouting
