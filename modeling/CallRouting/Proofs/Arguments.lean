import CallRouting.Proofs.Markers

/-!
# Positional arguments

A clause sees of a call only what it looks up: the keys of its when-part, and the names that the
references in its then-part stand for. A name that begins like a positional argument should name a
position, and then the attributes of the call have no say in it. Keys that name none are refused.
References that name none are not: they are looked up like any other name, among the attributes.

* `Clause.names` : what a clause looks up, and `Clause.apply_congr` : nothing else counts;
* `IsPosition` : a name that is an argument's, for every call;
* `Stray` : a name that begins like a positional argument and names no position;
* `Clause.isPosition_of_mem_keys`, `Clause.isPosition_of_mem_references` : which of the names that
  begin so are positions;
* `Clause.exists_moved` : every stray name that can be written is a reference of some clause that
  goes by an attribute;
* `Clause.arguments_by_position` : all of that.
-/

namespace CallRouting

/-! ## Names -/

/-- The name begins like that of a positional argument. -/
def ArgumentLike (name : String) : Prop := argumentsStart <+: name.toList

instance (name : String) : Decidable (ArgumentLike name) :=
  inferInstanceAs (Decidable (_ <+: _))

/-- The name is written as that of the argument at this position, and stands for it in every
call. -/
structure IsPosition (name : String) (n : Nat) : Prop where
  written : ∃ digits, name.toList = argumentsStart ++ digits ++ [']'] ∧
    Text.natBelow? UInt64.size digits = some n
  bound : n < UInt64.size
  lookup : ∀ call : Call, call.lookup name = call.arguments[n]?

/-- The name begins like that of a positional argument, but there is no position in it. -/
def Stray (name : String) : Prop := ArgumentLike name ∧ argumentIndex? name = none

instance (name : String) : Decidable (Stray name) := inferInstanceAs (Decidable (_ ∧ _))

/-- No built-in key begins so. -/
theorem ArgumentLike.lookup {name : String} (h : ArgumentLike name) (call : Call) :
    call.lookup name = match argumentIndex? name with
      | some n => call.arguments[n]?
      | none => call.attributes.get? name := by
  have hhost : name ≠ "host" := by
    rintro rfl
    revert h
    decide
  have hmethod : name ≠ "method" := by
    rintro rfl
    revert h
    decide
  exact (if_neg hhost).trans (if_neg hmethod)

theorem Stray.lookup {name : String} (h : Stray name) (call : Call) :
    call.lookup name = call.attributes.get? name := by
  rw [h.1.lookup, h.2]

/-- Two calls can differ in nothing but an attribute with this name, and so in what it stands
for. -/
theorem Stray.not_isPosition {name : String} (h : Stray name) (n : Nat) : ¬ IsPosition name n := by
  intro hposition
  have hlookup := hposition.lookup { attributes := Dict.empty.insert name "" }
  rw [h.lookup, Dict.get?_insert, if_pos rfl, List.getElem?_nil] at hlookup
  cases hlookup

/-! ## Calls that agree -/

/-- The calls differ at most in attributes with such names. -/
structure Call.SameBut (P : String → Prop) (call call' : Call) : Prop where
  host : call.host = call'.host
  method : call.method = call'.method
  arguments : call.arguments = call'.arguments
  attributes : ∀ name, ¬ P name → call.attributes.get? name = call'.attributes.get? name

theorem Call.SameBut.lookup {P : String → Prop} {call call' : Call} (h : call.SameBut P call')
    {name : String} (hname : P name → ∃ n, IsPosition name n) :
    call.lookup name = call'.lookup name := by
  by_cases hp : P name
  · obtain ⟨n, hn⟩ := hname hp
    rw [hn.lookup, hn.lookup, h.arguments]
  · simp only [Call.lookup, h.host, h.method, h.arguments, h.attributes name hp]

namespace Clause

/-! ## What a clause looks up -/

def Pattern.reference? : Pattern → Option String
  | .reference key => some key
  | _ => none

/-- The names that the references in a test stand for. -/
def Test.references (t : Test) : List String :=
  (t.accepted ++ t.rejected).filterMap Pattern.reference?

def Condition.references (c : Condition) : List String := c.toList.flatMap (·.2.references)

/-- The names that the then-part refers to. -/
def references (c : Clause) : List String :=
  match c.thenPart with
  | some t => t.references
  | none => []

/-- All that the clause looks up in a call. -/
def names (c : Clause) : List String := c.whenPart.keys ++ c.references

/-- The references that begin like positional arguments and are none. -/
def strays (c : Clause) : List String := c.references.filter (Stray ·)

theorem mem_strays_iff {c : Clause} {name : String} :
    name ∈ c.strays ↔ name ∈ c.references ∧ Stray name := by
  rw [strays, List.mem_filter, decide_eq_true_iff]

/-- Whatever the clause looks up under a name that begins like a positional argument is one. -/
def ByPosition (c : Clause) : Prop :=
  ∀ name ∈ c.names, ArgumentLike name → ∃ n, IsPosition name n

section congr

theorem any_congr_mem {α : Type} {l : List α} {p q : α → Bool} (h : ∀ x ∈ l, p x = q x) :
    l.any p = l.any q := by
  have hmap := congrArg (·.any id) (List.map_congr_left h)
  simpa only [List.any_map, Function.id_comp] using hmap

theorem all_congr_mem {α : Type} {l : List α} {p q : α → Bool} (h : ∀ x ∈ l, p x = q x) :
    l.all p = l.all q := by
  have hmap := congrArg (·.all id) (List.map_congr_left h)
  simpa only [List.all_map, Function.id_comp] using hmap

variable {resolve resolve' : String → Option String}

theorem Pattern.accepts_congr {p : Pattern}
    (h : ∀ name ∈ p.reference?, resolve name = resolve' name) (value : String) :
    p.accepts resolve value = p.accepts resolve' value := by
  cases p with
  | any => rfl
  | exact text => rfl
  | wildcard word => rfl
  | reference name => rw [accepts, accepts, acceptsBy, acceptsBy, h name rfl]

theorem Test.passes_congr {t : Test} (h : ∀ name ∈ t.references, resolve name = resolve' name)
    (value : Option String) : t.passes resolve value = t.passes resolve' value := by
  cases value with
  | none => rfl
  | some value =>
    have hpattern : ∀ p ∈ t.accepted ++ t.rejected,
        p.accepts resolve value = p.accepts resolve' value := by
      intro p hp
      refine Pattern.accepts_congr (fun name hname => h name ?_) value
      exact List.mem_filterMap.2 ⟨p, hp, hname⟩
    obtain ⟨haccepted, hrejected⟩ := List.forall_mem_append.1 hpattern
    simp only [passes, accepts]
    rw [any_congr_mem haccepted, any_congr_mem hrejected]

theorem Condition.holds_congr {lookup lookup' : String → Option String} {c : Condition}
    (hlookup : ∀ key ∈ c.keys, lookup key = lookup' key)
    (hresolve : ∀ name ∈ c.references, resolve name = resolve' name) :
    c.holds lookup resolve = c.holds lookup' resolve' := by
  rw [holds, holds]
  congr 1
  refine all_congr_mem fun e he => ?_
  simp only [hlookup e.1 (List.mem_map_of_mem he)]
  exact Test.passes_congr (fun name hname => hresolve name (List.mem_flatMap.2 ⟨e, he, hname⟩)) _

end congr

/-- What a clause leaves of a pool is a matter of what the call has under the names that the clause
looks up. -/
theorem apply_congr {c : Clause} {call call' : Call}
    (h : ∀ name ∈ c.names, call.lookup name = call'.lookup name) (pool : Pool) :
    c.apply call pool = c.apply call' pool := by
  obtain ⟨hkeys, hreferences⟩ := List.forall_mem_append.1 h
  have hselects : c.selects call = c.selects call' := by
    rw [selects, selects]
    congr 1
    -- a when-part resolves no references at all
    exact Condition.holds_congr hkeys fun _ _ => rfl
  have haccepts : c.accepts call = c.accepts call' := by
    funext e
    simp only [accepts]
    cases hthen : c.thenPart with
    | none => rfl
    | some t =>
      refine Condition.holds_congr (fun _ _ => rfl) ?_
      rwa [references, hthen] at hreferences
  simp only [apply, hselects, haccepts]

/-! ## What clauses are read to -/

/-- A name without gaps that has a position is that of the argument there. -/
theorem isPosition_of_argumentIndex? {name : String} (hname : Solid name.toList)
    (h : ArgumentLike name) {n : Nat} (hn : argumentIndex? name = some n) : IsPosition name n := by
  obtain ⟨digits, hwritten, hdigits⟩ :=
    exists_digits_of_argumentIndex? hname (by rwa [String.ofList_toList])
  exact ⟨⟨digits, hwritten, hdigits⟩, Text.natBelow?_lt hdigits, fun call => by rw [h.lookup, hn]⟩

theorem mem_of_mem_given {key : String} {p : Polarity} {before ts : List Token} {w : List Char}
    (h : w ∈ given key p before ts) : ∃ t ∈ ts, t.word = w := by
  induction ts generalizing before with
  | nil => cases h
  | cons t ts ih =>
    rw [given, List.mem_append] at h
    rcases h with h | h
    · split at h
      · exact ⟨t, List.mem_cons_self, (List.mem_singleton.1 h).symm⟩
      · cases h
    · obtain ⟨u, hu, hword⟩ := ih h
      exact ⟨u, List.mem_cons_of_mem t hu, hword⟩

theorem Pattern.word_of_reference? {side : Side} {w : List Char} {name : String}
    (h : (Pattern.ofWord side w).reference? = some name) : w = '$' :: name.toList := by
  unfold Pattern.ofWord at h
  split at h
  · cases h
  · split at h
    · cases h
      rw [String.toList_ofList]
    · split at h <;> cases h

namespace Condition

variable {side : Side} {s : List Char} {c : Condition}

/-- The words that a condition is made of. -/
theorem exists_madeOf (h : parse side s = .ok c) :
    ∃ ts, (∀ t ∈ ts, Solid t.word) ∧ Grammatical ts ∧ MadeOf side ts c := by
  obtain ⟨ts, run, hwords⟩ := exists_alternates s
  rcases parse_cases side hwords with ⟨c', hc, hfits, -, hmade⟩ | ⟨f, hf, -⟩
  · obtain rfl : c' = c := Except.ok.inj (hc.symm.trans h)
    exact ⟨ts, hwords.solid, hfits, hmade⟩
  · rw [hf] at h
    cases h

theorem positional_of_mem_keys (h : parse side s = .ok c) {key : String} (hkey : key ∈ c.keys) :
    Solid key.toList ∧ Positional key.toList := by
  obtain ⟨ts, hsolid, hfits, hmade⟩ := exists_madeOf h
  obtain ⟨⟨k, test⟩, hmem, rfl⟩ := List.mem_map.1 hkey
  have hget := hmade.ordered.mem_toList_iff.1 hmem
  rw [hmade.get?] at hget
  split at hget
  · next hhas =>
    obtain ⟨t, ht, hrole, rfl⟩ := hhas
    obtain ⟨before, after, rfl⟩ := List.append_of_mem ht
    have hfit := hfits before t after rfl
    rw [Token.Fits, hrole] at hfit
    rw [String.toList_ofList]
    exact ⟨hsolid t ht, hfit⟩
  · cases hget

/-- A reference is written as one of the words, after a `$`. -/
theorem solid_of_mem_references (h : parse side s = .ok c) {name : String}
    (hname : name ∈ c.references) : Solid ('$' :: name.toList) := by
  obtain ⟨ts, hsolid, -, hmade⟩ := exists_madeOf h
  obtain ⟨⟨key, test⟩, hmem, htest⟩ := List.mem_flatMap.1 hname
  have hget := hmade.ordered.mem_toList_iff.1 hmem
  rw [hmade.get?] at hget
  split at hget
  · obtain rfl := Option.some.inj hget
    obtain ⟨p, hp, hreference⟩ := List.mem_filterMap.1 htest
    simp only [asked, ← List.map_append] at hp
    obtain ⟨w, hw, rfl⟩ := List.mem_map.1 hp
    have hword : ∃ t ∈ ts, t.word = w := by
      rcases List.mem_append.1 hw with hw | hw
      · exact mem_of_mem_given hw
      · exact mem_of_mem_given hw
    obtain ⟨t, ht, rfl⟩ := hword
    rw [← Pattern.word_of_reference? hreference]
    exact hsolid t ht
  · cases hget

end Condition

section

variable {text : String} {force : Bool} {c : Clause} (h : compile text force = .ok c)

include h

/-- Every key of the when-part that begins like a positional argument is one. -/
theorem isPosition_of_mem_keys {name : String} (hname : name ∈ c.whenPart.keys)
    (hlike : ArgumentLike name) : ∃ n, IsPosition name n := by
  rcases parseWhen_cases (compiled_of_compile h).whenPart with ⟨-, hempty⟩ | ⟨-, hparse⟩
  · rw [hempty] at hname
    cases hname
  · obtain ⟨hsolid, hpositional⟩ := Condition.positional_of_mem_keys hparse hname
    obtain ⟨digits, n, hwritten, hdigits⟩ := hpositional hlike
    refine ⟨n, isPosition_of_argumentIndex? hsolid hlike ?_⟩
    rw [hwritten] at hsolid
    have hindex := argumentIndex?_of_solid hsolid hdigits
    rwa [← hwritten, String.ofList_toList] at hindex

/-- A reference is written as a word, after its `$`. -/
theorem solid_of_mem_references {name : String} (hname : name ∈ c.references) :
    Solid ('$' :: name.toList) := by
  rcases parseThen_cases (compiled_of_compile h).thenPart with ⟨-, hnone⟩ | ⟨-, t, hparse, hsome⟩
  · rw [references, hnone] at hname
    cases hname
  · rw [references, hsome] at hname
    exact Condition.solid_of_mem_references hparse hname

/-- A reference that begins like a positional argument is one, or a stray. -/
theorem isPosition_of_mem_references {name : String} (hname : name ∈ c.references)
    (hlike : ArgumentLike name) (hstray : name ∉ c.strays) : ∃ n, IsPosition name n := by
  have hindex : argumentIndex? name ≠ none := fun hnone =>
    hstray (mem_strays_iff.2 ⟨hname, hlike, hnone⟩)
  obtain ⟨n, hn⟩ := Option.ne_none_iff_exists'.1 hindex
  refine ⟨n, isPosition_of_argumentIndex? ⟨?_, fun x hx => ?_⟩ hlike hn⟩
  · exact List.ne_nil_of_length_pos (Nat.lt_of_lt_of_le (by decide) hlike.length_le)
  · exact (solid_of_mem_references h hname).notGap x (List.mem_cons_of_mem '$' hx)

theorem isPosition_of_mem_names {name : String} (hname : name ∈ c.names)
    (hlike : ArgumentLike name) (hstray : name ∉ c.strays) : ∃ n, IsPosition name n := by
  rcases List.mem_append.1 hname with hname | hname
  · exact isPosition_of_mem_keys h hname hlike
  · exact isPosition_of_mem_references h hname hlike hstray

theorem byPosition_iff : c.ByPosition ↔ c.strays = [] := by
  rw [List.eq_nil_iff_forall_not_mem]
  constructor
  · intro hposition name hmem
    obtain ⟨hname, hstray⟩ := mem_strays_iff.1 hmem
    obtain ⟨n, hn⟩ := hposition name (List.mem_append_right _ hname) hstray.1
    exact hstray.not_isPosition n hn
  · intro hnone name hname hlike
    exact isPosition_of_mem_names h hname hlike (hnone name)

/-- Attributes that begin like positional arguments do not count, but for those of strays. -/
theorem apply_of_sameBut {call call' : Call}
    (hsame : call.SameBut (fun name => ArgumentLike name ∧ name ∉ c.strays) call') (pool : Pool) :
    c.apply call pool = c.apply call' pool := by
  refine apply_congr (fun name hname => hsame.lookup fun hlike => ?_) pool
  exact isPosition_of_mem_names h hname hlike.1 hlike.2

end

/-! ## What strays do -/

section

variable {name : String} (hsolid : Solid ('$' :: name.toList))
  (hmarkers : ∀ m ∈ markers, ¬ m <:+: '$' :: name.toList) (force : Bool)

include hsolid hmarkers

/-- The clause `=> host = $name` keeps the endpoints with the host that the call has under the
name. -/
theorem exists_hostReference :
    ∃ c, compile (String.ofList ("=> host = ".toList ++ '$' :: name.toList)) force = .ok c ∧
      ∀ call pool, c.apply call pool =
        let kept := pool.filter fun e => call.lookup name = some e.host
        if kept = [] ∧ force = false then pool else kept := by
  let w : Word := ⟨'$' :: name.toList, hsolid⟩
  have hreference : w.reference? .endpoint = some name := by
    simp only [w, Word.reference?, String.ofList_toList]
  refine ⟨_, compile_plainHost hsolid hmarkers force, fun call pool => ?_⟩
  generalize hc : Clause.mk _ force Dict.empty (some _) = c
  have haccepts : c.accepts call = fun e => decide (call.lookup name = some e.host) := by
    funext e
    have hiff := accepts_hostIs_iff (c := c) (w := w) (by rw [← hc]) call e
    rw [Word.Fits, hreference] at hiff
    rw [Bool.eq_iff_iff, hiff, decide_eq_true_iff]
  have hforce : c.force = force := by rw [← hc]
  have hselects : c.selects call = true := by rw [← hc]; rfl
  have hblacklists : c.blacklists = false := by rw [← hc]; rfl
  simp only [apply, hselects, hblacklists, haccepts, hforce]
  cases pool with
  | nil => simp
  | cons e pool => simp

/-- A clause that refers to a stray name goes by the attribute of that name. -/
theorem exists_moved (hstray : Stray name) :
    ∃ c call call' pool,
      compile (String.ofList ("=> host = ".toList ++ '$' :: name.toList)) force = .ok c ∧
        call.SameBut ArgumentLike call' ∧ c.apply call pool ≠ c.apply call' pool := by
  obtain ⟨c, hc, happly⟩ := exists_hostReference hsolid hmarkers force
  let there : Endpoint := { id := "1", host := "there" }
  let elsewhere : Endpoint := { id := "2", host := "elsewhere" }
  let told : Call := { attributes := Dict.empty.insert name "there" }
  refine ⟨c, {}, told, [there, elsewhere], hc, ⟨rfl, rfl, rfl, fun key hkey => ?_⟩, ?_⟩
  · have hne : key ≠ name := fun heq => hkey (heq ▸ hstray.1)
    rw [Dict.get?_insert, if_neg hne]
  · have htold : told.lookup name = some "there" := by
      rw [hstray.lookup, Dict.get?_insert, if_pos rfl]
    rw [happly, happly, htold, lookup_empty]
    cases force <;> simp [there, elsewhere]

end

/-- **Positional arguments are looked up by position, if they name one.** A clause sees of a call
only what it looks up. Every key of its when-part that begins like a positional argument stands for
the argument at a position. A reference in its then-part that begins so may have no position, and
then it stands for an attribute. So all of them are positional exactly if there is no such
reference, and of the attributes that begin so only those with the names of such references can make
a difference; for each of these names there is a clause and a call for which one does. -/
theorem arguments_by_position {text : String} {force : Bool} {c : Clause}
    (h : compile text force = .ok c) :
    (∀ call call' pool, (∀ name ∈ c.names, call.lookup name = call'.lookup name) →
      c.apply call pool = c.apply call' pool) ∧
    (∀ name ∈ c.whenPart.keys, ArgumentLike name → ∃ n, IsPosition name n) ∧
    (∀ name ∈ c.references, ArgumentLike name → (∃ n, IsPosition name n) ∨
      name ∈ c.strays ∧ ∀ call : Call, call.lookup name = call.attributes.get? name) ∧
    (c.ByPosition ↔ c.strays = []) ∧
    (∀ call call' pool, call.SameBut (fun name => ArgumentLike name ∧ name ∉ c.strays) call' →
      c.apply call pool = c.apply call' pool) ∧
    ∀ name ∈ c.strays, (∀ m ∈ markers, ¬ m <:+: '$' :: name.toList) →
      ∃ moved call call' pool,
        compile (String.ofList ("=> host = ".toList ++ '$' :: name.toList)) force = .ok moved ∧
          call.SameBut ArgumentLike call' ∧ moved.apply call pool ≠ moved.apply call' pool := by
  refine ⟨?_, ?_, ?_, byPosition_iff h, ?_, ?_⟩
  · exact fun call call' pool hlookup => apply_congr hlookup pool
  · exact fun name hname hlike => isPosition_of_mem_keys h hname hlike
  · intro name hname hlike
    by_cases hmem : name ∈ c.strays
    · exact .inr ⟨hmem, (mem_strays_iff.1 hmem).2.lookup⟩
    · exact .inl (isPosition_of_mem_references h hname hlike hmem)
  · exact fun call call' pool hsame => apply_of_sameBut h hsame pool
  · intro name hmem hmarkers
    obtain ⟨hname, hstray⟩ := mem_strays_iff.1 hmem
    exact exists_moved (solid_of_mem_references h hname) hmarkers force hstray

/-- A key and a reference with positions, the one with a sign and two zeros; and a reference with a
sign that positions do not have. -/
theorem arguments_by_position_signed :
    (∃ c, compile "arguments[+00]=vip => host = $arguments[1]" true = .ok c ∧ c.ByPosition ∧
      ∀ e : Endpoint, ∀ call : Call,
        c.apply { call with attributes := Dict.empty.insert "arguments[1]" e.host } [e] =
          c.apply { call with attributes := .empty } [e]) ∧
    ∃ c call call' pool, compile "=> host = $arguments[-1]" false = .ok c ∧
      call.SameBut ArgumentLike call' ∧ c.apply call pool ≠ c.apply call' pool := by
  constructor
  · let c : Clause :=
      { source := "arguments[+00]=vip => host = $arguments[1]"
        force := true
        whenPart := ⟨[("arguments[+00]", { accepted := [.exact "vip"] })]⟩
        thenPart := some ⟨[("host", { accepted := [.reference "arguments[1]"] })]⟩ }
    have hc : compile "arguments[+00]=vip => host = $arguments[1]" true = .ok c := by
      decide +kernel
    obtain ⟨-, -, -, hposition, hsame, -⟩ := arguments_by_position hc
    have hstrays : c.strays = [] := by decide +kernel
    refine ⟨c, hc, hposition.2 hstrays, fun e call => hsame _ _ _ ⟨rfl, rfl, rfl, ?_⟩⟩
    intro name hname
    rw [hstrays] at hname
    have hne : name ≠ "arguments[1]" := by
      rintro rfl
      exact hname ⟨by decide +kernel, List.not_mem_nil⟩
    rw [Dict.get?_insert, if_neg hne]
  · let c : Clause :=
      { source := "=> host = $arguments[-1]"
        force := false
        whenPart := .empty
        thenPart := some ⟨[("host", { accepted := [.reference "arguments[-1]"] })]⟩ }
    have hc : compile "=> host = $arguments[-1]" false = .ok c := by decide +kernel
    obtain ⟨-, -, -, -, -, hstray⟩ := arguments_by_position hc
    have hmoved := hstray "arguments[-1]" (by decide +kernel) (by decide +kernel)
    rwa [show String.ofList _ = "=> host = $arguments[-1]" by decide +kernel] at hmoved

/-- A reference without a position is not refused, and goes by the attributes of the call. -/
theorem not_byPosition :
    ∃ c, compile "=> host = $arguments[x]" true = .ok c ∧ ¬ c.ByPosition ∧
      ¬ ∀ call call' pool, call.SameBut ArgumentLike call' →
        c.apply call pool = c.apply call' pool := by
  have hsolid : Solid ('$' :: "arguments[x]".toList) := by decide +kernel
  have hstray : Stray "arguments[x]" := by decide +kernel
  obtain ⟨c, call, call', pool, hc, hsame, hmoved⟩ :=
    exists_moved hsolid (by decide +kernel) true hstray
  rw [show String.ofList _ = "=> host = $arguments[x]" by decide +kernel] at hc
  refine ⟨c, hc, fun hposition => ?_, fun hall => hmoved (hall call call' pool hsame)⟩
  have hnone : c.strays = [] := (byPosition_iff hc).1 hposition
  refine hmoved (apply_of_sameBut hc ?_ pool)
  simpa only [hnone, List.not_mem_nil, not_false_eq_true, and_true] using hsame

end Clause
end CallRouting
