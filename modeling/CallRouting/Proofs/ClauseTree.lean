import CallRouting.Clause.Basic
import CallRouting.Proofs.Tokens

/-!
# Clauses as trees

The clauses that the grammar describes, apart from how they are read: a tree is written as a text,
and has a meaning of its own.

* `Word`, `Listing`, `Group`, `Conjunction`, `Tree` : the syntax;
* `text` : a tree written with one blank on each side of every separator;
* `Conjunction.Holds` : what a conjunction asks of a lookup, for each key over all its groups;
* `Tree.applied` : what is left of a pool.
-/

namespace CallRouting.Clause

/-! ## Syntax -/

/-- A word with neither blanks nor separators. -/
structure Word where
  chars : List Char
  solid : Solid chars

def Word.text (w : Word) : String := String.ofList w.chars

@[ext] theorem Word.ext {v w : Word} (h : v.chars = w.chars) : v = w := by
  cases v
  cases w
  cases h
  rfl

instance : DecidableEq Word := fun v w =>
  decidable_of_iff (v.chars = w.chars) ⟨Word.ext, congrArg Word.chars⟩

/-- Some values that a key may have, or may not have. -/
structure Listing where
  polarity : Polarity
  first : Word
  more : List Word

def Listing.words (l : Listing) : List Word := l.first :: l.more

/-- A key and what is asked of it. A key that begins like a positional argument names a position. -/
structure Group where
  key : Word
  listings : List Listing
  position : argumentsStart <+: key.chars →
    ∃ digits n, key.chars = argumentsStart ++ digits ++ [']'] ∧
      Text.natBelow? UInt64.size digits = some n

structure Conjunction where
  first : Group
  more : List Group

def Conjunction.groups (c : Conjunction) : List Group := c.first :: c.more

/-- Without a when-part the clause is for every call, without a then-part it is a blacklist. -/
structure Tree where
  whenPart : Option Conjunction
  thenPart : Option Conjunction

/-! ## Text -/

def Polarity.sign : Polarity → List Char
  | .accepted => ['=']
  | .rejected => ['!', '=']

def Listing.text (l : Listing) : List Char :=
  [' '] ++ l.polarity.sign ++ [' '] ++ l.first.chars ++
    l.more.flatMap fun w => [' ', ',', ' '] ++ w.chars

def Group.text (g : Group) : List Char := g.key.chars ++ g.listings.flatMap Listing.text

def Conjunction.text (c : Conjunction) : List Char :=
  c.first.text ++ c.more.flatMap fun g => [' ', '&', ' '] ++ g.text

/-- The text of a part; one that is absent has none. -/
def partText : Option Conjunction → List Char
  | some c => c.text
  | none => []

def Tree.text (t : Tree) : List Char :=
  partText t.whenPart ++ [' ', '=', '>', ' '] ++ partText t.thenPart

/-! ## Meaning -/

/-- The key of the call that a word stands for, on the side where words can do so. -/
def Word.reference? : Side → Word → Option String
  | .call, _ => none
  | .endpoint, w => match w.chars with
    | '$' :: key => some (String.ofList key)
    | _ => none

/-- Whether a word is the value: each `*` stands for any text, and a reference for what the call
has under its key. -/
def Word.Fits (side : Side) (call : Call) (w : Word) (value : String) : Prop :=
  match w.reference? side with
  | some key => call.lookup key = some value
  | none => Wildcard.Stands w.chars value.toList

instance (side : Side) (call : Call) (w : Word) (value : String) :
    Decidable (w.Fits side call value) :=
  match h : w.reference? side with
  | some key => decidable_of_iff (call.lookup key = some value) (by simp [Word.Fits, h])
  | none => decidable_of_iff (Wildcard.accepts w.chars value.toList = true)
      (by simp [Word.Fits, h, Wildcard.accepts_iff])

/-- A word without `*` stands for itself only. -/
theorem stands_iff_eq {w s : List Char} (h : '*' ∉ w) : Wildcard.Stands w s ↔ w = s := by
  constructor
  · intro hs
    induction hs with
    | nil => rfl
    | star => exact absurd List.mem_cons_self h
    | char c _ _ ih => rw [ih fun hmem => h (List.mem_cons_of_mem c hmem)]
  · rintro rfl
    induction w with
    | nil => exact .nil
    | cons c w ih =>
      obtain ⟨hc, hw⟩ := not_or.1 (mt List.mem_cons.2 h)
      exact .char c (Ne.symm hc) (ih hw)

theorem stands_star (s : List Char) : Wildcard.Stands ['*'] s := by
  simpa using Wildcard.Stands.star s .nil

def Listing.values (l : Listing) (p : Polarity) : List Word :=
  if l.polarity = p then l.words else []

def Group.values (g : Group) (p : Polarity) : List Word := g.listings.flatMap (·.values p)

namespace Conjunction

/-- The values that a key is given anywhere, in the order written. -/
def values (c : Conjunction) (key : Word) (p : Polarity) : List Word :=
  (c.groups.filter (·.key = key)).flatMap (·.values p)

/-- What is asked of the value of a key: that it is none of the rejected ones, and one of the
accepted ones if there are any. A key that is given no values at all must be missing. -/
def Passes (c : Conjunction) (side : Side) (call : Call) (key : Word) : Option String → Prop
  | some value =>
    (∀ w ∈ c.values key .rejected, ¬ w.Fits side call value) ∧
      if c.values key .accepted = [] then c.values key .rejected ≠ []
      else ∃ w ∈ c.values key .accepted, w.Fits side call value
  | none => c.values key .accepted = []

def Holds (c : Conjunction) (side : Side) (call : Call) (lookup : String → Option String) : Prop :=
  ∀ g ∈ c.groups, c.Passes side call g.key (lookup g.key.text)

variable (c : Conjunction) (side : Side) (call : Call)

instance (key : Word) : (value : Option String) → Decidable (c.Passes side call key value)
  | some _ => inferInstanceAs (Decidable (_ ∧ _))
  | none => inferInstanceAs (Decidable (_ = _))

instance (lookup : String → Option String) : Decidable (c.Holds side call lookup) :=
  inferInstanceAs (Decidable (∀ g ∈ c.groups, _))

end Conjunction

namespace Tree

/-- Whether the clause is for this call. -/
def Selects (t : Tree) (call : Call) : Prop :=
  ∀ c ∈ t.whenPart, c.Holds .call call call.lookup

instance (t : Tree) (call : Call) : Decidable (t.Selects call) :=
  match h : t.whenPart with
  | some c => decidable_of_iff (c.Holds .call call call.lookup) (by simp [Selects, h])
  | none => isTrue (by simp [Selects, h])

/-- What the clause leaves of a pool. -/
def applied (t : Tree) (force : Bool) (call : Call) (pool : Pool) : Pool :=
  if pool = [] ∨ ¬ t.Selects call then pool
  else match t.thenPart with
    | none => []
    | some c =>
      let kept := pool.filter fun e => c.Holds .endpoint call e.lookup
      if kept = [] ∧ force = false then pool else kept

end Tree
end CallRouting.Clause
