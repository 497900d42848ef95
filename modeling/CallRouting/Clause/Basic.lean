import CallRouting.Clause.Condition
import CallRouting.Text.Search

/-!
# Clauses

A `Clause` is one line `when => then` of a rule: calls for which the when-part holds go only to
endpoints for which the then-part holds.

* `Clause.compile` : reads a clause; the markers `consumer.` and `provider.` are dropped first;
* `Clause.compiled_of_compile` : what is known of a clause that was read;
* `Clause.selects`, `Clause.accepts` : the two parts, on a call and on an endpoint;
* `Clause.apply` : what is left of a pool; a clause that leaves nothing is passed over unless it is
  forced.
-/

namespace CallRouting

open Clause (Condition Fault)

/-- A clause was refused; each reason but the first quotes the clause. -/
inductive CompileError where
  | empty
  | fault (clause : String) (fault : Fault)
deriving DecidableEq

def CompileError.message : CompileError → String
  | empty => "Empty condition clause"
  | fault clause f =>
    "Illegal route rule \"" ++ clause ++ "\": " ++ match f with
      | .misplaced run word => "unexpected '" ++ run ++ "' before \"" ++ word ++ "\""
      | .dangling run => "dangling '" ++ run ++ "'"
      | .argument key => "invalid argument key '" ++ key ++ "'"

structure Clause where
  /-- The text that the clause was read from, without blank ends. -/
  source : String
  force : Bool
  /-- Empty when the clause is for every call. -/
  whenPart : Condition
  /-- Absent when calls that the clause selects may go nowhere. -/
  thenPart : Option Condition
deriving DecidableEq

namespace Clause

/-- A clause text without the markers that say which side a key is looked up on. -/
def unmarked (s : List Char) : List Char :=
  Text.remove "provider.".toList (Text.remove "consumer.".toList s)

/-- The texts of the two parts; without an arrow all is then-part. -/
def parts (s : List Char) : List Char × List Char :=
  match Text.cut? ['=', '>'] s with
  | some (before, after) => (Text.trim before, Text.trim after)
  | none => ([], Text.trim s)

def parseWhen (s : List Char) : Except Fault Condition :=
  if s = [] ∨ s = "true".toList then .ok .empty else Condition.parse .call s

def parseThen (s : List Char) : Except Fault (Option Condition) :=
  if s = [] ∨ s = "false".toList then .ok none else (Condition.parse .endpoint s).map some

theorem parseWhen_cases {s : List Char} {c : Condition} (h : parseWhen s = .ok c) :
    ((s = [] ∨ s = "true".toList) ∧ c = .empty) ∨
      (¬(s = [] ∨ s = "true".toList) ∧ Condition.parse .call s = .ok c) := by
  unfold parseWhen at h
  split at h
  · next hspecial =>
    cases h
    exact .inl ⟨hspecial, rfl⟩
  · next hspecial => exact .inr ⟨hspecial, h⟩

theorem parseThen_cases {s : List Char} {c : Option Condition} (h : parseThen s = .ok c) :
    ((s = [] ∨ s = "false".toList) ∧ c = none) ∨
      (¬(s = [] ∨ s = "false".toList) ∧
        ∃ t, Condition.parse .endpoint s = .ok t ∧ c = some t) := by
  unfold parseThen at h
  split at h
  · next hspecial =>
    cases h
    exact .inl ⟨hspecial, rfl⟩
  · next hspecial =>
    cases ht : Condition.parse .endpoint s with
    | error f =>
      rw [ht] at h
      cases h
    | ok t =>
      rw [ht] at h
      cases h
      exact .inr ⟨hspecial, t, rfl, rfl⟩

def compile (text : String) (force : Bool) : Except CompileError Clause :=
  let source := Text.trim text.toList
  if source = [] then .error .empty
  else
    let (before, after) := parts (unmarked source)
    let quoted := String.ofList source
    match parseWhen before, parseThen after with
    | .ok w, .ok t => .ok { source := quoted, force, whenPart := w, thenPart := t }
    | .error f, _ => .error (.fault quoted f)
    | _, .error f => .error (.fault quoted f)

/-- The clause is what the two parts of the text are read to. -/
structure Compiled (text : String) (force : Bool) (c : Clause) : Prop where
  source_ne : Text.trim text.toList ≠ []
  whenPart : parseWhen (parts (unmarked (Text.trim text.toList))).1 = .ok c.whenPart
  thenPart : parseThen (parts (unmarked (Text.trim text.toList))).2 = .ok c.thenPart
  source : c.source = Text.trimmed text
  force : c.force = force

theorem compiled_of_compile {text : String} {force : Bool} {c : Clause}
    (h : compile text force = .ok c) : Compiled text force c := by
  simp only [compile] at h
  split at h
  · cases h
  · next hne =>
    split at h
    · next hw ht =>
      cases h
      exact ⟨hne, hw, ht, rfl, rfl⟩
    · cases h
    · cases h

def everyCall (c : Clause) : Bool := c.whenPart.isEmpty

def blacklists (c : Clause) : Bool := c.thenPart.isNone

/-- Whether the clause is for this call. -/
def selects (c : Clause) (call : Call) : Bool :=
  c.everyCall || c.whenPart.holds call.lookup fun _ => none

/-- Whether a call that the clause selects may go to this endpoint. -/
def accepts (c : Clause) (call : Call) (e : Endpoint) : Bool :=
  match c.thenPart with
  | some t => t.holds e.lookup call.lookup
  | none => false

def apply (c : Clause) (call : Call) (pool : Pool) : Pool :=
  if pool.isEmpty || !c.selects call then pool
  else if c.blacklists then []
  else
    let kept := pool.filter (c.accepts call)
    if kept.isEmpty && !c.force then pool else kept

end Clause
end CallRouting
