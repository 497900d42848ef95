import CallRouting.Clause.Basic
import CallRouting.Rule

/-!
# Snapshots

A `Snapshot` is a rule that has been compiled and numbered. It never changes.

* `Matcher`, `Compiler` : what a clause is compiled into, and by what; `Compiler.clauses` compiles
  clauses in the sense of `Clause`;
* `Snapshot.build` : compiles every clause of a valid rule, and none of an invalid one; the first
  clause that is refused stops the build;
* `Snapshot.isConsistent` : each matcher comes from the condition in its place.
-/

namespace CallRouting

/-- A compiled clause. It may fail on a call, and says why. -/
structure Matcher where
  /-- The clause text. -/
  source : String
  apply : Call → Pool → Except String Pool

abbrev Compiler := (text : String) → (force : Bool) → Except CompileError Matcher

def Clause.matcher (c : Clause) : Matcher where
  source := c.source
  apply call pool := .ok (c.apply call pool)

def Compiler.clauses : Compiler := fun text force => (Clause.compile text force).map Clause.matcher

/-- The clauses with one more: `fail`, for drills, has a matcher that fails on every call. -/
def Compiler.drills : Compiler := fun text force =>
  if Text.trimmed text = "fail" then
    .ok { source := text, apply := fun _ _ => .error "lookup backend unavailable" }
  else Compiler.clauses text force

structure Snapshot where
  rule : Rule
  matchers : List Matcher
  /-- How many rules have been installed, this one included. The number stands for a counter of 64
  bits: what is said of versions is meant for runs of fewer than `2 ^ 64 - 1` installs. -/
  version : Nat

namespace Snapshot

def build (compiler : Compiler) (rule : Rule) (version : Nat) : Except CompileError Snapshot := do
  let matchers ← if rule.isValid then rule.conditions.mapM (compiler · rule.force) else pure []
  return { rule, matchers, version }

/-- Whether a call fails when no endpoint is left for it. -/
def isForce (s : Snapshot) : Bool := s.rule.force

/-- Whether every call is filtered anew. -/
def isRuntime (s : Snapshot) : Bool := s.rule.isValid && s.rule.runtime

def isConsistent (s : Snapshot) : Bool :=
  if s.rule.isValid then
    s.matchers.map (·.source) = s.rule.conditions.map Text.trimmed
  else s.matchers.isEmpty

end Snapshot
end CallRouting
