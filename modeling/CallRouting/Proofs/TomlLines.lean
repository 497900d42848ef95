import CallRouting.Proofs.TomlStrings
import CallRouting.Toml.Document

/-!
# Lines of TOML

A line of a document is most often read without regard to what follows it.

* `linesWithin?_succ` : how one line is read;
* `ReadsAs` : a line that is read on its own, as one entry or as none;
* `readsAs_comment`, `readsAs_assignment` : comments, and names that are given a value;
* `linesWithin?_eq_none` : a name that is given something else.
-/

namespace CallRouting.Toml

theorem linesWithin?_succ (fuel : Nat) (s : List Char) :
    linesWithin? (fuel + 1) s =
      if skipSpaces s = [] then some []
      else match endOfLine? (skipSpaces s) with
        | some r => linesWithin? fuel r
        | none => (heading? (skipSpaces s)).bind fun (line, r) =>
          (endOfLine? r).bind fun r => (linesWithin? fuel r).map (line :: ·) := by
  rw [linesWithin?]
  split
  · next h => rw [if_pos h]
  · next h =>
    rw [if_neg h]
    cases hend : endOfLine? (skipSpaces s) with
    | some r => rfl
    | none =>
      cases heading? (skipSpaces s) with
      | none => rfl
      | some p =>
        cases hr : endOfLine? p.2 with
        | none => simp [hr]
        | some r => cases hl : linesWithin? fuel r <;> simp [hr, hl]

/-- A line that is read on its own, as one entry at most, whatever follows it. -/
def ReadsAs (l : List Char) (o : Option Line) : Prop :=
  ∀ fuel r, linesWithin? (fuel + 1) (l ++ '\n' :: r) = (linesWithin? fuel r).map (o.toList ++ ·)

theorem readsAs_none {l : List Char} (hskip : ∀ r, skipSpaces (l ++ '\n' :: r) = l ++ '\n' :: r)
    (hend : ∀ r, endOfLine? (l ++ '\n' :: r) = some r) : ReadsAs l none := fun fuel r => by
  rw [linesWithin?_succ, hskip, hend, if_neg (by simp)]
  show linesWithin? fuel r = _
  cases linesWithin? fuel r <;> rfl

theorem readsAs_some {l : List Char} {line : Line}
    (hskip : ∀ r, skipSpaces (l ++ '\n' :: r) = l ++ '\n' :: r)
    (hend : ∀ r, endOfLine? (l ++ '\n' :: r) = none)
    (h : ∀ r, heading? (l ++ '\n' :: r) = some (line, '\n' :: r)) :
    ReadsAs l (some line) := fun fuel r => by
  have hnext : endOfLine? ('\n' :: r) = some r := rfl
  rw [linesWithin?_succ, hskip, hend, h, if_neg (by simp)]
  simp only [Option.bind_some, hnext, Option.toList_some, List.singleton_append]

theorem readsAs_comment {cs : List Char} (h : ∀ c ∈ cs, isPrinting c = true) :
    ReadsAs ('#' :: cs) none := readsAs_none (fun _ => rfl) fun r => by
  have hdrop : (cs ++ '\n' :: r).dropWhile isPrinting = '\n' :: r := by
    rw [List.dropWhile_append_of_pos h]
    rfl
  have hcomment : endOfLine? ('#' :: (cs ++ '\n' :: r)) =
      if ((cs ++ '\n' :: r).dropWhile isPrinting).isEmpty then some []
      else newline? ((cs ++ '\n' :: r).dropWhile isPrinting) := rfl
  rw [List.cons_append, hcomment, hdrop]
  rfl

/-! ## Names -/

/-- What a name of bare characters does not begin with. -/
theorem ne_of_isBare {c : Char} (h : isBare c = true) :
    isSpace c = false ∧ c ≠ '"' ∧ c ≠ '\'' ∧ c ≠ '#' ∧ c ≠ '\n' ∧ c ≠ '\r' ∧ c ≠ '[' := by
  refine ⟨?_, ?_, ?_, ?_, ?_, ?_, ?_⟩
  · simp only [isSpace, Bool.or_eq_false_iff, decide_eq_false_iff_not]
    exact ⟨by rintro rfl; exact absurd h (by decide), by rintro rfl; exact absurd h (by decide)⟩
  all_goals
    rintro rfl
    exact absurd h (by decide)

section

variable {name : List Char} (hne : name ≠ []) (hname : ∀ c ∈ name, isBare c = true)
include hne hname

theorem skipSpaces_bare (x : List Char) : skipSpaces (name ++ x) = name ++ x := by
  obtain ⟨c, cs, rfl⟩ := List.exists_cons_of_ne_nil hne
  have hspace := (ne_of_isBare (hname c List.mem_cons_self)).1
  simp [skipSpaces, hspace]

theorem endOfLine?_bare (x : List Char) : endOfLine? (name ++ x) = none := by
  rw [endOfLine?, skipSpaces_bare hne hname]
  obtain ⟨c, cs, rfl⟩ := List.exists_cons_of_ne_nil hne
  obtain ⟨-, -, -, hcomment, hline, hreturn, -⟩ := ne_of_isBare (hname c List.mem_cons_self)
  simp [newline?, hcomment, hline, hreturn]

theorem keyPath?_bare (x : List Char) :
    keyPath? (name ++ ' ' :: '=' :: x) = some ([String.ofList name], '=' :: x) := by
  have htake : (name ++ ' ' :: '=' :: x).takeWhile isBare = name := by
    rw [List.takeWhile_append_of_pos hname]
    simp [List.takeWhile, show isBare ' ' = false from rfl]
  have hdrop : (name ++ ' ' :: '=' :: x).dropWhile isBare = ' ' :: '=' :: x := by
    rw [List.dropWhile_append_of_pos hname]
    rfl
  have hread : name? (name ++ ' ' :: '=' :: x) = some (String.ofList name, ' ' :: '=' :: x) := by
    obtain ⟨c, cs, rfl⟩ := List.exists_cons_of_ne_nil hne
    obtain ⟨-, hquote, hapostrophe, -⟩ := ne_of_isBare (hname c List.mem_cons_self)
    unfold name?
    split
    · next h => exact absurd (List.cons.inj h).1 hquote
    · next h => exact absurd (List.cons.inj h).1 hapostrophe
    · rw [htake, hdrop]
      rfl
  show names? (78 + 1) _ = _
  rw [names?, skipSpaces_bare hne hname, hread]
  rfl

/-- A name, an equals sign and a value. -/
theorem heading?_assignment {w : List Char} (hw : skipSpaces w = w) :
    heading? (name ++ " = ".toList ++ w) =
      (value? w).map fun p => (.assignment [String.ofList name] p.1, p.2) := by
  have htext : name ++ " = ".toList ++ w = name ++ ' ' :: '=' :: ' ' :: w := by simp
  have hpair : pair? value? (name ++ ' ' :: '=' :: ' ' :: w) =
      (value? w).map fun p => (([String.ofList name], p.1), p.2) := by
    have hblank : skipSpaces (' ' :: w) = w := hw
    simp only [pair?, keyPath?_bare hne hname, Option.bind_eq_bind, Option.bind_some, expect?,
      if_true, hblank]
    cases value? w <;> rfl
  rw [htext]
  obtain ⟨c, cs, rfl⟩ := List.exists_cons_of_ne_nil hne
  obtain ⟨-, -, -, -, -, -, hbracket⟩ := ne_of_isBare (hname c List.mem_cons_self)
  unfold heading?
  split
  · next h => exact absurd (List.cons.inj h).1 hbracket
  · next h => exact absurd (List.cons.inj h).1 hbracket
  · rw [hpair]
    cases value? w <;> rfl

/-- A name is given a value. -/
theorem readsAs_assignment {w : List Char} {v : Value}
    (hw : ∀ r, skipSpaces (w ++ '\n' :: r) = w ++ '\n' :: r)
    (hv : ∀ r, value? (w ++ '\n' :: r) = some (v, '\n' :: r)) :
    ReadsAs (name ++ " = ".toList ++ w) (some (.assignment [String.ofList name] v)) := by
  refine readsAs_some (fun r => ?_) (fun r => ?_) fun r => ?_
  · simp only [List.append_assoc]
    exact skipSpaces_bare hne hname _
  · simp only [List.append_assoc]
    exact endOfLine?_bare hne hname _
  · rw [List.append_assoc, heading?_assignment hne hname (hw r), hv]
    rfl

/-- What is no value leaves the text malformed. -/
theorem linesWithin?_eq_none {w : List Char} (hw : skipSpaces w = w) (hv : value? w = none)
    (fuel : Nat) : linesWithin? fuel (name ++ " = ".toList ++ w) = none := by
  cases fuel with
  | zero => rfl
  | succ fuel =>
    have hskip := skipSpaces_bare hne hname (" = ".toList ++ w)
    have hend := endOfLine?_bare hne hname (" = ".toList ++ w)
    rw [← List.append_assoc] at hskip hend
    rw [linesWithin?_succ, hskip, if_neg (by simp [hne]), hend,
      heading?_assignment hne hname hw, hv]
    rfl

end

end CallRouting.Toml
