/-!
# Numbers written with digits

* `digit? base c` : the value of a digit; letters of either case go on after `9`;
* `natInBase? base s` : the number that one or more digits write, most significant first;
* `natBelow? bound s` : a decimal number below `bound`, with a plus sign or none; leading zeros are
  allowed, so an overlong number is judged by its value.
-/

namespace CallRouting.Text

def digit? (base : Nat) (c : Char) : Option Nat :=
  let v :=
    if c.isDigit then some (c.toNat - '0'.toNat)
    else if 'a' ≤ c && c ≤ 'z' then some (c.toNat - 'a'.toNat + 10)
    else if 'A' ≤ c && c ≤ 'Z' then some (c.toNat - 'A'.toNat + 10)
    else none
  v.filter (· < base)

def natInBase? (base : Nat) (s : List Char) : Option Nat :=
  if s.isEmpty then none
  else s.foldlM (fun n c => (digit? base c).map (base * n + ·)) 0

def natBelow? (bound : Nat) (s : List Char) : Option Nat :=
  let ds := match s with
    | '+' :: r => r
    | _ => s
  (natInBase? 10 ds).filter (· < bound)

theorem natBelow?_lt {bound n : Nat} {s : List Char} (h : natBelow? bound s = some n) :
    n < bound := by
  simp only [natBelow?, Option.filter_eq_some_iff, decide_eq_true_eq] at h
  exact h.2

end CallRouting.Text
