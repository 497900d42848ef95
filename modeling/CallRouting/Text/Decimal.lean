import CallRouting.Text.Number

/-!
# Decimal numbers as binary ones

A `Binary64` is a finite number of double precision without its sign, `mantissa * 2 ^ exponent`. Its
mantissa has 53 bits unless its exponent is the least one, so it has one form.

* `Binary64.ofRatio?` : the nearest such number, an exact half going to the even mantissa; nothing
  if it is too large;
* `Decimal.parse?` : a decimal number with point and exponent, as its digits and a power of ten.
-/

namespace CallRouting.Text

structure Binary64 where
  mantissa : Nat
  exponent : Int
deriving DecidableEq

namespace Binary64

def zero : Binary64 := ⟨0, -1074⟩

/-- `num / den` to the nearest integer, an exact half going to the even neighbour. -/
def roundDiv (num den : Nat) : Nat :=
  let q := num / den
  let r := num % den
  if 2 * r < den then q else if den < 2 * r then q + 1 else q + q % 2

/-- `num / den / 2 ^ e`, rounded. -/
def scaled (num den : Nat) (e : Int) : Nat :=
  if 0 ≤ e then roundDiv num (den <<< e.toNat) else roundDiv (num <<< (-e).toNat) den

/-- The double nearest to `num / den`. The binary lengths of the two numbers fix the exponent but
for one; the mantissa tells which it is. -/
def ofRatio? (num den : Nat) : Option Binary64 :=
  if num = 0 then some zero
  else
    let low : Int := max ((num.log2 : Int) - den.log2 - 53) (-1074)
    let e := if scaled num den low < Nat.pow 2 53 then low else low + 1
    let m := scaled num den e
    if m = Nat.pow 2 53 then if e < 971 then some ⟨Nat.pow 2 52, e + 1⟩ else none
    else if e ≤ 971 then some ⟨m, e⟩ else none

end Binary64

/-- `digits * 10 ^ exponent`. -/
structure Decimal where
  digits : Nat
  exponent : Int
deriving DecidableEq

namespace Decimal

/-- The exponent after the mark `e`: a sign or none, and digits. -/
def exponent? : List Char → Option Int
  | [] => some 0
  | m :: r =>
    if m = 'e' || m = 'E' then
      match r with
      | '-' :: ds => (natInBase? 10 ds).map fun n => -(n : Int)
      | '+' :: ds => (natInBase? 10 ds).map fun n => (n : Int)
      | ds => (natInBase? 10 ds).map fun n => (n : Int)
    else none

/-- Digits with at most one point among them, and an exponent or none. -/
def parse? (s : List Char) : Option Decimal := do
  let whole := s.takeWhile Char.isDigit
  let r := s.dropWhile Char.isDigit
  let (fraction, r) := match r with
    | '.' :: r => (r.takeWhile Char.isDigit, r.dropWhile Char.isDigit)
    | _ => ([], r)
  let digits ← natInBase? 10 (whole ++ fraction)
  let e ← exponent? r
  some { digits, exponent := e - fraction.length }

/-- The nearest double. A number of more than 400 places before or after its point is judged by its
size alone. -/
def toBinary64? (d : Decimal) : Option Binary64 :=
  let places : Int := (Nat.toDigits 10 d.digits).length + d.exponent
  if d.digits = 0 || places < -400 then some .zero
  else if places > 400 then none
  else if 0 ≤ d.exponent then Binary64.ofRatio? (d.digits * Nat.pow 10 d.exponent.toNat) 1
  else Binary64.ofRatio? d.digits (Nat.pow 10 (-d.exponent).toNat)

end Decimal
end CallRouting.Text
