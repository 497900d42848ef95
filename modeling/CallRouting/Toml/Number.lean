import CallRouting.Text.Decimal

/-!
# Numbers and times in TOML

* `integer?` : a signed integer of 64 bits, or one in base 16, 8 or 2 without a sign;
* `float?` : a number with a point or an exponent; what it is does not matter to any reader here,
  but it may not be too large;
* `time?` : a date, a time or both, in the one spelling in which they are written out.
-/

namespace CallRouting.Toml

/-! ## Digits -/

/-- Digits after a first one, with single underscores between digits, and the text after them. -/
def moreDigits (isDigit : Char → Bool) : List Char → List Char × List Char
  | [] => ([], [])
  | c :: r =>
    if isDigit c then
      let (ds, r) := moreDigits isDigit r
      (c :: ds, r)
    else match c, r with
      | '_', d :: r =>
        if isDigit d then
          let (ds, r) := moreDigits isDigit r
          (d :: ds, r)
        else ([], '_' :: d :: r)
      | _, _ => ([], c :: r)

/-- One or more digits. -/
def digits? (isDigit : Char → Bool) : List Char → Option (List Char × List Char)
  | [] => none
  | c :: r =>
    if isDigit c then
      let (ds, r) := moreDigits isDigit r
      some (c :: ds, r)
    else none

/-- Decimal digits of which the first is a zero only if it stands alone. -/
def whole? : List Char → Option (List Char × List Char)
  | '0' :: r => some (['0'], r)
  | s => digits? Char.isDigit s

def sign : List Char → Bool × List Char
  | '-' :: r => (true, r)
  | '+' :: r => (false, r)
  | s => (false, s)

/-! ## Numbers -/

def based? (base : Nat) (s : List Char) : Option (Int × List Char) := do
  let (ds, r) ← digits? (fun c => (Text.digit? base c).isSome) s
  let n ← Text.natInBase? base ds
  if n ≤ Int64.maxValue.toInt then some (n, r) else none

def integer? : List Char → Option (Int × List Char)
  | '0' :: 'x' :: r => based? 16 r
  | '0' :: 'o' :: r => based? 8 r
  | '0' :: 'b' :: r => based? 2 r
  | s => do
    let (negative, r) := sign s
    let (ds, r) ← whole? r
    let n ← Text.natInBase? 10 ds
    let n : Int := if negative then -n else n
    if Int64.minValue.toInt ≤ n ∧ n ≤ Int64.maxValue.toInt then some (n, r) else none

/-- Digits after the mark of an exponent. -/
def exponent? : List Char → Option (List Char × List Char)
  | m :: r =>
    if m = 'e' || m = 'E' then do
      let (negative, r) := sign r
      let (ds, r) ← digits? Char.isDigit r
      some ('e' :: (if negative then ['-'] else []) ++ ds, r)
    else none
  | [] => none

/-- A number that is written with digits, as its digits and the text after it. -/
def decimal? (s : List Char) : Option (List Char × List Char) := do
  let (ds, r) ← whole? s
  match r with
  | '.' :: r =>
    let (fraction, r) ← digits? Char.isDigit r
    let (e, r) := (exponent? r).getD ([], r)
    some (ds ++ '.' :: fraction ++ e, r)
  | r => do
    let (e, r) ← exponent? r
    some (ds ++ e, r)

/-- The text after a float. A positive one that is no double is refused. -/
def float? (s : List Char) : Option (List Char) :=
  let (negative, r) := sign s
  match r with
  | 'i' :: 'n' :: 'f' :: r => some r
  | 'n' :: 'a' :: 'n' :: r => some r
  | _ => do
    let (ds, r) ← decimal? r
    let d ← Text.Decimal.parse? ds
    if negative || d.toBinary64?.isSome then some r else none

/-! ## Times -/

/-- A number of two digits between two bounds. -/
def two? (low high : Nat) : List Char → Option (Nat × List Char)
  | a :: b :: r => do
    let n ← Text.natInBase? 10 [a, b]
    if low ≤ n && n ≤ high then some (n, r) else none
  | _ => none

def expect? (c : Char) : List Char → Option (List Char)
  | d :: r => if d = c then some r else none
  | [] => none

def isLeap (year : Nat) : Bool := year % 4 = 0 && (year % 100 ≠ 0 || year % 400 = 0)

def daysIn (year month : Nat) : Nat :=
  if month = 2 then if isLeap year then 29 else 28
  else if month ∈ [4, 6, 9, 11] then 30
  else 31

/-- `n` with at least `width` digits. -/
def padded (width n : Nat) : String := String.ofList ((Nat.toDigits 10 n).leftpad width '0')

def date? : List Char → Option (String × List Char)
  | a :: b :: c :: d :: r => do
    let year ← Text.natInBase? 10 [a, b, c, d]
    let (month, r) ← two? 1 12 (← expect? '-' r)
    let (day, r) ← two? 1 (daysIn year month) (← expect? '-' r)
    some (padded 4 year ++ "-" ++ padded 2 month ++ "-" ++ padded 2 day, r)
  | _ => none

/-- The digits of a fraction of a second, of which nine count. -/
def fraction : List Char → String × List Char
  | '.' :: r =>
    let ds := r.takeWhile Char.isDigit
    let kept := ((ds.take 9).reverse.dropWhile (· = '0')).reverse
    if ds.isEmpty then ("", '.' :: r)
    else (if kept.isEmpty then "" else "." ++ String.ofList kept, r.dropWhile Char.isDigit)
  | r => ("", r)

def clock? (s : List Char) : Option (String × List Char) := do
  let (hour, r) ← two? 0 23 s
  let (minute, r) ← two? 0 59 (← expect? ':' r)
  let (second, r) ← two? 0 60 (← expect? ':' r)
  let (f, r) := fraction r
  some (padded 2 hour ++ ":" ++ padded 2 minute ++ ":" ++ padded 2 second ++ f, r)

/-- An offset from universal time; an offset of nothing is a positive one. -/
def offset? : List Char → Option (String × List Char)
  | 'Z' :: r => some ("Z", r)
  | 'z' :: r => some ("Z", r)
  | c :: r =>
    if c = '+' || c = '-' then do
      let (hour, r) ← two? 0 23 r
      let (minute, r) ← two? 0 59 (← expect? ':' r)
      let mark := if c = '-' && (hour ≠ 0 || minute ≠ 0) then "-" else "+"
      some (mark ++ padded 2 hour ++ ":" ++ padded 2 minute, r)
    else none
  | [] => none

/-- The time that may follow a date. -/
def timeOfDay? : List Char → Option (String × List Char)
  | c :: r =>
    if c = 'T' || c = 't' || c = ' ' then do
      let (time, r) ← clock? r
      let (offset, r) := (offset? r).getD ("", r)
      some ("T" ++ time ++ offset, r)
    else none
  | [] => none

def time? (s : List Char) : Option (String × List Char) :=
  match date? s with
  | some (date, r) =>
    let (time, r) := (timeOfDay? r).getD ("", r)
    some (date ++ time, r)
  | none => clock? s

end CallRouting.Toml
