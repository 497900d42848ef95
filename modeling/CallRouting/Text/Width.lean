import CallRouting.Text.Ranges
import CallRouting.Text.WidthTable

/-!
# The width of a text

`width s` is the number of places that `s` takes on one line of a terminal. Most characters take one
place, control characters among them; the letters of East Asia take two, and marks that combine with
a letter none. Pictures may be made up of several characters, and take two places together.
-/

namespace CallRouting.Text

def charWidth (c : Char) : Nat :=
  if c.toNat < 0x300 && c ≠ '\u00AD' then 1
  else if inRanges zeroWidthRanges c then 0
  else if inRanges wideRanges c then 2
  else 1

/-- Whether a character is a picture by itself. -/
def isPicture (c : Char) : Bool :=
  charWidth c = 2 && ((0x2300 ≤ c.toNat && c.toNat ≤ 0x2BFF) || 0x1F000 ≤ c.toNat)

def isSkin (c : Char) : Bool := 0x1F3FB ≤ c.toNat && c.toNat ≤ 0x1F3FF

/-- What the characters so far may go on as. -/
inductive Link where
  | none
  /-- A picture has just been completed. -/
  | picture
  /-- A picture is to be joined with the next one. -/
  | joined
deriving DecidableEq

/-- The places of a picture; one that is joined to another takes no more. -/
def Link.places (l : Link) : Nat := if l = .joined then 0 else 2

def widthFrom (l : Link) : List Char → Nat
  | [] => 0
  | [c] => if isPicture c then l.places else charWidth c
  | c :: d :: r =>
    if c = '\u200D' then widthFrom (if l = .picture then .joined else .none) (d :: r)
    else if d = '\uFE0F' && (isPicture c || inRanges pictureRanges c) then
      l.places + widthFrom .picture r
    else if isSkin d && inRanges skinRanges c then l.places + widthFrom .picture r
    else if d = '\uFE0E' && isPicture c then 1 + widthFrom .none r
    else if isPicture c then l.places + widthFrom .picture (d :: r)
    else charWidth c + widthFrom .none (d :: r)

def width (s : String) : Nat := widthFrom .none s.toList

end CallRouting.Text
