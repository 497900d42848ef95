import CallRouting.Text.Number
import CallRouting.Text.Ranges
import CallRouting.Text.ShapeTable

/-!
# Quoted texts

`quoted s` is `s` between double quotes, for a reader to see where it begins and ends: quotes,
backslashes and characters without a shape of their own are escaped.
-/

namespace CallRouting.Text

/-- A number in hexadecimal digits, lower case. -/
def hex (n : Nat) : String := String.ofList (Nat.toDigits 16 n)

/-- Whether a character can be told by its looks. -/
def hasShape (c : Char) : Bool := !inRanges shapelessRanges c

def escaped (c : Char) : String :=
  match c with
  | '"' => "\\\""
  | '\\' => "\\\\"
  | '\n' => "\\n"
  | '\r' => "\\r"
  | '\t' => "\\t"
  | '\x00' => "\\0"
  | c => if hasShape c then c.toString else "\\u\x7b" ++ hex c.toNat ++ "\x7d"

def quoted (s : String) : String := "\"" ++ String.join (s.toList.map escaped) ++ "\""

end CallRouting.Text
