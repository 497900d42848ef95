/-!
# Colours

Words of a report may be coloured where it is shown on a terminal.
-/

namespace CallRouting.Report

inductive Tint where
  | red
  | green
  | yellow
  | cyan
  | dimmed

/-- The number by which a terminal knows it. -/
def Tint.code : Tint → String
  | red => "31"
  | green => "32"
  | yellow => "33"
  | cyan => "36"
  | dimmed => "2"

/-- A text in a colour, if colours are shown. -/
def tinted (shown : Bool) (t : Tint) (s : String) : String :=
  if shown then "\x1b[" ++ t.code ++ "m" ++ s ++ "\x1b[0m" else s

/-- A truth value, as an answer. -/
def answer (shown : Bool) (b : Bool) : String :=
  if b then tinted shown .green "yes" else tinted shown .dimmed "no"

end CallRouting.Report
