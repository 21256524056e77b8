/-
  SlotIR.Text.Numeral
  ───────────────────
  **INTEGERS IN DECIMAL, WRITTEN AND READ.**

  Writing is canonical: a minus sign for a negative number, no leading
  zeros.  Reading is more liberal.  It accepts

      spacing*  [+ -]?  digit (_? digit)*  spacing*

  where a digit is a decimal digit of any script, and leading zeros carry
  no meaning.  Integers have any number of digits: that a runtime may stop
  at some thousands of them is left out.
-/
import SlotIR.Text.Blank
import SlotIR.Text.Digit

namespace SlotIR.Text

/-! ## §1. Writing. -/

/-- An integer in decimal. -/
def decimal : Int → String
  | .ofNat n => n.repr
  | .negSucc n => "-" ++ (n + 1).repr

example : decimal (-120) = "-120" := by decide +kernel
example : decimal 0 = "0" := by decide +kernel

/-! ## §2. Reading. -/

/-- The number that digits stand for, given the number read so far; between two digits one
underscore may stand. -/
def digitsValue? (soFar : Nat) : List Char → Option Nat
  | [] => some soFar
  | '_' :: c :: rest => do digitsValue? (10 * soFar + (← digitValue? c)) rest
  | c :: rest => do digitsValue? (10 * soFar + (← digitValue? c)) rest

/-- The number that a nonempty run of digits stands for: it starts with a digit. -/
def unsigned? : List Char → Option Nat
  | [] => none
  | c :: rest => do digitsValue? (← digitValue? c) rest

/-- The integer that a numeral without surrounding spacing stands for. -/
def signed? : List Char → Option Int
  | '+' :: rest => (unsigned? rest).map Int.ofNat
  | '-' :: rest => (unsigned? rest).map fun n => -(n : Int)
  | rest => (unsigned? rest).map Int.ofNat

/-- The integer that a text stands for, if it is a numeral. -/
def toInt? (s : String) : Option Int :=
  signed? (trimBy isSpacing s.toList)

example : toInt? " -1_000 " = some (-1000) := by cbv
example : toInt? "1__0" = none := by cbv
example : toInt? "_1" = none := by cbv
example : toInt? "1_" = none := by cbv
example : toInt? "+" = none := by cbv
example : toInt? "٣" = some 3 := by decide +kernel

end SlotIR.Text
