/-
  SlotIR.Datum.Atom
  ─────────────────
  **VALUES WITHOUT PARTS.**

  An atom is null, a boolean, a number or a text.  It has two texts: one
  where it is part of an output (`written`), and one where a message shows
  it (`display`); they differ for a text, which is shown in quotes.

  Atoms are compared by what they stand for (`key`).  A boolean stands for
  the number one or zero, and a number for itself, so the integer 1, the
  real 1.0 and the boolean true are the same, while the text "1" is
  another.
-/
import SlotIR.Datum.Shortest
import SlotIR.Text.Quoted

namespace SlotIR

/-! ## §1. Atoms. -/

/-- A value without parts. -/
inductive Atom where
  | null
  | bool (b : Bool)
  | int (n : Int)
  | real (x : Binary64)
  | text (s : String)
  deriving DecidableEq, Repr, Inhabited

namespace Atom

/-- What messages call the type of an atom. -/
def typeName : Atom → String
  | .null => "NoneType"
  | .bool _ => "bool"
  | .int _ => "int"
  | .real _ => "float"
  | .text _ => "str"

/-- The text of an atom inside an output. -/
def written : Atom → String
  | .null => "None"
  | .bool true => "True"
  | .bool false => "False"
  | .int n => Text.decimal n
  | .real x => x.text
  | .text s => s

/-- How messages show an atom. -/
def display : Atom → String
  | .text s => Text.quoted s
  | other => other.written

/-- An atom holds as a condition, unless it is null, false, zero or empty. -/
def holds : Atom → Bool
  | .null => false
  | .bool b => b
  | .int n => n != 0
  | .real (.finite _ mantissa _) => mantissa != 0
  | .real (.infinite _) | .real .nan => true
  | .text s => s != ""

end Atom

/-! ## §2. What atoms stand for. -/

/-- A number on the line that has infinite ends, or no number. -/
inductive Quantity where
  | finite (q : Rat)
  | infinite (negative : Bool)
  | undefined
  deriving DecidableEq

/-- The number that a floating-point number stands for. -/
def Binary64.quantity : Binary64 → Quantity
  | .finite negative m e => .finite (signedPoint negative m e)
  | .infinite negative => .infinite negative
  | .nan => .undefined

/-- What an atom stands for. -/
inductive Key where
  | null
  | number (q : Quantity)
  | text (s : String)
  deriving DecidableEq

/-- What an atom stands for; atoms are the same if they stand for the same. -/
def Atom.key : Atom → Key
  | .null => .null
  | .bool b => .number (.finite (if b then 1 else 0))
  | .int n => .number (.finite n)
  | .real x => .number x.quantity
  | .text s => .text s

example : Atom.key (.int 1) = Atom.key (.bool true) := by decide +kernel
example : Atom.key (.int 2) = Atom.key (.real (.finite false 8 (-2))) := by decide +kernel
example : Atom.key (.int 1) ≠ Atom.key (.text "1") := by decide +kernel

end SlotIR
