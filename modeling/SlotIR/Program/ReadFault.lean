/-
  SlotIR.Program.ReadFault
  ────────────────────────
  **UNREADABLE PARTS OF A TREE.**

  The fields of a tree hold any value, so a part may not be what is needed
  in its place.  That is a fault only when the part is needed: a program
  keeps the fault in place of the part, as a `Reading`.
-/
import SlotIR.Text.Quoted

namespace SlotIR

/-! ## §1. Faults. -/

/-- Why a part of a tree cannot be read. -/
inductive ReadFault where
  /-- A value of type `owner` has no field of that name. -/
  | missing (owner field : String)
  /-- A value of type `owner` stands where a list is walked through. -/
  | notIterable (owner : String)
  /-- A value of type `owner` stands where the items of a list are counted. -/
  | unsized (owner : String)
  /-- A value of type `owner` stands where a number is needed. -/
  | notNumeric (owner : String)
  /-- A text that is no numeral stands where a number is needed. -/
  | malformed (literal : String)
  /-- An infinite number stands where an integer is needed. -/
  | infinite
  /-- A real that is no number stands where an integer is needed. -/
  | undefined
  /-- A record stands where the item of a list at that index is taken. -/
  | noItem (index : Nat)
  /-- A value with parts, of type `owner`, is bound or looked up as a name. -/
  | compoundName (owner : String)
  deriving DecidableEq, Repr

/-- The greatest number of characters of a malformed literal, its quotes included, that a message
shows. -/
def ReadFault.shownLength : Nat := 200

/-- The message of a fault. -/
def ReadFault.message : ReadFault → String
  | .missing owner field => "'" ++ owner ++ "' object has no attribute '" ++ field ++ "'"
  | .notIterable owner => "'" ++ owner ++ "' object is not iterable"
  | .unsized owner => "object of type '" ++ owner ++ "' has no len()"
  | .notNumeric owner =>
    "int() argument must be a string, a bytes-like object or a real number, not '" ++ owner ++ "'"
  | .malformed literal =>
    "invalid literal for int() with base 10: "
      ++ String.ofList ((Text.quotedChars literal.toList).take shownLength)
  | .infinite => "cannot convert float infinity to integer"
  | .undefined => "cannot convert float NaN to integer"
  | .noItem index => index.repr
  | .compoundName owner => "unhashable type: '" ++ owner ++ "'"

/-! ## §2. Readings. -/

/-- A part of a tree, or the fault of an unreadable one. -/
abbrev Reading (α : Type) := Except ReadFault α

end SlotIR
