/-
  SlotIR.Program.Name
  ───────────────────
  **NAMES AND POSITIONS.**

  A name is a text, as a rule.  But any value may stand in its place: every
  name has a text, from which slots and symbols are formed, and a name
  without parts has a KEY, under which a scope binds it.  Names are the
  same if they are equal as values; the text "5" and the number 5 are two
  names with one text.

  A position is an integer, as a rule, and only its text counts.
-/
import SlotIR.Datum.Display
import SlotIR.Datum.Equality
import SlotIR.Program.ReadFault

namespace SlotIR

/-! ## §1. Names. -/

/-- A name: the value that stands in its place. -/
structure Name where
  value : Datum
  deriving DecidableEq, Repr

namespace Name

/-- The name that a text is. -/
@[match_pattern] abbrev ofText (s : String) : Name := ⟨.text s⟩

/-- The text of a name. -/
def text (name : Name) : String := name.value.written

/-- The key under which scopes bind a name. -/
def key : Name → Reading Key
  | ⟨.atom a⟩ => .ok a.key
  | ⟨other⟩ => .error (.compoundName other.typeName)

/-- Two names are the same. -/
def same (m n : Name) : Bool := m.value.equalWhole n.value

@[simp] theorem text_ofText (s : String) : (ofText s).text = s := rfl

@[simp] theorem key_ofText (s : String) : (ofText s).key = .ok (.text s) := rfl

/-- Names that are texts are the same if the texts are. -/
@[simp] theorem same_ofText (s t : String) : same (ofText s) (ofText t) = decide (s = t) := by
  by_cases h : s = t <;> simp [same, Datum.equalWhole, Datum.equal, Datum.alike, Atom.key, h]

end Name

/-! ## §2. Positions. -/

/-- A position in the source: an offset, or another value given by its text. -/
inductive Pos where
  | offset (n : Int)
  | other (text : String)
  deriving DecidableEq, Repr

/-- The text of a position. -/
def Pos.text : Pos → String
  | .offset n => Text.decimal n
  | .other text => text

end SlotIR
