/-
  SlotIR.Target.Basic
  ───────────────────
  **THE EMITTED MODULE.**

  A module is a list of lines.  Inside a function every value is an i32
  temporary, except the i1 result of a comparison, which is widened or
  branched on.  Variables live in memory: a local one in a stack SLOT of
  its function, a package variable at a symbol.  Three families of names
  begin with a percent sign,

      %tN                   the temporary of number N
      %local_x.pos.P[.N]    the slot of a variable x declared at P
      tag.N                 a label, with the percent sign where it is used

  and the numbers N of all three are drawn from one counter.
-/
import SlotIR.Program.Name
import SlotIR.Program.Operator

namespace SlotIR

/-! ## §1. Names. -/

/-- A stack slot.  A second slot of the same name and position is told apart by a drawn number. -/
structure Slot where
  name : String
  pos : Pos
  number : Option Nat := none
  deriving DecidableEq, Repr

/-- A label of a basic block. -/
structure Label where
  tag : String
  number : Nat
  deriving DecidableEq, Repr

/-- Where a name is kept. -/
inductive Storage where
  /-- In a slot. -/
  | slot (s : Slot)
  /-- At a symbol. -/
  | symbol (text : String)
  /-- At a place given by a value that is no text, but is written as one. -/
  | given (value : Datum)
  deriving DecidableEq, Repr

/-- A value in an instruction: a constant or the temporary of a number. -/
inductive Operand where
  | const (value : Int)
  | temp (number : Nat)
  deriving DecidableEq, Repr

/-! ## §2. Instructions. -/

/-- An instruction.  `dst` is the number of the temporary that it defines. -/
inductive Instr where
  /-- Reads a variable. -/
  | load (dst : Nat) (source : Storage)
  /-- Computes on two i32 values. -/
  | arith (dst : Nat) (op : ArithOp) (left right : Operand)
  /-- Compares two i32 values; the result is an i1. -/
  | compare (dst : Nat) (op : CompareOp) (left right : Operand)
  /-- Widens an i1 temporary to an i32. -/
  | widen (dst flag : Nat)
  /-- Calls a function of one argument. -/
  | call (dst : Nat) (callee : Storage) (arg : Operand)
  /-- Writes a variable. -/
  | store (value : Operand) (target : Storage)
  /-- Goes to a label. -/
  | jump (target : Label)
  /-- Goes to one of two labels, by an i1 temporary. -/
  | branch (flag : Nat) (ifTrue ifFalse : Label)
  /-- Returns zero. -/
  | ret
  /-- Reserves a slot. -/
  | alloca (slot : Slot)
  /-- Calls a function without arguments for its effects. -/
  | invoke (callee : String)
  deriving DecidableEq, Repr

/-! ## §3. Lines. -/

/-- An entry of the emitted module. -/
inductive Line where
  /-- The comment that names the package. -/
  | package (name : String)
  /-- The declarations of the builtin functions. -/
  | builtins
  /-- An empty line. -/
  | blank
  /-- A package variable. -/
  | global (symbol : String)
  /-- A function defined elsewhere. -/
  | declare (symbol : String)
  /-- The opening of a function. -/
  | define (symbol : String)
  /-- The closing of a function. -/
  | close
  /-- The start of a basic block. -/
  | label (l : Label)
  /-- An instruction. -/
  | instr (i : Instr)
  /-- The function that starts the program: it runs the initialiser and then `main`. -/
  | entry (init main : String)
  /-- A line given by a value, which is its text as a rule. -/
  | raw (value : Datum)
  deriving DecidableEq, Repr

/-- The lines of the function that starts the program. -/
def entryLines (init main : String) : List Line :=
  [.blank, .define "@main", .instr (.invoke init), .instr (.invoke main), .instr .ret, .close]

/-- A line as the lines that its text consists of, where these open or close a function. -/
def Line.expand : Line → List Line
  | .entry init main => entryLines init main
  | line => [line]

end SlotIR
