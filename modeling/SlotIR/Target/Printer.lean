/-
  SlotIR.Target.Printer
  ─────────────────────
  **THE TEXT OF THE EMITTED MODULE.**

  Each name, instruction and line has one text; instructions start with a
  tab.  A module is its lines, each ended by a line feed.
-/
import SlotIR.Target.Basic
import SlotIR.Target.Builtins
import SlotIR.Text.Numeral

namespace SlotIR

/-! ## §1. Names and operands. -/

/-- The text of a slot. -/
def Slot.text (slot : Slot) : String :=
  "%local_" ++ slot.name ++ ".pos." ++ slot.pos.text
    ++ (match slot.number with
        | none => ""
        | some n => "." ++ n.repr)

/-- The text of a label where it stands before its block. -/
def Label.text (label : Label) : String := label.tag ++ "." ++ label.number.repr

/-- The text of a temporary. -/
def tempText (number : Nat) : String := "%t" ++ number.repr

/-- The text of a storage place. -/
def Storage.text : Storage → String
  | .slot s => s.text
  | .symbol text => text
  | .given value => value.written

/-- The value that names a storage place. -/
def Storage.value : Storage → Datum
  | .slot s => .text s.text
  | .symbol text => .text text
  | .given value => value

/-- The storage place that a value names. -/
def Storage.ofValue : Datum → Storage
  | .text text => .symbol text
  | value => .given value

/-- A place that a value names is named by it. -/
@[simp] theorem Storage.value_ofValue (value : Datum) : (ofValue value).value = value := by
  unfold ofValue
  split <;> rfl

/-- The text of an operand. -/
def Operand.text : Operand → String
  | .const value => Text.decimal value
  | .temp number => tempText number

/-! ## §2. Instructions. -/

/-- The word for an arithmetic instruction. -/
def ArithOp.mnemonic : ArithOp → String
  | .add => "add"
  | .sub => "sub"
  | .mul => "mul"
  | .div => "sdiv"

/-- The word for a condition of a comparison. -/
def CompareOp.mnemonic : CompareOp → String
  | .eq => "eq"
  | .ne => "ne"
  | .lt => "slt"
  | .le => "sle"
  | .gt => "sgt"
  | .ge => "sge"

/-- The text of an instruction. -/
def Instr.text : Instr → String
  | .load dst source => "\t" ++ tempText dst ++ " = load i32, ptr " ++ source.text ++ ", align 4"
  | .arith dst op left right =>
    "\t" ++ tempText dst ++ " = " ++ op.mnemonic ++ " i32 " ++ left.text ++ ", " ++ right.text
  | .compare dst op left right =>
    "\t" ++ tempText dst ++ " = icmp " ++ op.mnemonic ++ " i32 " ++ left.text ++ ", " ++ right.text
  | .widen dst flag => "\t" ++ tempText dst ++ " = zext i1 " ++ tempText flag ++ " to i32"
  | .call dst callee arg =>
    "\t" ++ tempText dst ++ " = call i32 (i32) " ++ callee.text ++ "(i32 " ++ arg.text ++ ")"
  | .store value target => "\tstore i32 " ++ value.text ++ ", ptr " ++ target.text
  | .jump target => "\tbr label %" ++ target.text
  | .branch flag ifTrue ifFalse =>
    "\tbr i1 " ++ tempText flag ++ ", label %" ++ ifTrue.text ++ ", label %" ++ ifFalse.text
  | .ret => "\tret i32 0"
  | .alloca slot => "\t" ++ slot.text ++ " = alloca i32, align 4"
  | .invoke callee => "\tcall i32 " ++ callee ++ "()"

/-! ## §3. Lines. -/

/-- The text of a line, without its end. -/
def Line.text : Line → String
  | .package name => "; package " ++ name
  | .builtins => Builtins.declarations
  | .blank => ""
  | .global symbol => symbol ++ " = global i32 0"
  | .declare symbol => "declare i32 " ++ symbol ++ "()"
  | .define symbol => "define i32 " ++ symbol ++ "() \x7b"
  | .close => "\x7d"
  | .label l => l.text ++ ":"
  | .instr i => i.text
  | .entry init main => Builtins.entryLines init main
  | .raw value => value.written

/-- The text of a module. -/
def moduleText (lines : List Line) : String :=
  "\n".intercalate (lines.map Line.text) ++ "\n"

/-- The text of a line is that of the lines it consists of. -/
theorem Line.text_expand (line : Line) :
    "\n".intercalate (line.expand.map Line.text) = line.text := by
  cases line with
  | entry init main => simp [expand, entryLines, text, Instr.text, Builtins.entryLines]
  | _ => simp [expand, String.intercalate_singleton]

end SlotIR
