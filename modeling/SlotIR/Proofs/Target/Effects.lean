/-
  SlotIR.Proofs.Target.Effects
  ────────────────────────────
  **WHAT AN INSTRUCTION DEFINES, USES AND GOES TO.**

  Temporaries have one of two types: a comparison defines an i1, and every
  other instruction with a result an i32.  An i1 is widened or branched on,
  everything else takes i32 values.
-/
import SlotIR.Target.Basic

namespace SlotIR

/-! ## §1. Temporaries. -/

/-- The type of a temporary. -/
inductive ValueType where
  | i1
  | i32
  deriving DecidableEq, Repr

/-- The temporary that an instruction defines. -/
def Instr.result? : Instr → Option (Nat × ValueType)
  | .load dst _ => some (dst, .i32)
  | .arith dst _ _ _ => some (dst, .i32)
  | .compare dst _ _ _ => some (dst, .i1)
  | .widen dst _ => some (dst, .i32)
  | .call dst _ _ => some (dst, .i32)
  | .store _ _ | .jump _ | .branch _ _ _ | .ret | .alloca _ | .invoke _ => none

/-- The temporaries in an operand, which is an i32. -/
def Operand.uses : Operand → List (Nat × ValueType)
  | .const _ => []
  | .temp n => [(n, .i32)]

/-- The temporaries that an instruction uses, each with the type it is used at. -/
def Instr.uses : Instr → List (Nat × ValueType)
  | .arith _ _ left right => left.uses ++ right.uses
  | .compare _ _ left right => left.uses ++ right.uses
  | .widen _ flag => [(flag, .i1)]
  | .call _ _ arg => arg.uses
  | .store value _ => value.uses
  | .branch flag _ _ => [(flag, .i1)]
  | .load _ _ | .jump _ | .ret | .alloca _ | .invoke _ => []

/-! ## §2. Storage places. -/

/-- The place that an instruction reads, writes or calls. -/
def Instr.place? : Instr → Option Storage
  | .load _ source => some source
  | .call _ callee _ => some callee
  | .store _ target => some target
  | .invoke callee => some (.symbol callee)
  | .arith .. | .compare .. | .widen .. | .jump _ | .branch .. | .ret | .alloca _ => none

/-! ## §3. Control. -/

/-- The instruction ends a basic block. -/
def Instr.isTerminator : Instr → Bool
  | .jump _ | .branch _ _ _ | .ret => true
  | _ => false

/-- The labels that an instruction may go to. -/
def Instr.targets : Instr → List Label
  | .jump target => [target]
  | .branch _ ifTrue ifFalse => [ifTrue, ifFalse]
  | _ => []

/-- The instruction is one of those that expressions, declarations and assignments consist of: it
goes nowhere and reserves nothing. -/
def Instr.isPlain : Instr → Bool
  | .load .. | .arith .. | .compare .. | .widen .. | .call .. | .store .. => true
  | _ => false

/-- The instruction may stand among statements: it neither returns nor reserves a slot, and is no
call from the entry point. -/
def Instr.isInner : Instr → Bool
  | .ret | .alloca _ | .invoke _ => false
  | _ => true

/-- A plain instruction stands inside a block. -/
theorem Instr.isInner_of_isPlain {i : Instr} (h : i.isPlain = true) : i.isInner = true := by
  cases i <;> first | rfl | cases h

/-- A plain instruction ends no block. -/
theorem Instr.isTerminator_of_isPlain {i : Instr} (h : i.isPlain = true) :
    i.isTerminator = false := by
  cases i <;> first | rfl | cases h

/-- A plain instruction branches nowhere. -/
theorem Instr.targets_of_isPlain {i : Instr} (h : i.isPlain = true) : i.targets = [] := by
  cases i <;> first | rfl | cases h

/-! ## §4. Lines. -/

/-- The instruction on a line. -/
def Line.instr? : Line → Option Instr
  | .instr i => some i
  | _ => none

/-- The label on a line. -/
def Line.label? : Line → Option Label
  | .label l => some l
  | _ => none

/-- The instructions among lines. -/
def instrs (lines : List Line) : List Instr := lines.filterMap Line.instr?

/-- The labels among lines. -/
def labels (lines : List Line) : List Label := lines.filterMap Line.label?

@[simp] theorem instrs_nil : instrs [] = [] := rfl

@[simp] theorem instrs_append (c d : List Line) : instrs (c ++ d) = instrs c ++ instrs d :=
  List.filterMap_append

@[simp] theorem instrs_instr (i : Instr) (rest : List Line) :
    instrs (.instr i :: rest) = i :: instrs rest := rfl

@[simp] theorem instrs_label (l : Label) (rest : List Line) :
    instrs (.label l :: rest) = instrs rest := rfl

@[simp] theorem instrs_blank (rest : List Line) : instrs (.blank :: rest) = instrs rest := rfl

@[simp] theorem labels_nil : labels [] = [] := rfl

@[simp] theorem labels_append (c d : List Line) : labels (c ++ d) = labels c ++ labels d :=
  List.filterMap_append

@[simp] theorem labels_instr (i : Instr) (rest : List Line) :
    labels (.instr i :: rest) = labels rest := rfl

@[simp] theorem labels_label (l : Label) (rest : List Line) :
    labels (.label l :: rest) = l :: labels rest := rfl

@[simp] theorem labels_blank (rest : List Line) : labels (.blank :: rest) = labels rest := rfl

end SlotIR
