/-
  SlotIR.Proofs.Meaning.Word
  ──────────────────────────
  **32-BIT ARITHMETIC, IN THE SOURCE AND IN THE EMITTED CODE.**

  A value of the source is an integer of 32 bits in two's complement: an
  operator works on integers, and its result is reduced to 32 bits.  An
  instruction works on the bits.  Both say the same
  (`ArithOp.execute_eq`, `CompareOp.execute_eq`), also about when there
  is no result: for a zero divisor, and for the one quotient that does not
  fit into 32 bits.
-/
import SlotIR.Program.Operator

namespace SlotIR

/-- A 32-bit value. -/
abbrev Word := BitVec 32

/-- The value that an integer is reduced to. -/
def wrap (n : Int) : Word := BitVec.ofInt 32 n

/-! ## §1. Operators of the source. -/

/-- The value of an arithmetic operator, if it has one. -/
def ArithOp.value (op : ArithOp) (a b : Word) : Option Word :=
  match op with
  | .add => some (wrap (a.toInt + b.toInt))
  | .sub => some (wrap (a.toInt - b.toInt))
  | .mul => some (wrap (a.toInt * b.toInt))
  | .div =>
    if b.toInt = 0 ∨ (a.toInt = -2147483648 ∧ b.toInt = -1) then none
    else some (wrap (a.toInt.tdiv b.toInt))

/-- A comparing operator holds of two values. -/
def CompareOp.holds (op : CompareOp) (a b : Word) : Bool :=
  match op with
  | .eq => a.toInt == b.toInt
  | .ne => a.toInt != b.toInt
  | .lt => decide (a.toInt < b.toInt)
  | .le => decide (a.toInt ≤ b.toInt)
  | .gt => decide (b.toInt < a.toInt)
  | .ge => decide (b.toInt ≤ a.toInt)

/-- The value of a comparison. -/
def ofBool (b : Bool) : Word := if b then 1 else 0

/-! ## §2. Instructions. -/

/-- What an arithmetic instruction computes, where it is defined. -/
def ArithOp.execute (op : ArithOp) (a b : Word) : Option Word :=
  match op with
  | .add => some (a + b)
  | .sub => some (a - b)
  | .mul => some (a * b)
  | .div =>
    if b = 0 ∨ (a = BitVec.intMin 32 ∧ b = BitVec.allOnes 32) then none else some (a.sdiv b)

/-- What a comparison instruction computes. -/
def CompareOp.execute (op : CompareOp) (a b : Word) : Bool :=
  match op with
  | .eq => a == b
  | .ne => a != b
  | .lt => a.slt b
  | .le => a.sle b
  | .gt => b.slt a
  | .ge => b.sle a

/-! ## §3. Both agree. -/

theorem wrap_add (a b : Word) : wrap (a.toInt + b.toInt) = a + b := by
  unfold wrap
  rw [BitVec.ofInt_add, BitVec.ofInt_toInt, BitVec.ofInt_toInt]

theorem wrap_neg (a : Word) : wrap (-a.toInt) = -a := by
  unfold wrap
  rw [BitVec.ofInt_neg, BitVec.ofInt_toInt]

theorem wrap_sub (a b : Word) : wrap (a.toInt - b.toInt) = a - b := by
  unfold wrap
  rw [Int.sub_eq_add_neg, BitVec.ofInt_add, BitVec.ofInt_neg, BitVec.ofInt_toInt,
    BitVec.ofInt_toInt, ← BitVec.sub_eq_add_neg]

theorem wrap_mul (a b : Word) : wrap (a.toInt * b.toInt) = a * b := by
  unfold wrap
  rw [BitVec.ofInt_mul, BitVec.ofInt_toInt, BitVec.ofInt_toInt]

theorem wrap_tdiv (a b : Word) : wrap (a.toInt.tdiv b.toInt) = a.sdiv b := by
  unfold wrap
  rw [← BitVec.toInt_inj, BitVec.toInt_ofInt, BitVec.toInt_sdiv]

/-- The two cases without a quotient are the same seen as integers and as bits. -/
theorem undefined_iff (a b : Word) :
    (b.toInt = 0 ∨ (a.toInt = -2147483648 ∧ b.toInt = -1))
      ↔ (b = 0 ∨ (a = BitVec.intMin 32 ∧ b = BitVec.allOnes 32)) := by
  -- an integer of 32 bits and its bits determine each other
  have zero : b.toInt = 0 ↔ b = 0 := by
    rw [← BitVec.toInt_inj]
    rfl
  have least : a.toInt = -2147483648 ↔ a = BitVec.intMin 32 := by
    rw [← BitVec.toInt_inj]
    rfl
  have minus_one : b.toInt = -1 ↔ b = BitVec.allOnes 32 := by
    rw [← BitVec.toInt_inj]
    rfl
  rw [zero, least, minus_one]

/-- An arithmetic instruction computes the value of its operator. -/
theorem ArithOp.execute_eq (op : ArithOp) (a b : Word) : op.execute a b = op.value a b := by
  cases op with
  | add => exact congrArg some (wrap_add a b).symm
  | sub => exact congrArg some (wrap_sub a b).symm
  | mul => exact congrArg some (wrap_mul a b).symm
  | div =>
    unfold execute value
    by_cases undefined : b.toInt = 0 ∨ (a.toInt = -2147483648 ∧ b.toInt = -1)
    · rw [if_pos ((undefined_iff a b).1 undefined), if_pos undefined]
    · rw [if_neg (mt (undefined_iff a b).2 undefined), if_neg undefined, wrap_tdiv]

/-- A comparison instruction computes whether its operator holds. -/
theorem CompareOp.execute_eq (op : CompareOp) (a b : Word) : op.execute a b = op.holds a b := by
  have equal : (a == b) = (a.toInt == b.toInt) := by
    rw [Bool.eq_iff_iff, beq_iff_eq, beq_iff_eq, BitVec.toInt_inj]
  cases op with
  | eq => exact equal
  | ne => exact congrArg (!·) equal
  | lt => rfl
  | le => rfl
  | gt => rfl
  | ge => rfl

/-- A value is added to zero to load a constant. -/
theorem execute_add_zero (n : Int) : ArithOp.add.execute (wrap 0) (wrap n) = some (wrap n) := by
  show some (wrap 0 + wrap n) = some (wrap n)
  rw [show wrap 0 = 0#32 from rfl, BitVec.zero_add]

/-- A value is subtracted from zero to change its sign. -/
theorem execute_zero_sub (a : Word) : ArithOp.sub.execute (wrap 0) a = some (wrap (-a.toInt)) := by
  show some (wrap 0 - a) = some (wrap (-a.toInt))
  rw [wrap_neg, show wrap 0 = 0#32 from rfl, BitVec.zero_sub]

/-- A value is not zero as an integer if it is not zero as bits. -/
theorem execute_ne_zero (a : Word) : CompareOp.ne.execute a (wrap 0) = decide (a ≠ 0) := by
  show (a != wrap 0) = decide (a ≠ 0)
  rw [show wrap 0 = 0 from rfl, Bool.eq_iff_iff, bne_iff_ne, decide_eq_true_eq]

end SlotIR
