/-
  SlotIR.Program.Operator
  ───────────────────────
  **THE OPERATORS OF THE SOURCE LANGUAGE.**

  Four arithmetic and six comparing operators stand between operands, two
  signs before one, and two operators form an assignment.  Each is listed
  with its spelling; reading an operator is the inverse of spelling it
  (`ofSpelling?_spelling`).
-/
namespace SlotIR

/-! ## §1. Between two operands. -/

/-- An arithmetic operator. -/
inductive ArithOp where
  | add
  | sub
  | mul
  | div
  deriving DecidableEq, Repr

/-- A comparing operator. -/
inductive CompareOp where
  | eq
  | ne
  | lt
  | le
  | gt
  | ge
  deriving DecidableEq, Repr

/-- An operator between two operands. -/
inductive BinaryOp where
  | arith (op : ArithOp)
  | compare (op : CompareOp)
  deriving DecidableEq, Repr

/-! ## §2. Signs and assignments. -/

/-- A sign before an operand. -/
inductive UnaryOp where
  | minus
  | plus
  deriving DecidableEq, Repr

/-- An assignment: to variables that exist, or defining those that do not. -/
inductive AssignOp where
  | assign
  | define
  deriving DecidableEq, Repr

/-! ## §3. Spellings. -/

/-- How an arithmetic operator is written. -/
def ArithOp.spelling : ArithOp → String
  | .add => "+"
  | .sub => "-"
  | .mul => "*"
  | .div => "/"

/-- The arithmetic operators in the order of their documentation. -/
def ArithOp.all : List ArithOp := [.add, .sub, .mul, .div]

/-- How a comparing operator is written. -/
def CompareOp.spelling : CompareOp → String
  | .eq => "=="
  | .ne => "!="
  | .lt => "<"
  | .le => "<="
  | .gt => ">"
  | .ge => ">="

/-- The comparing operators in the order of their documentation. -/
def CompareOp.all : List CompareOp := [.eq, .ne, .lt, .le, .gt, .ge]

/-- How an operator between operands is written. -/
def BinaryOp.spelling : BinaryOp → String
  | .arith op => op.spelling
  | .compare op => op.spelling

/-- The operators between operands: the arithmetic ones, then the comparing ones. -/
def BinaryOp.all : List BinaryOp :=
  ArithOp.all.map .arith ++ CompareOp.all.map .compare

/-- How a sign is written. -/
def UnaryOp.spelling : UnaryOp → String
  | .minus => "-"
  | .plus => "+"

/-- The signs in the order of their documentation. -/
def UnaryOp.all : List UnaryOp := [.minus, .plus]

/-- How an assignment is written. -/
def AssignOp.spelling : AssignOp → String
  | .assign => "="
  | .define => ":="

/-- The assignments in the order of their documentation. -/
def AssignOp.all : List AssignOp := [.assign, .define]

/-! ## §4. Reading a spelling. -/

/-- The operator between operands with the given spelling. -/
def BinaryOp.ofSpelling? (s : String) : Option BinaryOp :=
  BinaryOp.all.find? (·.spelling == s)

/-- The sign with the given spelling. -/
def UnaryOp.ofSpelling? (s : String) : Option UnaryOp :=
  UnaryOp.all.find? (·.spelling == s)

/-- The assignment with the given spelling. -/
def AssignOp.ofSpelling? (s : String) : Option AssignOp :=
  AssignOp.all.find? (·.spelling == s)

theorem BinaryOp.ofSpelling?_spelling (op : BinaryOp) : ofSpelling? op.spelling = some op := by
  rcases op with op | op <;> cases op <;> decide +kernel

theorem UnaryOp.ofSpelling?_spelling (op : UnaryOp) : ofSpelling? op.spelling = some op := by
  cases op <;> decide +kernel

theorem AssignOp.ofSpelling?_spelling (op : AssignOp) : ofSpelling? op.spelling = some op := by
  cases op <;> decide +kernel

end SlotIR
