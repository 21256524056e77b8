/-
  SlotIR.About
  ────────────
  **THE PACKAGE'S ACCOUNT OF ITSELF.**

  The version, what it is published as, the names that it exports, and the
  names of the operators.
-/
import SlotIR.Program.Operator

namespace SlotIR.About

/-- The version of the compiler. -/
def version : String := "0.1.0"

/-- The maintainers of the compiler. -/
def maintainers : String := "ugoc Contributors"

/-- The terms that the compiler is published under. -/
def terms : String := "MIT"

/-- The names that the compiler exports, in the order of their documentation. -/
def exported : List String :=
  ["Object", "Scope", "universe", "IRGenerator", "CompileError", "UnresolvedSymbolError",
   "UnsupportedConstructError", "Compiler", "CompilationResult"]

/-- The name of an operator between operands. -/
def binaryName : BinaryOp → String
  | .arith .add => "ADD"
  | .arith .sub => "SUB"
  | .arith .mul => "MUL"
  | .arith .div => "DIV"
  | .compare .eq => "EQL"
  | .compare .ne => "NEQ"
  | .compare .lt => "LSS"
  | .compare .le => "LEQ"
  | .compare .gt => "GTR"
  | .compare .ge => "GEQ"

/-- The name of an assignment. -/
def assignName : AssignOp → String
  | .assign => "ASSIGN"
  | .define => "DEFINE"

/-- The names of the operators, each with its spelling. -/
def tokens : List (String × String) :=
  BinaryOp.all.map (fun op => (binaryName op, op.spelling))
    ++ AssignOp.all.map fun op => (assignName op, op.spelling)

end SlotIR.About
