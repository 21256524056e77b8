/-
  SlotIR.Program.Basic
  ────────────────────
  **PROGRAMS: THE TYPED SYNTAX TREES.**

  A program is a file of package variables and functions; bodies hold
  statements, statements hold expressions, and every value is an integer.
  Trees are read from untyped data, so a part may be UNREADABLE.  Such a
  part stands in the tree as a recorded fault (`Reading`), and lowering
  reports it when, and only when, it comes to that part.  A value of the
  wrong kind in the place of an expression or a statement is kept as
  `foreign`, with the name of its type.
-/
import SlotIR.Program.Name
import SlotIR.Program.Operator

namespace SlotIR

/-! ## §1. Expressions. -/

/-- A name at its position. -/
structure Ident where
  pos : Pos
  name : Name
  deriving DecidableEq, Repr

/-- An operator as written: one of the language, or the display of anything else. -/
inductive Operator (α : Type) where
  | known (op : α)
  | unknown (shown : String)
  deriving DecidableEq, Repr

/-- An expression. -/
inductive Expr where
  /-- The value of a variable. -/
  | ident (id : Ident)
  /-- An integer literal. -/
  | number (pos : Pos) (value : Except ReadFault Int)
  /-- Two operands with an operator between them. -/
  | binary (pos : Pos) (op : Operator BinaryOp) (left right : Expr)
  /-- An operand with a sign. -/
  | unary (pos : Pos) (op : Operator UnaryOp) (operand : Expr)
  /-- An expression in parentheses. -/
  | paren (pos : Pos) (inner : Expr)
  /-- A call of a named function. -/
  | call (pos : Pos) (callee : Except ReadFault Ident) (args : Except ReadFault (List Expr))
  /-- A value that is no expression. -/
  | foreign (typeName : String)

/-! ## §2. Statements. -/

/-- A statement. -/
inductive Stmt where
  /-- Declares a local variable; without a value it starts at zero. -/
  | varDecl (pos : Pos) (name : Name) (value : Option Expr)
  /-- Assigns values to targets, all at once. -/
  | assign (pos : Pos) (op : Operator AssignOp)
      (targets : Except ReadFault (List (Except ReadFault Ident)))
      (values : Except ReadFault (List Expr))
  /-- Statements in braces. -/
  | block (pos : Pos) (stmts : Except ReadFault (List Stmt))
  /-- Runs `init` once, and then, while `cond` is not zero, `body` and `post`. -/
  | loop (pos : Pos) (body : Stmt) (init : Option Stmt) (cond : Option Expr) (post : Option Stmt)
  /-- Evaluates an expression for its effects. -/
  | exprStmt (pos : Pos) (expr : Expr)
  /-- A value that is no statement. -/
  | foreign (typeName : String)

/-! ## §3. Declarations and files. -/

/-- An entry of the package variables.  `typeName` is what messages call it. -/
structure GlobalEntry where
  pos : Pos
  typeName : String
  name : Name
  value : Reading (Option Expr)

/-- What a function is made of. -/
inductive Body where
  /-- The function is defined elsewhere. -/
  | external
  /-- The statements of the function. -/
  | stmts (items : Reading (List Stmt))

/-- An entry of the functions.  `typeName` is what messages call it. -/
structure FuncEntry where
  pos : Pos
  typeName : String
  name : Name
  body : Reading Body

/-- A source file of a package. -/
structure SourceFile where
  pos : Pos
  package : Name
  globals : Reading (List (Reading GlobalEntry))
  funcs : Reading (List (Reading FuncEntry))

end SlotIR
