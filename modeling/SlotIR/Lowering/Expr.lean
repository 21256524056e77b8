/-
  SlotIR.Lowering.Expr
  ────────────────────
  **LOWERING EXPRESSIONS.**

  An expression becomes instructions that leave its value in a temporary,
  the operands from left to right.  A comparison is widened at once, so a
  caller never sees an i1.  Parentheses and a plus sign leave no trace.
-/
import SlotIR.Lowering.State

namespace SlotIR

open Lower

/-- Lower an expression; returned is the number of the temporary that holds its value. -/
def lowerExpr : Expr → Lower Nat
  | .ident id => do
    let source ← resolve (.text "var") id.name
    define fun dst => .load dst source
  | .number _ value => do
    let dst ← draw
    -- the number stays drawn if the value cannot be read
    let n ← read value
    emit (.instr (.arith dst .add (.const 0) (.const n)))
    return dst
  | .binary _ (.unknown shown) _ _ => unsupported "BinaryOp" ("binary operator " ++ shown)
  | .binary _ (.known op) left right => do
    let l ← lowerExpr left
    let r ← lowerExpr right
    match op with
    | .arith op => define fun dst => .arith dst op (.temp l) (.temp r)
    | .compare op =>
      let flag ← define fun dst => .compare dst op (.temp l) (.temp r)
      define fun dst => .widen dst flag
  | .unary _ (.unknown shown) _ => unsupported "UnaryOp" ("unary operator " ++ shown)
  | .unary _ (.known .minus) operand => do
    let n ← lowerExpr operand
    define fun dst => .arith dst .sub (.const 0) (.temp n)
  | .unary _ (.known .plus) operand => lowerExpr operand
  | .paren _ inner => lowerExpr inner
  | .call _ callee args => do
    let id ← read callee
    -- a name that is not visible is reported before a wrong number of arguments
    let fn ← resolve (.text "func") id.name
    match args with
    | .error fault => fail (.unreadable fault)
    | .ok [arg] =>
      let a ← lowerExpr arg
      define fun dst => .call dst fn (.temp a)
    | .ok args =>
      unsupported "Call"
        ("call to " ++ id.name.text ++ " with " ++ args.length.repr ++ " arguments")
  | .foreign typeName => unsupported typeName ""
termination_by structural e => e

/-- Lower expressions from left to right. -/
def lowerExprs : List Expr → Lower (List Nat)
  | [] => return []
  | e :: rest => do
    let n ← lowerExpr e
    return n :: (← lowerExprs rest)

/-- Lower the initial value of a variable, which is zero if there is none. -/
def lowerInitial : Option Expr → Lower Operand
  | none => return .const 0
  | some e => return .temp (← lowerExpr e)

end SlotIR
