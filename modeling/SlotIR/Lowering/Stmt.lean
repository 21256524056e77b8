/-
  SlotIR.Lowering.Stmt
  ────────────────────
  **LOWERING STATEMENTS.**

  A statement continues the basic block that the previous one left open.
  A loop closes it and opens four more:

      for.init    the initial statement, in the frame of the loop
      for.cond    the test; without one control always goes on
      for.body    the body in a frame of its own, then the post statement
      for.end     left open for what follows

  An assignment computes all values before its first store.  `:=` gives a
  slot to the targets that no visible scope binds and assigns the others.
-/
import SlotIR.Lowering.Expr

namespace SlotIR

open Lower

/-! ## §1. Assignments. -/

/-- Declare a local variable in a new slot, which is returned. -/
def declareLocal (name : Name) (pos : Pos) : Lower Slot := do
  let slot ← newSlot name.text pos
  let _ ← declare name (.slot slot)
  return slot

/-- Declare a variable, unless a visible scope binds its name. -/
def declareIfNew (id : Ident) : Lower Unit := do
  match ← lookup id.name with
  | some _ => pure ()
  | none =>
    let _ ← declareLocal id.name id.pos

/-- Declare the targets that no visible scope binds, in order. -/
def defineTargets : List (Reading Ident) → Lower Unit
  | [] => return
  | target :: rest => do
    let id ← read target
    declareIfNew id
    defineTargets rest

/-- Store values into the variables that the targets name, in order. -/
def storeTargets : List (Reading Ident × Nat) → Lower Unit
  | [] => return
  | (target, value) :: rest => do
    let id ← read target
    let storage ← resolve (.text "var") id.name
    emit (.instr (.store (.temp value) storage))
    storeTargets rest

/-- The declarations that come before the stores of an assignment. -/
def prepareTargets : AssignOp → List (Reading Ident) → Lower Unit
  | .assign, _ => return
  | .define, targets => defineTargets targets

/-- Lower an assignment. -/
def lowerAssign : Operator AssignOp → Reading (List (Reading Ident)) → Reading (List Expr) →
    Lower Unit
  | .unknown shown, _, _ => unsupported "Assign" ("assignment operator " ++ shown)
  | .known op, targets, values => do
    let targets ← read targets
    let values ← read values
    -- nothing is lowered before the counts are known to agree
    if targets.length = values.length then
      let numbers ← lowerExprs values
      prepareTargets op targets
      storeTargets (targets.zip numbers)
    else
      unsupported "Assign"
        (targets.length.repr ++ " targets but " ++ values.length.repr ++ " values")

/-! ## §2. Loops. -/

/-- The four labels of a loop. -/
structure LoopLabels where
  init : Label
  cond : Label
  body : Label
  done : Label

/-- New labels for the loop at a position. -/
def newLoopLabels (pos : Pos) : Lower LoopLabels := do
  let init ← newLabel ("for.init.pos" ++ pos.text)
  let cond ← newLabel ("for.cond.pos" ++ pos.text)
  let body ← newLabel ("for.body.pos" ++ pos.text)
  let done ← newLabel ("for.end.pos" ++ pos.text)
  return { init, cond, body, done }

/-- Open the basic block of a label. -/
def openBlock (label : Label) : Lower Unit := do
  emit .blank
  emit (.label label)

/-- Go on at a label. -/
def jumpTo (label : Label) : Lower Unit :=
  emit (.instr (.jump label))

/-- Lower the test of a loop: the body is next if it is not zero, or if there is none. -/
def lowerTest (labels : LoopLabels) : Option Expr → Lower Unit
  | none => jumpTo labels.body
  | some expr => do
    let value ← lowerExpr expr
    let flag ← define fun dst => .compare dst .ne (.temp value) (.const 0)
    emit (.instr (.branch flag labels.body labels.done))

/-! ## §3. Statements. -/

mutual

/-- Lower a statement. -/
def lowerStmt : Stmt → Lower Unit
  | .varDecl pos name value => do
    let v ← lowerInitial value
    -- the variable is not visible in its own initial value
    let slot ← declareLocal name pos
    emit (.instr (.store v (.slot slot)))
  | .assign _ op targets values => lowerAssign op targets values
  | .block _ stmts => withFrame (lowerItems stmts)
  | .loop pos body init cond post => withFrame do
    let labels ← newLoopLabels pos
    jumpTo labels.init
    openBlock labels.init
    -- bound in the frame of the loop, and so visible in all its parts
    lowerOptional init
    jumpTo labels.cond
    openBlock labels.cond
    lowerTest labels cond
    openBlock labels.body
    withFrame (lowerStmt body)
    -- what the body declares is out of sight again
    lowerOptional post
    jumpTo labels.cond
    -- this block is left open for what follows
    openBlock labels.done
  | .exprStmt _ expr => do
    let _ ← lowerExpr expr
  | .foreign typeName => unsupported typeName ""
termination_by structural s => s

/-- Lower a statement that may be absent. -/
def lowerOptional : Option Stmt → Lower Unit
  | none => return
  | some stmt => lowerStmt stmt
termination_by structural s => s

/-- Lower the statements of a block. -/
def lowerItems : Except ReadFault (List Stmt) → Lower Unit
  | .error fault => fail (.unreadable fault)
  | .ok items => lowerStmts items
termination_by structural items => items

/-- Lower statements in order. -/
def lowerStmts : List Stmt → Lower Unit
  | [] => return
  | stmt :: rest => do
    lowerStmt stmt
    lowerStmts rest
termination_by structural stmts => stmts

end

end SlotIR
