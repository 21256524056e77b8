/-
  SlotIR.Proofs.Checking.Checker
  ──────────────────────────────
  **WHICH FILES ARE WELL SCOPED.**

  A checker that emits nothing and draws no names: all it knows is which
  names are VISIBLE, frame by frame, and which declaration it is in.  It
  visits a file in this order, and its answer is the first violation:

      variables      each name is not `init` and is new to the package
      functions      the same for the name; then the body, in which the
                     builtins, the variables, the function itself and
                     the earlier functions are visible
      initial values in order; everything in the package is visible

  A part of the file that cannot be read is a violation where it is needed.
-/
import SlotIR.Lowering.File
import SlotIR.Proofs.Scope.Mapping

namespace SlotIR.Check

/-! ## §1. Visible names. -/

/-- The names that are visible, from the innermost frame outward. -/
abbrev Visible := Chain Key Unit

/-- The verdict on a part: what is known after it, or the first violation in it. -/
abbrev Verdict := Except Fault

/-- The names that a chain binds. -/
def visible {β : Type} (scope : Chain Key β) : Visible := scope.map fun _ => ()

/-- The chain with a name bound in its innermost frame. -/
def bindKey (key : Key) : Visible → Visible
  | [] => []
  | frame :: outer => frame.declare key () :: outer

/-! ## §2. Violations. -/

/-- A part that must be readable. -/
def part {α : Type} : Reading α → Verdict α
  | .ok a => .ok a
  | .error fault => .error (.unreadable fault)

/-- A construct that has no lowering. -/
def unsupported {α : Type} (decl : Option Decl) (typeName detail : String) : Verdict α :=
  .error (.unsupported typeName detail decl)

/-- A name must be visible; `kind` says what is looked for. -/
def checkVisible (decl : Option Decl) (kind : Datum) (v : Visible) (name : Name) :
    Verdict Unit := do
  let key ← part name.key
  if (Chain.find? v key).isSome then pure () else .error (.unresolved kind name decl)

/-- Bind a name in the innermost frame. -/
def bindName (v : Visible) (name : Name) : Verdict Visible := do
  let key ← part name.key
  return bindKey key v

/-! ## §3. Expressions. -/

/-- Check an expression. -/
def checkExpr (decl : Option Decl) (v : Visible) : Expr → Verdict Unit
  | .ident id => checkVisible decl (.text "var") v id.name
  | .number _ value => do
    let _ ← part value
  | .binary _ (.unknown shown) _ _ =>
    unsupported decl "BinaryOp" ("binary operator " ++ shown)
  | .binary _ (.known _) left right => do
    checkExpr decl v left
    checkExpr decl v right
  | .unary _ (.unknown shown) _ => unsupported decl "UnaryOp" ("unary operator " ++ shown)
  | .unary _ (.known _) operand => checkExpr decl v operand
  | .paren _ inner => checkExpr decl v inner
  | .call _ callee args => do
    let id ← part callee
    checkVisible decl (.text "func") v id.name
    match args with
    | .error fault => .error (.unreadable fault)
    | .ok [arg] => checkExpr decl v arg
    | .ok args =>
      unsupported decl "Call"
        ("call to " ++ id.name.text ++ " with " ++ args.length.repr ++ " arguments")
  | .foreign typeName => unsupported decl typeName ""
termination_by structural e => e

/-- Check expressions from left to right. -/
def checkExprs (decl : Option Decl) (v : Visible) : List Expr → Verdict Unit
  | [] => return
  | e :: rest => do
    checkExpr decl v e
    checkExprs decl v rest

/-- Check an expression that may be absent. -/
def checkExpr? (decl : Option Decl) (v : Visible) : Option Expr → Verdict Unit
  | none => return
  | some e => checkExpr decl v e

/-! ## §4. Assignments. -/

/-- Bind a name in the innermost frame, unless it is visible. -/
def bindIfNew (v : Visible) (name : Name) : Verdict Visible := do
  let key ← part name.key
  return if (Chain.find? v key).isSome then v else bindKey key v

/-- Bind the targets that are visible nowhere, in order. -/
def bindTargets : List (Reading Ident) → Visible → Verdict Visible
  | [], v => return v
  | target :: rest, v => do
    let id ← part target
    let w ← bindIfNew v id.name
    bindTargets rest w

/-- Each target must be visible. -/
def checkTargets (decl : Option Decl) (v : Visible) : List (Reading Ident) → Verdict Unit
  | [] => return
  | target :: rest => do
    let id ← part target
    checkVisible decl (.text "var") v id.name
    checkTargets decl v rest

/-- What is visible when the targets of an assignment are looked up. -/
def prepareTargets : AssignOp → List (Reading Ident) → Visible → Verdict Visible
  | .assign, _, v => return v
  | .define, targets, v => bindTargets targets v

/-- Check an assignment: the operator, the counts, the values, the targets. -/
def checkAssign (decl : Option Decl) (v : Visible) : Operator AssignOp →
    Reading (List (Reading Ident)) → Reading (List Expr) → Verdict Visible
  | .unknown shown, _, _ => unsupported decl "Assign" ("assignment operator " ++ shown)
  | .known op, targets, values => do
    let targets ← part targets
    let values ← part values
    if targets.length = values.length then
      checkExprs decl v values
      -- the values do not see what the targets declare
      let after ← prepareTargets op targets v
      checkTargets decl after targets
      return after
    else
      unsupported decl "Assign"
        (targets.length.repr ++ " targets but " ++ values.length.repr ++ " values")

/-! ## §5. Statements. -/

mutual

/-- Check a statement; returned are the names that are visible after it. -/
def checkStmt (decl : Option Decl) : Stmt → Visible → Verdict Visible
  | .varDecl _ name value, v => do
    checkExpr? decl v value
    bindName v name
  | .assign _ op targets values, v => checkAssign decl v op targets values
  | .block _ stmts, v => do
    let _ ← checkItems decl stmts (Frame.empty :: v)
    return v
  | .loop _ body init cond post, v => do
    let inner ← checkStmt? decl init (Frame.empty :: v)
    checkExpr? decl inner cond
    -- neither the body nor the post statement sees what the other declares
    let _ ← checkStmt decl body (Frame.empty :: inner)
    let _ ← checkStmt? decl post inner
    return v
  | .exprStmt _ expr, v => do
    checkExpr decl v expr
    return v
  | .foreign typeName, _ => unsupported decl typeName ""
termination_by structural s => s

/-- Check a statement that may be absent. -/
def checkStmt? (decl : Option Decl) : Option Stmt → Visible → Verdict Visible
  | none, v => return v
  | some stmt, v => checkStmt decl stmt v
termination_by structural s => s

/-- Check the statements of a block. -/
def checkItems (decl : Option Decl) : Except ReadFault (List Stmt) → Visible → Verdict Visible
  | .error fault, _ => .error (.unreadable fault)
  | .ok items, v => checkStmts decl items v
termination_by structural items => items

/-- Check statements in order. -/
def checkStmts (decl : Option Decl) : List Stmt → Visible → Verdict Visible
  | [], v => return v
  | stmt :: rest, v => do
    let w ← checkStmt decl stmt v
    checkStmts decl rest w
termination_by structural stmts => stmts

end

/-! ## §6. Files. -/

/-- The innermost frame binds a key. -/
def boundHere (key : Key) : Visible → Bool
  | [] => false
  | frame :: _ => frame.contains key

/-- Bind a package's name: it is not the initialiser's, and it is new. -/
def bindGlobal (typeName : String) (name : Name) (v : Visible) : Verdict Visible :=
  if name.same (.ofText "init") then unsupported none typeName "init is the package initializer"
  else do
    let key ← part name.key
    if boundHere key v then unsupported none typeName (name.text ++ " redeclared in package")
    else return bindKey key v

/-- Check the names of package variables. -/
def checkGlobals : List (Reading GlobalEntry) → Visible → Verdict Visible
  | [], v => return v
  | entry :: rest, v => do
    let g ← part entry
    let w ← bindGlobal g.typeName g.name v
    checkGlobals rest w

/-- Check the body of a function in a frame of its own. -/
def checkBody (name : Name) (v : Visible) : Body → Verdict Unit
  | .external => return
  | .stmts items => do
    let _ ← checkItems (some (.func name.text)) items (Frame.empty :: v)

/-- Check functions in order, each visible from its own body on. -/
def checkFunctions : List (Reading FuncEntry) → Visible → Verdict Visible
  | [], v => return v
  | entry :: rest, v => do
    let fn ← part entry
    -- visible in its own body, but not in those before
    let w ← bindGlobal fn.typeName fn.name v
    let body ← part fn.body
    checkBody fn.name w body
    checkFunctions rest w

/-- Check the initial values of package variables in order. -/
def checkInitials (v : Visible) : List (Reading GlobalEntry) → Verdict Unit
  | [] => return
  | entry :: rest => do
    let g ← part entry
    let initial ← part g.value
    checkExpr? (some (.var g.name.text)) v initial
    checkInitials v rest

/-- Check a file: the answer is the first violation, if there is one. -/
def checkFile (file : SourceFile) : Verdict Unit := do
  let globals ← part file.globals
  let vars ← checkGlobals globals (visible [Frame.empty, builtinFrame])
  let funcs ← part file.funcs
  let all ← checkFunctions funcs vars
  -- initial values see every function, also those that come later
  checkInitials all globals

end SlotIR.Check
