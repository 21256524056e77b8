/-
  SlotIR.Proofs.Meaning.Source
  ────────────────────────────
  **WHAT PROGRAMS MEAN.**

  Names are resolved lexically: an environment binds each visible name to
  a variable, which is an index into the variables created so far, or to a
  package's symbol.  A declaration creates a variable, bound in the
  innermost frame for the code that follows in that frame; so a variable
  that is declared in a loop is a new one each time.

  A package's symbol is a cell of memory, and a function's or a builtin's
  is one like any other: an assignment to `println` writes the cell, and
  later calls still call the builtin.  So it is for the machine too
  (`Config.write`).

  Loops take a bound on the number of rounds of each loop, and a run that
  exceeds it is cut off.  Everything else is by recursion on the syntax.
-/
import SlotIR.Lowering.File
import SlotIR.Proofs.Meaning.Behaviour

namespace SlotIR

/-! ## §1. Runs. -/

/-- What a visible name is bound to. -/
inductive Binding where
  /-- A package's symbol. -/
  | global (symbol : String)
  /-- The variable of an index. -/
  | variable (index : Nat)
  deriving DecidableEq, Repr

/-- The visible names. -/
abbrev Env := Chain Key Binding

/-- The values of variables, and the calls so far. -/
structure World where
  /-- The local variables in the order of their creation. -/
  locals : List Word
  globals : Globals
  calls : List Call

/-- Why a run is cut short. -/
inductive Stop where
  /-- The function ends. -/
  | ended (ending : Ending)
  /-- A loop goes on for more rounds than are allowed. -/
  | outOfRounds
  deriving DecidableEq, Repr

/-- A run that returns a value, or is cut short. -/
abbrev Run := EStateM Stop World

/-- The function ends here. -/
def Run.finish {α : Type} (ending : Ending) : Run α := fun w => .error (.ended ending) w

/-- A part that makes sense if there is one. -/
def Run.require {α : Type} : Option α → Run α
  | some a => pure a
  | none => Run.finish .stuck

/-- A result that may be undefined. -/
def Run.defined {α : Type} : Option α → Run α
  | some a => pure a
  | none => Run.finish .undefined

/-! ## §2. Names. -/

/-- What a name means. -/
def Env.meaning (env : Env) (name : Name) : Option Binding :=
  match name.key with
  | .ok key => Chain.find? env key
  | .error _ => none

/-- The value of a variable. -/
def readVariable : Binding → Run Word
  | .global symbol => fun w => .ok (w.globals symbol) w
  | .variable index => fun w => Run.require w.locals[index]? w

/-- Package variables after one of them is assigned. -/
def Globals.update (globals : Globals) (symbol : String) (v : Word) : Globals := fun other =>
  if other = symbol then v else globals other

/-- Assign to a variable. -/
def writeVariable (v : Word) : Binding → Run Unit
  | .global symbol => fun w => .ok () { w with globals := w.globals.update symbol v }
  | .variable index => fun w =>
    if index < w.locals.length then .ok () { w with locals := w.locals.set index v }
    else Run.finish .stuck w

/-- Create a variable; returned is what a name for it is bound to. -/
def createVariable (v : Word) : Run Binding := fun w =>
  .ok (.variable w.locals.length) { w with locals := w.locals ++ [v] }

/-- Call what a name is bound to.  A variable is no function. -/
def callFunction (handler : Handler) (arg : Word) : Binding → Run Word
  | .variable _ => Run.finish .undefined
  | .global symbol => fun w =>
    let calls := w.calls ++ [⟨symbol, some arg⟩]
    match handler calls w.globals with
    | none => Run.finish .abandoned { w with calls }
    | some (answer, globals) => .ok answer { w with globals, calls }

/-! ## §3. Expressions. -/

/-- A part of a program that can be read. -/
def readable {α : Type} : Reading α → Option α
  | .ok a => some a
  | .error _ => none

/-- The value of an expression. -/
def evalExpr (handler : Handler) (env : Env) : Expr → Run Word
  | .ident id => do
    let binding ← Run.require (env.meaning id.name)
    readVariable binding
  | .number _ value => do
    let n ← Run.require (readable value)
    return wrap n
  | .binary _ (.known op) left right => do
    let a ← evalExpr handler env left
    let b ← evalExpr handler env right
    match op with
    | .arith op => Run.defined (op.value a b)
    | .compare op => return ofBool (op.holds a b)
  | .unary _ (.known .minus) operand => do
    let a ← evalExpr handler env operand
    return wrap (-a.toInt)
  | .unary _ (.known .plus) operand => evalExpr handler env operand
  | .paren _ inner => evalExpr handler env inner
  | .call _ (.ok callee) (.ok [arg]) => do
    let binding ← Run.require (env.meaning callee.name)
    let a ← evalExpr handler env arg
    callFunction handler a binding
  | _ => Run.finish .stuck
termination_by structural e => e

/-- The values of expressions from left to right. -/
def evalExprs (handler : Handler) (env : Env) : List Expr → Run (List Word)
  | [] => return []
  | e :: rest => do
    let v ← evalExpr handler env e
    return v :: (← evalExprs handler env rest)

/-- An initial value, which is zero if there is none. -/
def evalInitial (handler : Handler) (env : Env) : Option Expr → Run Word
  | none => return 0
  | some e => evalExpr handler env e

/-- Whether a loop goes on, which it does if there is no condition. -/
def evalTest (handler : Handler) (env : Env) : Option Expr → Run Bool
  | none => return true
  | some e => do
    let v ← evalExpr handler env e
    return decide (v ≠ 0)

/-! ## §4. Statements. -/

/-- Declare a name in the innermost frame.  A name that the frame binds stays bound as it is. -/
def declareName (env : Env) (name : Name) (v : Word) : Run Env := do
  let key ← Run.require (readable name.key)
  match env with
  | [] => Run.finish .stuck
  | frame :: outer =>
    -- the first declaration wins
    if frame.contains key then return env
    else
      let binding ← createVariable v
      return frame.declare key binding :: outer

/-- Assign to a target: `:=` declares it if no frame binds its name. -/
def assignTarget (op : AssignOp) (env : Env) (target : Reading Ident) (v : Word) : Run Env := do
  let id ← Run.require (readable target)
  match env.meaning id.name, op with
  | some binding, _ => do
    writeVariable v binding
    return env
  | none, .define => declareName env id.name v
  | none, .assign => Run.finish .stuck

/-- Assign to targets in order. -/
def assignTargets (op : AssignOp) : Env → List (Reading Ident) → List Word → Run Env
  | env, target :: targets, v :: values => do
    let next ← assignTarget op env target v
    assignTargets op next targets values
  | env, _, _ => return env

/-- Repeat a round until it says that it was the last one. -/
def repeatRounds : Nat → Run Bool → Run Unit
  | 0, _ => fun w => .error .outOfRounds w
  | n + 1, round => do
    if ← round then repeatRounds n round else return ()

/-- A round of a loop: unless the test fails, its body and then its post statement. -/
def roundOf (test : Run Bool) (body post : Run Env) : Run Bool := do
  if ← test then
    let _ ← body
    let _ ← post
    return true
  else return false

section

variable (handler : Handler) (rounds : Nat)

mutual

/-- Run a statement; returned are the names that are visible after it. -/
def execStmt : Stmt → Env → Run Env
  | .varDecl _ name value, env => do
    let v ← evalInitial handler env value
    declareName env name v
  | .assign _ (.known op) (.ok targets) (.ok values), env => do
    -- all values before the first target
    let vs ← evalExprs handler env values
    assignTargets op env targets vs
  | .block _ stmts, env => do
    let _ ← execItems stmts (Frame.empty :: env)
    return env
  | .loop _ body init cond post, env => do
    let inner ← execOptional init (Frame.empty :: env)
    -- each round starts with the names after the initial statement
    repeatRounds rounds (roundOf (evalTest handler inner cond)
      (execStmt body (Frame.empty :: inner)) (execOptional post inner))
    return env
  | .exprStmt _ e, env => do
    let _ ← evalExpr handler env e
    return env
  | _, _ => Run.finish .stuck
termination_by structural s => s

/-- Run a statement that may be absent. -/
def execOptional : Option Stmt → Env → Run Env
  | none, env => return env
  | some s, env => execStmt s env
termination_by structural s => s

/-- Run the statements of a block. -/
def execItems : Except ReadFault (List Stmt) → Env → Run Env
  | .error _, _ => Run.finish .stuck
  | .ok items, env => execStmts items env
termination_by structural items => items

/-- Run statements in order. -/
def execStmts : List Stmt → Env → Run Env
  | [], env => return env
  | s :: rest, env => do
    let next ← execStmt s env
    execStmts rest next
termination_by structural items => items

end

/-- Evaluate the initial values of package variables and assign them in order. -/
def execInitials (env : Env) : List (Reading GlobalEntry) → Run Unit
  | [] => return
  | entry :: rest => do
    let g ← Run.require (readable entry)
    let initial ← Run.require (readable g.value)
    let v ← evalInitial handler env initial
    let binding ← Run.require (env.meaning g.name)
    writeVariable v binding
    execInitials env rest

end

/-! ## §5. Functions. -/

/-- What a function or an initialiser consists of. -/
inductive RoutinePart where
  /-- The statements of a function. -/
  | statements (items : List Stmt)
  /-- The initial values of package variables. -/
  | initials (globals : List (Reading GlobalEntry))

/-- A function with a body, or the initialiser of a package. -/
structure Routine where
  symbol : String
  /-- The names that are visible around it. -/
  env : Env
  part : RoutinePart

/-- Run a routine. -/
def Routine.run (handler : Handler) (rounds : Nat) (r : Routine) : Run Unit :=
  match r.part with
  | .statements items => do
    let _ ← execStmts handler rounds items (Frame.empty :: r.env)
  | .initials globals => execInitials handler r.env globals

/-- What a run shows. -/
def outcomeOf {α : Type} : EStateM.Result Stop World α → Outcome
  | .ok _ w => ⟨some .returned, w.globals, w.calls⟩
  | .error (.ended ending) w => ⟨some ending, w.globals, w.calls⟩
  | .error .outOfRounds w => ⟨none, w.globals, w.calls⟩

/-- What runs of a routine show, with ever more rounds for each loop. -/
def Routine.behaviour (handler : Handler) (globals : Globals) (calls : List Call) (r : Routine)
    (rounds : Nat) : Outcome :=
  outcomeOf (r.run handler rounds ⟨[], globals, calls⟩)

/-! ## §6. Packages. -/

/-- The names of the builtin functions. -/
def builtinNames : Frame Key Binding :=
  Frame.ofList (Builtins.functions.map fun builtin => (.text builtin.1, .global builtin.2))

section

variable (options : Options) (package : String)

/-- Bind a package's name to its symbol. -/
def bindSymbol (name : Name) (names : Frame Key Binding) : Frame Key Binding :=
  match name.key with
  | .ok key => names.declare key (.global (options.symbol package name.text))
  | .error _ => names

/-- The names of package variables. -/
def globalNames : Frame Key Binding → List (Reading GlobalEntry) → Frame Key Binding
  | names, [] => names
  | names, .ok g :: rest => globalNames (bindSymbol options package g.name names) rest
  | names, .error _ :: rest => globalNames names rest

/-- The names of functions. -/
def functionNames : Frame Key Binding → List (Reading FuncEntry) → Frame Key Binding
  | names, [] => names
  | names, .ok fn :: rest => functionNames (bindSymbol options package fn.name names) rest
  | names, .error _ :: rest => functionNames names rest

/-- The functions with a body.  A function sees itself and those before it. -/
def functionRoutines : Frame Key Binding → List (Reading FuncEntry) → List Routine
  | _, [] => []
  | names, .ok fn :: rest =>
    let visible := bindSymbol options package fn.name names
    match fn.body with
    | .ok (.stmts (.ok items)) =>
      ⟨options.symbol package fn.name.text, [visible, builtinNames], .statements items⟩
        :: functionRoutines visible rest
    | _ => functionRoutines visible rest
  | names, .error _ :: rest => functionRoutines names rest

end

/-- The routines of a file: its functions with a body, and then the initialiser, which sees all
names of the package. -/
def routines (options : Options) (file : SourceFile) : List Routine :=
  match file.globals, file.funcs with
  | .ok globals, .ok funcs =>
    let package := file.package.text
    let vars := globalNames options package .empty globals
    functionRoutines options package vars funcs
      ++ [⟨options.symbol package "init",
        [functionNames options package vars funcs, builtinNames], .initials globals⟩]
  | _, _ => []

end SlotIR
