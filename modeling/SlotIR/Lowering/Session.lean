/-
  SlotIR.Lowering.Session
  ───────────────────────
  **LOWERING STEP BY STEP.**

  A session keeps one state and runs commands on it, each of them one of
  the steps that lowering a file is made of.  A command that fails leaves
  the state it reached, and the session goes on from there.
-/
import SlotIR.Lowering.File

namespace SlotIR

open Lower

/-! ## §1. Commands. -/

/-- A step of a session. -/
inductive Command where
  /-- Changes options; those not given stay. -/
  | configure (mainPackage : Option Name) (symbolStem : Option String)
  /-- Lowers a file to a module of its own. -/
  | generate (source : Reading SourceFile)
  /-- Makes the builtin functions the only scope. -/
  | builtinsOnly
  /-- Enters a frame. -/
  | enter
  /-- Leaves the current frame. -/
  | leave
  /-- Adds a line. -/
  | emit (line : Datum)
  /-- Draws a temporary. -/
  | temp
  /-- Draws a label. -/
  | label (tag : String)
  /-- Reserves a slot. -/
  | slot (name : String) (pos : Pos)
  /-- Binds a name in the current frame. -/
  | declare (name : Name) (storage : Storage)
  /-- Binds a package's name in the current frame. -/
  | declareGlobal (typeName : String) (name : Name) (storage : Storage)
  /-- Looks a name up. -/
  | resolve (kind : Datum) (name : Name)
  /-- Forms the symbol of a package's name. -/
  | symbol (source : Reading SourceFile) (name : String)
  /-- Lowers an expression. -/
  | expr (e : Expr)
  /-- Lowers a statement. -/
  | stmt (s : Stmt)
  /-- Lowers a function of a file's package. -/
  | function (source : Reading SourceFile) (func : Reading FuncEntry)
  /-- Emits the header of a file's package. -/
  | header (source : Reading SourceFile)
  /-- Lowers the initialiser of a file's package. -/
  | initialiser (source : Reading SourceFile)
  /-- Lowers all declarations of a file. -/
  | file (source : Reading SourceFile)
  /-- Emits the entry point for a file, if it is due. -/
  | entry (source : Reading SourceFile)

/-- A step without a result. -/
def noResult (step : Lower Unit) : Lower Datum := do
  step
  return .null

/-- A step with a textual result. -/
def withText (step : Lower String) : Lower Datum := do
  return .text (← step)

/-- The step of a command; returned is its result, which is null if there is none. -/
def Command.run (options : Options) : Command → Lower Datum
  | .configure .. => return .null
  | .generate source => withText (generateRead options source)
  | .builtinsOnly => noResult fun s => .ok () { s with scope := [builtinFrame] }
  | .enter => noResult Lower.enter
  | .leave => noResult Lower.leave
  | .emit line => noResult (Lower.emit (.raw line))
  | .temp => withText do return tempText (← draw)
  | .label tag => withText do return (← newLabel tag).text
  | .slot name pos => withText do return (← newSlot name pos).text
  | .declare name storage => do
    let bound ← Lower.declare name storage
    return (bound.getD storage).value
  | .declareGlobal typeName name storage => noResult (Lower.declareGlobal typeName name storage)
  | .resolve kind name => do return (← Lower.resolve kind name).value
  | .symbol source name => withText do return options.symbol (← read source).package.text name
  | .expr e => withText do return tempText (← lowerExpr e)
  | .stmt s => noResult (lowerStmt s)
  | .function source func => noResult do
    let package := (← read source).package.text
    let fn ← read func
    lowerFunction options package fn
  | .header source => noResult do emitHeader (← read source).package.text
  | .initialiser source => noResult do lowerInitialiser options (← read source)
  | .file source => noResult do lowerFile options (← read source)
  | .entry source => noResult do emitEntry options (← read source)

/-! ## §2. Sessions. -/

/-- A session: the options in force and the state reached. -/
structure Session where
  options : Options := {}
  state : State := {}

/-- Run a command; returned are its result or fault, and the session after it. -/
def Session.step (session : Session) (command : Command) :
    Except Fault Datum × Session :=
  let options : Options :=
    match command with
    | .configure mainPackage symbolStem =>
      { mainPackage := mainPackage.getD session.options.mainPackage
        symbolStem := symbolStem.getD session.options.symbolStem }
    | _ => session.options
  match command.run options session.state with
  | .ok result state => (.ok result, { options, state })
  | .error fault state => (.error fault, { options, state })

/-- The number of open frames. -/
def Session.depth (session : Session) : Nat := session.state.scope.length

/-- The lines that reserve the slots of the current or last function. -/
def Session.allocaTexts (session : Session) : List String :=
  session.state.slots.map fun slot => (Instr.alloca slot).text

/-- The names that slots have taken, each once, in the order of their characters. -/
def Session.slotTexts (session : Session) : List String :=
  session.state.reserved.taken.mergeSort fun a b => a ≤ b

end SlotIR
