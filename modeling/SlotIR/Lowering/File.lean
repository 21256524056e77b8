/-
  SlotIR.Lowering.File
  ────────────────────
  **LOWERING FUNCTIONS AND FILES.**

  A module is emitted in this order:

      header        the package's name and the builtin declarations
      variables     one line each, all of them set to zero
      functions     each bound before its body is lowered
      initialiser   evaluates and stores the initial values in order
      entry point   only for the package that the program starts in, and
                    only if it has a function `main`

  The slots of a function are reserved directly after its opening line,
  once its body is lowered.
-/
import SlotIR.Lowering.Stmt

namespace SlotIR

open Lower

/-! ## §1. Functions. -/

/-- Reserve the slots of the current function at a place among the lines. -/
def insertAllocas (place : Nat) : Lower Unit := fun s =>
  .ok () { s with
    lines := s.lines.take place ++ s.slots.map (fun slot => .instr (.alloca slot))
      ++ s.lines.drop place }

/-- The number of lines so far. -/
def lineCount : Lower Nat := fun s => .ok s.lines.length s

/-- Start the function of a name: no slot is reserved yet. -/
def startFunction (name : String) : Lower Unit := fun s =>
  .ok () { s with decl := some (.func name), reserved := .ofSlots [] }

/-- Lower the definition of a function. -/
def lowerDefinition (symbol : String) (items : Reading (List Stmt)) : Lower Unit := do
  emit (.define symbol)
  -- the slots are known after the body, but are reserved here
  let place ← lineCount
  lowerItems items
  insertAllocas place
  emit (.instr .ret)
  emit .close
  emit .blank

/-- Lower the body of a function. -/
def lowerBody (name : Name) (symbol : String) : Body → Lower Unit
  | .external => do
    emit (.declare symbol)
    emit .blank
  | .stmts items => do
    startFunction name.text
    withFrame (lowerDefinition symbol items)
    setDecl none

/-- Lower a function of a package. -/
def lowerFunction (options : Options) (package : String) (fn : FuncEntry) : Lower Unit := do
  let symbol := options.symbol package fn.name.text
  declareGlobal fn.typeName fn.name (.symbol symbol)
  -- bound first, so that the body may call its own function
  let body ← read fn.body
  lowerBody fn.name symbol body

/-- Lower functions in order. -/
def lowerFunctions (options : Options) (package : String) :
    List (Reading FuncEntry) → Lower Unit
  | [] => return
  | entry :: rest => do
    let fn ← read entry
    lowerFunction options package fn
    lowerFunctions options package rest

/-! ## §2. Package variables. -/

/-- Bind package variables and emit a line for each. -/
def lowerGlobals (options : Options) (package : String) :
    List (Reading GlobalEntry) → Lower Unit
  | [] => return
  | entry :: rest => do
    let g ← read entry
    let symbol := options.symbol package g.name.text
    declareGlobal g.typeName g.name (.symbol symbol)
    emit (.global symbol)
    lowerGlobals options package rest

/-- Separate the package variables, if there are any, from what follows. -/
def endGlobals : List (Reading GlobalEntry) → Lower Unit
  | [] => return
  | _ :: _ => emit .blank

/-- Evaluate and store the initial values of package variables. -/
def storeInitials : List (Reading GlobalEntry) → Lower Unit
  | [] => return
  | entry :: rest => do
    let g ← read entry
    -- faults in the initial value are those of this variable
    setDecl (some (.var g.name.text))
    let initial ← read g.value
    let value ← lowerInitial initial
    let target ← resolve (.text "var") g.name
    emit (.instr (.store value target))
    storeInitials rest

/-- Lower the initialiser of a package. -/
def lowerInitialiser (options : Options) (file : SourceFile) : Lower Unit := do
  emit (.define (options.symbol file.package.text "init"))
  let globals ← read file.globals
  storeInitials globals
  setDecl none
  emit (.instr .ret)
  emit .close

/-! ## §3. Files. -/

/-- Emit the header of a package's module. -/
def emitHeader (package : String) : Lower Unit := do
  emit (.package package)
  emit .builtins
  emit .blank

/-- Lower all declarations of a file in a frame of their own. -/
def lowerFile (options : Options) (file : SourceFile) : Lower Unit := withFrame do
  let globals ← read file.globals
  lowerGlobals options file.package.text globals
  endGlobals globals
  let funcs ← read file.funcs
  lowerFunctions options file.package.text funcs
  lowerInitialiser options file

/-- One of the functions is called `main`. -/
def hasMain : List (Reading FuncEntry) → Reading Bool
  | [] => .ok false
  | entry :: rest => do
    let fn ← entry
    if fn.name.same (.ofText "main") then return true else hasMain rest

/-- Emit the entry point, if it is due. -/
def emitEntry (options : Options) (file : SourceFile) : Lower Unit :=
  if file.package.same options.mainPackage then do
    let funcs ← read file.funcs
    if ← read (hasMain funcs) then
      let package := file.package.text
      emit (.entry (options.symbol package "init") (options.symbol package "main"))
    else pure ()
  else pure ()

/-! ## §4. Modules. -/

/-- Start a module: no lines, only the builtins visible, and counting from zero. -/
def startModule : Lower Unit := fun s =>
  .ok () { s with lines := [], scope := [builtinFrame], nextId := 0, decl := none }

/-- The text of the lines so far. -/
def currentText : Lower String := fun s => .ok (moduleText s.lines) s

/-- Lower a file to the text of a module. -/
def generate (options : Options) (file : SourceFile) : Lower String := do
  startModule
  emitHeader file.package.text
  lowerFile options file
  emitEntry options file
  currentText

/-- Lower a file that may be unreadable; the module is started in either case. -/
def generateRead (options : Options) : Reading SourceFile → Lower String
  | .ok file => generate options file
  | .error fault => do
    startModule
    fail (.unreadable fault)

end SlotIR
