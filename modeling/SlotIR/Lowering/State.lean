/-
  SlotIR.Lowering.State
  ─────────────────────
  **THE STATE OF LOWERING, AND ITS ELEMENTARY STEPS.**

  Lowering threads one `State`: the lines so far, the chain of scopes, the
  counter that temporaries, labels and repeated slots draw from, the
  declaration at work, and the slots of the current function.  A step
  (`Lower`) returns a value or a fault, and in BOTH cases the state it
  reached: a fault takes nothing back.  Frames are the exception, and the
  reason for `withFrame`: it leaves the frame it entered in either case.

  Lowering recurses over trees of any depth.  The limits of a runtime that
  may run it, on how deep calls nest and on how long a printed integer is,
  are left out here and in `SlotIR.Text`.
-/
import SlotIR.Fault
import SlotIR.Scope.Basic
import SlotIR.Target.Printer

namespace SlotIR

/-! ## §1. Options and state. -/

/-- What a compilation can be told. -/
structure Options where
  /-- The package that a program starts in. -/
  mainPackage : Name := .ofText "main"
  /-- The first part of every symbol. -/
  symbolStem : String := "ugo"

/-- The symbol of a package's variable or function. -/
def Options.symbol (options : Options) (package name : String) : String :=
  "@" ++ options.symbolStem ++ "_" ++ package ++ "_" ++ name

/-- The slots of a function.  They are kept in order, for the lines that reserve them, and by their
texts, for the question whether a text is taken; the two stay in step. -/
structure Reserved where
  /-- The slots, in the order in which they were reserved. -/
  slots : List Slot
  /-- The texts that are taken, each once. -/
  taken : List String
  inStep : taken = (slots.map Slot.text).eraseDups

/-- What is reserved when just these slots are. -/
def Reserved.ofSlots (slots : List Slot) : Reserved where
  slots := slots
  taken := (slots.map Slot.text).eraseDups
  inStep := rfl

/-- The state of lowering. -/
structure State where
  /-- The lines emitted so far. -/
  lines : List Line := []
  /-- The visible scopes, the innermost first. -/
  scope : Chain Key Storage := []
  /-- The next number to be drawn. -/
  nextId : Nat := 0
  /-- The declaration whose code is being lowered. -/
  decl : Option Decl := none
  /-- What has been reserved since the start of the last function. -/
  reserved : Reserved := .ofSlots []

/-- The slots reserved since the start of the last function, in order. -/
abbrev State.slots (s : State) : List Slot := s.reserved.slots

namespace Reserved

/-- The taken texts are those of the slots. -/
theorem mem_taken {reserved : Reserved} {text : String} :
    text ∈ reserved.taken ↔ text ∈ reserved.slots.map Slot.text := by
  rw [reserved.inStep]
  exact List.mem_eraseDups

/-- Reserve one slot more, whose text is taken from now on. -/
def add (reserved : Reserved) (slot : Slot) : Reserved where
  slots := reserved.slots ++ [slot]
  taken :=
    if slot.text ∈ reserved.taken then reserved.taken else reserved.taken ++ [slot.text]
  inStep := by
    rw [List.map_append]
    show _ = (reserved.slots.map Slot.text ++ [slot.text]).eraseDups
    rw [eraseDups_concat, ← reserved.inStep]
    simp only [mem_taken]

/-- The texts are known from the slots. -/
@[simp] theorem ofSlots_slots (reserved : Reserved) : ofSlots reserved.slots = reserved := by
  obtain ⟨slots, taken, inStep⟩ := reserved
  subst inStep
  rfl

end Reserved

/-- The frame that binds the builtin functions. -/
def builtinFrame : Frame Key Storage :=
  Frame.ofList (Builtins.functions.map fun builtin => (.text builtin.1, .symbol builtin.2))

/-- A step of lowering. -/
abbrev Lower := EStateM Fault State

namespace Lower

/-! ## §2. Faults. -/

/-- Refuse with a fault. -/
def fail {α : Type} (fault : Fault) : Lower α := fun s => .error fault s

/-- Refuse a construct. -/
def unsupported {α : Type} (typeName detail : String) : Lower α := fun s =>
  .error (.unsupported typeName detail s.decl) s

/-- Refuse a name that no visible scope binds. -/
def unresolved {α : Type} (kind : Datum) (name : Name) : Lower α := fun s =>
  .error (.unresolved kind name s.decl) s

/-- The value of a readable part. -/
def read {α : Type} : Reading α → Lower α
  | .ok a => pure a
  | .error fault => fail (.unreadable fault)

/-! ## §3. Lines and numbers. -/

/-- Add a line. -/
def emit (line : Line) : Lower Unit := fun s =>
  .ok () { s with lines := s.lines ++ [line] }

/-- Draw the next number. -/
def draw : Lower Nat := fun s =>
  .ok s.nextId { s with nextId := s.nextId + 1 }

/-- A new label. -/
def newLabel (tag : String) : Lower Label := do
  return ⟨tag, ← draw⟩

/-- Emit an instruction that defines a new temporary, whose number is returned. -/
def define (instr : Nat → Instr) : Lower Nat := do
  let dst ← draw
  emit (.instr (instr dst))
  return dst

/-- Reserve a slot for a variable.  A number is drawn if the plain name is in use. -/
def newSlot (name : String) (pos : Pos) : Lower Slot := fun s =>
  let plain : Slot := { name, pos }
  -- slots have to differ in the output, so their texts are compared
  if plain.text ∈ s.reserved.taken then
    let slot : Slot := { plain with number := some s.nextId }
    .ok slot { s with reserved := s.reserved.add slot, nextId := s.nextId + 1 }
  else .ok plain { s with reserved := s.reserved.add plain }

/-- Note the declaration whose code is being lowered. -/
def setDecl (decl : Option Decl) : Lower Unit := fun s =>
  .ok () { s with decl }

/-! ## §4. Scopes. -/

/-- Enter a new frame. -/
def enter : Lower Unit := fun s =>
  .ok () { s with scope := Frame.empty :: s.scope }

/-- Leave the current frame. -/
def leave : Lower Unit := fun s =>
  match s.scope with
  | [] => .error .noScope s
  | _ :: outer => .ok () { s with scope := outer }

/-- Run a step in a frame of its own, which is left whether the step succeeds or fails. -/
def withFrame {α : Type} (step : Lower α) : Lower α := fun s =>
  match step { s with scope := Frame.empty :: s.scope } with
  | .ok a t => .ok a { t with scope := t.scope.tail }
  | .error fault t => .error fault { t with scope := t.scope.tail }

/-- What a name means, if it is visible. -/
def lookup (name : Name) : Lower (Option Storage) := fun s =>
  match s.scope, name.key with
  | [], _ => .error .noScope s
  | _ :: _, .error fault => .error (.unreadable fault) s
  | frame :: outer, .ok key => .ok (Chain.find? (frame :: outer) key) s

/-- What a name means; `kind` says what is looked for. -/
def resolve (kind : Datum) (name : Name) : Lower Storage := do
  match ← lookup name with
  | some storage => return storage
  | none => unresolved kind name

/-- Bind a name in the current frame, unless it is bound there.  Returned is what the frame bound
the name to before. -/
def declare (name : Name) (storage : Storage) : Lower (Option Storage) := fun s =>
  match s.scope, name.key with
  | [], _ => .error .noScope s
  | _ :: _, .error fault => .error (.unreadable fault) s
  | frame :: outer, .ok key =>
    .ok (frame.find? key) { s with scope := frame.declare key storage :: outer }

/-- Bind a package's name in the current frame.  The name of the initialiser is reserved, and a
name is bound once. -/
def declareGlobal (typeName : String) (name : Name) (storage : Storage) : Lower Unit :=
  if name.same (.ofText "init") then unsupported typeName "init is the package initializer"
  else do
    match ← declare name storage with
    | none => pure ()
    | some _ => unsupported typeName (name.text ++ " redeclared in package")

end Lower
end SlotIR
