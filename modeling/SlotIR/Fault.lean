/-
  SlotIR.Fault
  ────────────
  **WHY A PROGRAM IS REFUSED.**

  Lowering stops at the first fault.  A fault of scoping or of an
  unsupported construct carries the declaration in which it arose, which
  its message names last.
-/
import SlotIR.Program.Basic

namespace SlotIR

/-! ## §1. Declarations. -/

/-- A declaration whose code is being lowered. -/
inductive Decl where
  | func (name : String)
  | var (name : String)
  deriving DecidableEq, Repr

/-- What messages call a declaration. -/
def Decl.text : Decl → String
  | .func name => "func " ++ name
  | .var name => "var " ++ name

/-! ## §2. Faults. -/

/-- Why a program is refused. -/
inductive Fault where
  /-- A name that no visible scope binds; `kind` is what was looked for, as a rule a word for it. -/
  | unresolved (kind : Datum) (name : Name) (decl : Option Decl)
  /-- A construct without a lowering, by the name of its type and an optional detail. -/
  | unsupported (typeName detail : String) (decl : Option Decl)
  /-- A part of the tree that cannot be read. -/
  | unreadable (fault : ReadFault)
  /-- A scope is needed and none is open. -/
  | noScope
  deriving DecidableEq, Repr

/-- The end of a message that names the declaration. -/
def Fault.place : Option Decl → String
  | none => ""
  | some decl => " (in " ++ decl.text ++ ")"

/-- The message of a fault. -/
def Fault.message : Fault → String
  | .unresolved kind name decl => kind.written ++ " " ++ name.text ++ " undefined" ++ place decl
  | .unsupported typeName detail decl =>
    "unsupported " ++ typeName ++ (if detail = "" then "" else ": " ++ detail) ++ place decl
  | .unreadable fault => fault.message
  | .noScope => "no scope is open"

end SlotIR
