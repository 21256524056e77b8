/-
  SlotIR.Build.System
  ───────────────────
  **WHAT THE SYSTEM IS ASKED FOR, AND WHAT IT REFUSES.**

  Making an output takes requests to the system: to open a file and write
  it, to make a temporary folder and remove it, to start a command.  The
  system may refuse any of them, and then there is a FAULT, which has a
  number, a reason, and mostly the path or command that it is about.  A
  system is given by what it refuses.  A compilation makes no request twice,
  so an answer need not depend on what was asked before.
-/
import SlotIR.Text.Quoted

namespace SlotIR.Build

/-! ## §1. Faults. -/

/-- A fault of the system. -/
structure SystemFault where
  number : Nat
  reason : String
  /-- What the fault is about, if it says so. -/
  subject : Option String := none
  deriving DecidableEq, Repr

/-- The text of a fault. -/
def SystemFault.text (fault : SystemFault) : String :=
  "[Errno " ++ fault.number.repr ++ "] " ++ fault.reason
    ++ match fault.subject with
      | none => ""
      | some subject => ": " ++ Text.quoted subject

/-! ## §2. Requests. -/

/-- What the system is asked for. -/
inductive Request where
  /-- Make an empty temporary folder. -/
  | makeFolder
  /-- Remove the temporary folder with all that is in it. -/
  | removeFolder
  /-- Open a file for writing, which creates or empties it. -/
  | openFile (path : String)
  /-- Write an open file. -/
  | writeFile (path content : String)
  /-- Make the pipes that a command's output is read from. -/
  | openPipes
  /-- Start a command. -/
  | start (command : List String)
  deriving DecidableEq, Repr

/-- A system: what it refuses, and why. -/
structure System where
  refusal? : Request → Option SystemFault
  /-- What is in an opened file, by its path, until it is written in full. -/
  leftIn : String → String := fun _ => ""

namespace System

/-- The first refusal among requests that are made one after another. -/
def firstRefusal? (system : System) (requests : List Request) : Option SystemFault :=
  requests.findSome? system.refusal?

theorem firstRefusal?_cons (system : System) (wanted : Request) (rest : List Request) :
    system.firstRefusal? (wanted :: rest)
      = (system.refusal? wanted).or (system.firstRefusal? rest) := by
  unfold firstRefusal?
  rw [List.findSome?_cons]
  cases system.refusal? wanted <;> rfl

theorem firstRefusal?_append (system : System) (first second : List Request) :
    system.firstRefusal? (first ++ second)
      = (system.firstRefusal? first).or (system.firstRefusal? second) :=
  List.findSome?_append

/-! ## §3. The ordinary system. -/

/-- The greatest number of bytes in an argument of a command. -/
def maxArgumentBytes : Nat := 131071

/-- The system that refuses nothing but a command with an argument that is too long. -/
def standard : System where
  refusal?
    | .start command =>
      if command.any fun argument => maxArgumentBytes < argument.utf8ByteSize then
        some { number := 7, reason := "Argument list too long", subject := command.head? }
      else none
    | _ => none

theorem standard_refuses {command : List String} {argument : String} (given : argument ∈ command)
    (long : maxArgumentBytes < argument.utf8ByteSize) :
    standard.refusal? (.start command)
      = some { number := 7, reason := "Argument list too long", subject := command.head? } := by
  have found : command.any (fun argument => maxArgumentBytes < argument.utf8ByteSize) = true :=
    List.any_eq_true.2 ⟨argument, given, decide_eq_true long⟩
  show (if _ then _ else _) = _
  rw [if_pos found]

end System
end SlotIR.Build
