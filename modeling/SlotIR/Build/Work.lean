/-
  SlotIR.Build.Work
  ─────────────────
  **STEPS THAT LEAVE TRACES.**

  An output is made in steps.  A step changes what is on the disk, and it
  may run the tool; these are its TRACES, and they stay also if the step
  stops.  It stops in one of two ways:

      failed      the compilation comes to a failed outcome
      aborted     the compilation is broken off, without an outcome

  The temporary folder is used under a bracket, `withScratch`: however the
  steps inside end, the folder is removed, and if it cannot be removed,
  this failure takes the place of their end.
-/
import SlotIR.Build.Outcome

namespace SlotIR.Build

/-! ## §1. Traces and ends. -/

/-- What a compilation leaves behind beside its outcome. -/
structure Traces where
  disk : Disk
  /-- The run of the tool, if it was run. -/
  run : Option ToolRun := none

/-- Why a compilation is broken off. -/
inductive Abort where
  /-- The tree is no file. -/
  | unreadable (fault : ReadFault)
  /-- A value of type `typeName` stands in place of the path of the output. -/
  | noPath (typeName : String)
  /-- The path of the output holds a NUL character. -/
  | nulInPath

/-- The message of a compilation that is broken off. -/
def Abort.message : Abort → String
  | .unreadable fault => fault.message
  | .noPath typeName => "a path is a text, not a value of type '" ++ typeName ++ "'"
  | .nulInPath => "embedded null byte"

/-- How a step stops. -/
inductive Stop where
  | failed (failure : Failure)
  | aborted (abort : Abort)

/-- A step of making an output. -/
abbrev Work := EStateM Stop Traces

namespace Work

variable {α β : Type} {s t : Traces}

theorem bind_of_ok {x : Work α} {a : α} (ended : x s = .ok a t) (f : α → Work β) :
    (x >>= f) s = f a t := by
  show EStateM.bind x f s = f a t
  unfold EStateM.bind
  rw [ended]

theorem bind_of_error {x : Work α} {stop : Stop} (ended : x s = .error stop t)
    (f : α → Work β) : (x >>= f) s = .error stop t := by
  show EStateM.bind x f s = .error stop t
  unfold EStateM.bind
  rw [ended]

/-- The traces that a step reached, whether it stopped or not. -/
def reached : EStateM.Result Stop Traces α → Traces
  | .ok _ t => t
  | .error _ t => t

/-! ## §2. Elementary steps. -/

/-- Fail. -/
def fail (failure : Failure) : Work Unit := fun s => .error (.failed failure) s

/-- Break off. -/
def abort (why : Abort) : Work Unit := fun s => .error (.aborted why) s

/-- Change the disk. -/
def change (f : Disk → Disk) : Work Unit := fun s => .ok () { s with disk := f s.disk }

theorem change_eq (f : Disk → Disk) : change f s = .ok () { s with disk := f s.disk } := rfl

/-- Make a request to the system; a refusal is a failure. -/
def request (system : System) (failure : SystemFault → Failure) (wanted : Request) : Work Unit :=
  match system.refusal? wanted with
  | none => pure ()
  | some fault => fail (failure fault)

theorem request_of_none {system : System} {wanted : Request}
    (allowed : system.refusal? wanted = none) (failure : SystemFault → Failure) :
    request system failure wanted s = .ok () s := by
  unfold request
  rw [allowed]
  rfl

theorem request_of_some {system : System} {wanted : Request} {fault : SystemFault}
    (refused : system.refusal? wanted = some fault) (failure : SystemFault → Failure) :
    request system failure wanted s = .error (.failed (failure fault)) s := by
  unfold request
  rw [refused]
  rfl

/-! ## §3. The temporary folder. -/

/-- Where the last steps come to their end, the steps before them decide. -/
theorem tryFinally_of_ok {last : Work Unit} {f : Traces → Traces}
    (ends : ∀ t, last t = .ok () (f t)) (steps : Work Unit) :
    tryFinally steps last s
      = match steps s with
        | .ok _ t => .ok () (f t)
        | .error stop t => .error stop (f t) := by
  simp only [tryFinally, tryFinally', Functor.map, EStateM.map, ends]
  cases steps s <;> rfl

/-- Where the last steps stop, it does not matter how the steps before them end. -/
theorem tryFinally_of_error {last : Work Unit} {stop : Stop}
    (stops : ∀ t, last t = .error stop t) (steps : Work Unit) :
    tryFinally steps last s = .error stop (reached (steps s)) := by
  simp only [tryFinally, tryFinally', Functor.map, EStateM.map, stops]
  cases steps s <;> rfl

/-- Make the temporary folder. -/
def openScratch (system : System) : Work Unit := do
  request system .unbuildable .makeFolder
  change Disk.openScratch

/-- Remove the temporary folder. -/
def closeScratch (system : System) : Work Unit := do
  request system .unbuildable .removeFolder
  change Disk.closeScratch

/-- Take steps while there is a temporary folder, which is removed however they end. -/
def withScratch (system : System) (steps : Work Unit) : Work Unit := do
  openScratch system
  try steps finally closeScratch system

variable {system : System}

/-- Without the folder, no step is taken. -/
theorem withScratch_unmade {fault : SystemFault}
    (refused : system.refusal? .makeFolder = some fault) (steps : Work Unit) :
    withScratch system steps s = .error (.failed (.unbuildable fault)) s := by
  unfold withScratch openScratch
  rw [bind_of_error (bind_of_error (request_of_some refused _) _)]

/-- The steps end as they do, and after them the folder is gone. -/
theorem withScratch_removed (made : system.refusal? .makeFolder = none)
    (removed : system.refusal? .removeFolder = none) (steps : Work Unit) :
    withScratch system steps s
      = match steps { s with disk := s.disk.openScratch } with
        | .ok _ t => .ok () { t with disk := t.disk.closeScratch }
        | .error stop t => .error stop { t with disk := t.disk.closeScratch } := by
  have opened : openScratch system s = .ok () { s with disk := s.disk.openScratch } :=
    bind_of_ok (request_of_none made _) _
  have closed (t : Traces) :
      closeScratch system t = .ok () { t with disk := t.disk.closeScratch } :=
    bind_of_ok (request_of_none removed _) _
  unfold withScratch
  rw [bind_of_ok opened]
  exact tryFinally_of_ok closed steps

/-- If the folder cannot be removed, this is how the steps end. -/
theorem withScratch_unremoved {fault : SystemFault} (made : system.refusal? .makeFolder = none)
    (refused : system.refusal? .removeFolder = some fault) (steps : Work Unit) :
    withScratch system steps s
      = .error (.failed (.unbuildable fault))
          (reached (steps { s with disk := s.disk.openScratch })) := by
  have opened : openScratch system s = .ok () { s with disk := s.disk.openScratch } :=
    bind_of_ok (request_of_none made _) _
  have stays (t : Traces) : closeScratch system t = .error (.failed (.unbuildable fault)) t :=
    bind_of_error (request_of_some refused _) _
  unfold withScratch
  rw [bind_of_ok opened]
  exact tryFinally_of_error stays steps

end Work
end SlotIR.Build
