/-
  SlotIR.Build.Outcome
  ────────────────────
  **WHAT A COMPILATION COMES TO.**

  An outcome is a success or one failure.  A failure in lowering leaves no
  module; later failures leave the module, but no output.
-/
import SlotIR.Build.Tool
import SlotIR.Datum.Equality
import SlotIR.Fault

namespace SlotIR.Build

/-! ## §1. Failures. -/

/-- Why a compilation fails. -/
inductive Failure where
  /-- The program is refused. -/
  | refused (fault : Fault)
  /-- The module cannot be written to the path of the output. -/
  | unwritable (fault : SystemFault)
  /-- The tool is not installed. -/
  | toolMissing (name : String)
  /-- The system does not let the tool be run, or the temporary folder be used. -/
  | unbuildable (fault : SystemFault)
  /-- The run of the tool ended otherwise than with status zero. -/
  | toolFailed (command : List String) (runEnd : RunEnd) (explanation : String)

/-- The message of a failure. -/
def Failure.message : Failure → String
  | .refused fault => "IR generation failed: " ++ fault.message
  | .unwritable fault => "Failed to write output file: " ++ fault.text
  | .toolMissing name => "Build failed: " ++ name ++ " not found"
  | .unbuildable fault => "Build failed: " ++ fault.text
  | .toolFailed command runEnd explanation =>
    "Build failed: Command '" ++ commandText command ++ "' " ++ runEnd.text ++ ".\n" ++ explanation

/-! ## §2. Outcomes. -/

/-- The outcome of a compilation. -/
structure Outcome where
  success : Bool
  /-- The path of the output, or what was given in place of one. -/
  outputFile : Datum := .null
  errors : List String := []
  /-- The text of the module. -/
  ir : Option String := none
  deriving DecidableEq, Repr

/-- The outcome of a success. -/
def Outcome.done (ir : String) (outputFile : Datum) : Outcome :=
  { success := true, outputFile, ir := some ir }

/-- The outcome of a failure, with the module as far as there is one. -/
def Outcome.failed (ir : Option String) (failure : Failure) : Outcome :=
  { success := false, errors := [failure.message], ir }

/-! ## §3. Outcomes from named parts. -/

/-- The parts of an outcome in order, each with its default unless it is required. -/
def Outcome.schema : List (String × Option Datum) :=
  [("success", none), ("output_file", some .null), ("errors", some .null), ("ir", some .null)]

/-- No errors are an empty list. -/
def Outcome.completePart : String × Datum → String × Datum
  | ("errors", .null) => ("errors", .list [])
  | part => part

/-- All parts of the outcome with the given named parts, which may be any values.  There is none if
a part is unknown, or if it is not said whether the outcome is a success. -/
def Outcome.complete? (parts : List (String × Datum)) : Option (List (String × Datum)) := do
  let values ← Datum.fill? schema parts
  return ((schema.map (·.1)).zip values).map completePart

end SlotIR.Build
