/-
  SlotIR.Build.Tool
  ─────────────────
  **THE TOOL THAT LINKS MODULES.**

  Executables are built by an outside tool, which is run on the modules in
  a temporary folder.  A run may change the disk.  It ends with a status of
  one byte, unless a signal ends it before.  With another end than status
  zero it has failed; what the tool wrote says why.
-/
import SlotIR.Build.Disk
import SlotIR.Text.Blank
import SlotIR.Text.Quoted

namespace SlotIR.Build

/-! ## §1. How runs end. -/

/-- How a run of a tool ends. -/
inductive RunEnd where
  /-- The tool exits with a status. -/
  | exited (status : Nat)
  /-- A signal ends the run. -/
  | killed (signal : Nat)
  deriving DecidableEq, Repr

/-- The signals that have a name. -/
def signalNames : List (Nat × String) :=
  [(1, "SIGHUP"), (2, "SIGINT"), (3, "SIGQUIT"), (4, "SIGILL"), (5, "SIGTRAP"), (6, "SIGABRT"),
   (7, "SIGBUS"), (8, "SIGFPE"), (9, "SIGKILL"), (10, "SIGUSR1"), (11, "SIGSEGV"), (12, "SIGUSR2"),
   (13, "SIGPIPE"), (14, "SIGALRM"), (15, "SIGTERM"), (16, "SIGSTKFLT"), (17, "SIGCHLD"),
   (18, "SIGCONT"), (19, "SIGSTOP"), (20, "SIGTSTP"), (21, "SIGTTIN"), (22, "SIGTTOU"),
   (23, "SIGURG"), (24, "SIGXCPU"), (25, "SIGXFSZ"), (26, "SIGVTALRM"), (27, "SIGPROF"),
   (28, "SIGWINCH"), (29, "SIGIO"), (30, "SIGPWR"), (31, "SIGSYS"), (34, "SIGRTMIN"),
   (64, "SIGRTMAX")]

/-- The end of a run in messages. -/
def RunEnd.text : RunEnd → String
  | .exited status => "returned non-zero exit status " ++ status.repr
  | .killed signal =>
    match signalNames.lookup signal with
    | some name => "died with <Signals." ++ name ++ ": " ++ signal.repr ++ ">"
    | none => "died with unknown signal " ++ signal.repr

example : (RunEnd.killed 11).text = "died with <Signals.SIGSEGV: 11>" := by decide +kernel

/-! ## §2. Tools. -/

/-- A tool: what it writes, the number it exits with, and what a run makes of the disk. -/
structure Tool where
  name : String
  stdout : String := ""
  stderr : String := ""
  exit : Int := 0
  /-- The signal that ends a run before the tool exits, if there is one. -/
  signal : Option Nat := none
  /-- The disk after a run with the given arguments, from the disk before. -/
  changes : List String → Disk → Disk := fun _ disk => disk

/-- How a run of the tool ends.  The status is the low byte of the number it exits with. -/
def Tool.runEnd (tool : Tool) : RunEnd :=
  match tool.signal with
  | some signal => .killed signal
  | none => .exited (tool.exit % 256).toNat

/-- The name of the tool, if no other is chosen. -/
def defaultTool : String := "clang"

/-! ## §3. Commands. -/

/-- The command that builds an executable from modules: the tool and its arguments. -/
def buildCommand (tool output : String) (modules : List String) : List String :=
  [tool, "-Wno-override-module", "-o", output] ++ modules

/-- The text of a command in messages. -/
def commandText (command : List String) : String :=
  "[" ++ ", ".intercalate (command.map Text.quoted) ++ "]"

/-- A run of the tool: its arguments, and the modules that it was given. -/
structure ToolRun where
  arguments : List String
  modules : List (String × String)
  deriving Repr

/-! ## §4. What the tool wrote. -/

/-- What a tool wrote, with plain line ends and without the blanks around it. -/
def tidy (written : String) : String :=
  Text.trim (String.ofList (Text.unifyLineEnds written.toList))

/-- The explanation of a failure: what the tool wrote as errors, or else as output. -/
def Tool.explanation (tool : Tool) : String :=
  if tidy tool.stderr ≠ "" then tidy tool.stderr
  else if tidy tool.stdout ≠ "" then tidy tool.stdout
  else "(no output)"

/-- There always is an explanation. -/
theorem Tool.explanation_ne_empty (tool : Tool) : tool.explanation ≠ "" := by
  unfold explanation
  split
  · assumption
  · split
    · assumption
    · decide

end SlotIR.Build
