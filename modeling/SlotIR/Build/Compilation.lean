/-
  SlotIR.Build.Compilation
  ────────────────────────
  **FROM A TREE TO AN OUTPUT.**

  A compilation lowers a file to a module and then, by the path of the
  output,

      none, or an empty one      does nothing more
      a path that ends in .ll    writes the module there
      any other path             runs the tool on the module, and on the
                                 runtime if it is wanted

  Everything that goes wrong becomes a failed outcome, with two
  exceptions: a tree that is no file, and a path that is no text or has a
  NUL character, break the compilation off.  A tool that is chosen by a path
  is looked for where the path leads, any other on the search path.
-/
import SlotIR.Build.Work
import SlotIR.Lowering.File

namespace SlotIR.Build

/-! ## §1. Jobs and their surroundings. -/

/-- What is to be compiled, and how. -/
structure Job where
  source : Reading SourceFile
  /-- The path of the output, null if there is none. -/
  output : Datum := .null
  options : Options := {}
  withRuntime : Bool := true

/-- The surroundings of a compilation. -/
structure Workshop where
  disk : Disk := {}
  /-- The name of the tool, or a path to it. -/
  toolName : String := defaultTool
  /-- The tool on the search path. -/
  installed : Option Tool := none
  /-- The programs that paths lead to, with their places. -/
  programs : List (Place × Tool) := []
  /-- What the system refuses. -/
  system : System := .standard
  /-- The path that the temporary folder gets. -/
  scratchPath : String

/-- What a compilation comes to. -/
structure Report extends Traces where
  outcome : Outcome

/-- The program that a path leads to. -/
def Workshop.programAt? (workshop : Workshop) (path : String) : Option Tool :=
  match workshop.disk.locate path with
  | .ok place => workshop.programs.lookup place
  | .error _ => none

/-- The tool of the chosen name.  A name with a slash is a path; any other, unless it is empty, is
looked for on the search path. -/
def Workshop.tool? (workshop : Workshop) : Option Tool :=
  if Path.holdsSlash workshop.toolName then workshop.programAt? workshop.toolName
  else workshop.installed.filter fun tool =>
    tool.name == workshop.toolName && workshop.toolName != ""

/-! ## §2. Lowering. -/

/-- The module of a file, or why there is none. -/
def moduleOf (options : Options) (file : SourceFile) : Except Fault String :=
  match generate options file {} with
  | .ok ir _ => .ok ir
  | .error fault _ => .error fault

/-! ## §3. Outputs. -/

/-- The extension of a path that asks for the text of the module. -/
def moduleExtension : String := ".ll"

/-- Write the file at a place that a path leads to.  From its opening on it does not hold what it
held before. -/
def writeFile (workshop : Workshop) (place : Place) (path content : String) : Work Unit := do
  Work.request workshop.system .unwritable (.openFile path)
  Work.change (·.put place (workshop.system.leftIn path))
  Work.request workshop.system .unwritable (.writeFile path content)
  Work.change (·.put place content)

/-- Write the module to the path of the output. -/
def writeOutput (workshop : Workshop) (ir path : String) : Work Unit :=
  if Path.holdsNul path then .abort .nulInPath
  else
    match workshop.disk.locate path with
    | .error fault => .fail (.unwritable (fault.on path))
    | .ok place => writeFile workshop place path ir

/-- The modules that the tool is run on, each with the name of its file. -/
def toolModules (ir : String) (withRuntime : Bool) : List (String × String) :=
  ("main.ll", ir) :: if withRuntime then [("runtime.ll", Builtins.runtime)] else []

/-- The path of a file in the temporary folder. -/
def Workshop.scratchFile (workshop : Workshop) (name : String) : String :=
  workshop.scratchPath ++ "/" ++ name

/-- Write a module into the temporary folder. -/
def writeModule (workshop : Workshop) (module : String × String) : Work Unit := do
  Work.request workshop.system .unbuildable (.openFile (workshop.scratchFile module.1))
  Work.request workshop.system .unbuildable
    (.writeFile (workshop.scratchFile module.1) module.2)
  Work.change (·.addScratch module)

/-- Write modules into the temporary folder, one after another. -/
def writeModules (workshop : Workshop) : List (String × String) → Work Unit
  | [] => pure ()
  | module :: rest => do
    writeModule workshop module
    writeModules workshop rest

/-- Run a tool, and look at how the run ends. -/
def Work.run (tool : Tool) (command : List String) : Work Unit := fun s =>
  let after : Traces :=
    { disk := tool.changes command.tail s.disk
      run := some { arguments := command.tail, modules := s.disk.scratch.getD [] } }
  if tool.runEnd = .exited 0 then .ok () after
  else .error (.failed (.toolFailed command tool.runEnd tool.explanation)) after

/-- Start a tool and run it, unless the path that is one of its arguments holds a NUL character,
which would end the argument. -/
def startTool (workshop : Workshop) (tool : Tool) (command : List String) (path : String) :
    Work Unit :=
  if Path.holdsNul path then .abort .nulInPath
  else do
    Work.request workshop.system .unbuildable (.start command)
    Work.run tool command

/-- Write the modules into the temporary folder, and run a tool on them. -/
def linkModules (workshop : Workshop) (tool : Tool) (withRuntime : Bool) (ir path : String) :
    Work Unit := do
  let modules := toolModules ir withRuntime
  writeModules workshop modules
  Work.request workshop.system .unbuildable .openPipes
  startTool workshop tool
    (buildCommand workshop.toolName path (modules.map fun module => workshop.scratchFile module.1))
    path

/-- Build an executable, if the tool is there. -/
def buildExecutable (workshop : Workshop) (withRuntime : Bool) (ir path : String) : Work Unit :=
  match workshop.tool? with
  | none => .fail (.toolMissing workshop.toolName)
  | some tool =>
    .withScratch workshop.system (linkModules workshop tool withRuntime ir path)

/-- Make the output of a path from a module. -/
def makeOutput (workshop : Workshop) (withRuntime : Bool) (ir path : String) : Work Unit :=
  if Path.extension path = moduleExtension then writeOutput workshop ir path
  else buildExecutable workshop withRuntime ir path

/-- What a compilation comes to when an output was made, or was not. -/
def Work.report (ir path : String) : EStateM.Result Stop Traces Unit → Except Abort Report
  | .ok _ traces => .ok { traces with outcome := .done ir (.text path) }
  | .error (.failed failure) traces => .ok { traces with outcome := .failed ir failure }
  | .error (.aborted why) _ => .error why

/-! ## §4. Compilations. -/

/-- Compile a file. -/
def compileFile (workshop : Workshop) (job : Job) (file : SourceFile) : Except Abort Report :=
  match moduleOf job.options file with
  | .error fault => .ok { outcome := .failed none (.refused fault), disk := workshop.disk }
  | .ok ir =>
    if job.output.holds then
      match job.output with
      | .text path =>
        Work.report ir path (makeOutput workshop job.withRuntime ir path { disk := workshop.disk })
      | other => .error (.noPath other.typeName)
    else .ok { outcome := .done ir job.output, disk := workshop.disk }

/-- Compile a tree that should be a file. -/
def compile (workshop : Workshop) (job : Job) : Except Abort Report :=
  match job.source with
  | .error fault => .error (.unreadable fault)
  | .ok file => compileFile workshop job file

end SlotIR.Build
