/-
  SlotIR.Proofs.Build.Endings
  ───────────────────────────
  **HOW A COMPILATION ENDS.**

  A compilation goes through lowering, and then writes the module or builds
  from it with the tool.  `Ends` has one rule for each way through:

      refused       lowering finds a fault
      noOutput      nothing is to be done with the module
      written       the module is at its path
      unreachable   the path leads to no file
      unopened      the system does not open the file
      unwritten     the system does not write it
      toolMissing   the tool is not there
      unmade        the system does not make the temporary folder
      unremoved     the system does not remove it
      unstarted     the system does not write the modules or start the tool
      ran           the tool was run, however the run ended
      noPath        no text stands in the place of the path
      nulInPath     the path with a NUL character is to be used

  Under the last two the compilation is broken off; under all others there
  is a report.  The system is any at all: what it refuses is a parameter of
  the workshop.  Main result:

    • `compile_returns_iff` — where the output is a path or absent, there is
      a report unless a path with a NUL character is to be used, and every
      failure is in the report as one message.
-/
import SlotIR.Proofs.Build.Linking
import SlotIR.Proofs.Lowering.Steps
import SlotIR.Proofs.Program.Typed

namespace SlotIR.Build

/-! ## §1. The ways through a compilation. -/

/-- The compilation is to make an output at a path. -/
def Job.outputAt (job : Job) (path : String) : Prop := job.output = .text path ∧ path ≠ ""

/-- The file is lowered, and the module itself is to be the output. -/
structure Writing (job : Job) (file : SourceFile) (ir path : String) : Prop where
  lowered : moduleOf job.options file = .ok ir
  output : job.outputAt path
  direct : Path.extension path = moduleExtension

/-- The file is lowered, and the output is to be built from the module. -/
structure Building (job : Job) (file : SourceFile) (ir path : String) : Prop where
  lowered : moduleOf job.options file = .ok ir
  output : job.outputAt path
  built : Path.extension path ≠ moduleExtension

/-- The tool is there, and a temporary folder to run it in. -/
structure Equipped (workshop : Workshop) (tool : Tool) : Prop where
  found : workshop.tool? = some tool
  made : workshop.system.refusal? .makeFolder = none

/-- The tool is there, and a temporary folder that can be removed again. -/
structure Ready (workshop : Workshop) (tool : Tool) : Prop extends Equipped workshop tool where
  removable : workshop.system.refusal? .removeFolder = none

/-- A path with a NUL character is to be opened, or to be handed to the tool. -/
def UsesNul (workshop : Workshop) (job : Job) (file : SourceFile) : Prop :=
  ∃ ir path, Path.holdsNul path = true
    ∧ (Writing job file ir path
      ∨ Building job file ir path ∧ (∃ tool, Ready workshop tool)
        ∧ workshop.system.firstRefusal? (workshop.preparations job.withRuntime ir) = none)

/-- How the compilation of a file ends. -/
inductive Ends (workshop : Workshop) (job : Job) (file : SourceFile) :
    Except Abort Report → Prop
  | refused {fault : Fault} (lowered : moduleOf job.options file = .error fault) :
      Ends workshop job file
        (.ok { disk := workshop.disk, outcome := .failed none (.refused fault) })
  | noOutput {ir : String} (lowered : moduleOf job.options file = .ok ir)
      (absent : job.output.holds = false) :
      Ends workshop job file (.ok { disk := workshop.disk, outcome := .done ir job.output })
  | written {ir path : String} {place : Place} (writing : Writing job file ir path)
      (plain : Path.holdsNul path = false)
      (located : workshop.disk.locate path = .ok place)
      (opened : workshop.system.refusal? (.openFile path) = none)
      (wrote : workshop.system.refusal? (.writeFile path ir) = none) :
      Ends workshop job file
        (.ok { disk := workshop.disk.put place ir, outcome := .done ir (.text path) })
  | unreachable {ir path : String} {fault : PathFault} (writing : Writing job file ir path)
      (plain : Path.holdsNul path = false) (lost : workshop.disk.locate path = .error fault) :
      Ends workshop job file
        (.ok { disk := workshop.disk, outcome := .failed ir (.unwritable (fault.on path)) })
  | unopened {ir path : String} {place : Place} {fault : SystemFault}
      (writing : Writing job file ir path) (plain : Path.holdsNul path = false)
      (located : workshop.disk.locate path = .ok place)
      (unopened : workshop.system.refusal? (.openFile path) = some fault) :
      Ends workshop job file
        (.ok { disk := workshop.disk, outcome := .failed ir (.unwritable fault) })
  | unwritten {ir path : String} {place : Place} {fault : SystemFault}
      (writing : Writing job file ir path) (plain : Path.holdsNul path = false)
      (located : workshop.disk.locate path = .ok place)
      (opened : workshop.system.refusal? (.openFile path) = none)
      (unwritten : workshop.system.refusal? (.writeFile path ir) = some fault) :
      Ends workshop job file
        (.ok
          { disk := workshop.disk.put place (workshop.system.leftIn path)
            outcome := .failed ir (.unwritable fault) })
  | toolMissing {ir path : String} (building : Building job file ir path)
      (missing : workshop.tool? = none) :
      Ends workshop job file
        (.ok { disk := workshop.disk, outcome := .failed ir (.toolMissing workshop.toolName) })
  | unmade {ir path : String} {tool : Tool} {fault : SystemFault}
      (building : Building job file ir path) (found : workshop.tool? = some tool)
      (unmade : workshop.system.refusal? .makeFolder = some fault) :
      Ends workshop job file
        (.ok { disk := workshop.disk, outcome := .failed ir (.unbuildable fault) })
  | unremoved {ir path : String} {tool : Tool} {fault : SystemFault}
      (building : Building job file ir path) (equipped : Equipped workshop tool)
      (unremoved : workshop.system.refusal? .removeFolder = some fault) :
      Ends workshop job file
        (.ok
          { Work.reached
              (linkModules workshop tool job.withRuntime ir path (workshop.holding [])) with
            outcome := .failed ir (.unbuildable fault) })
  | unstarted {ir path : String} {tool : Tool} {fault : SystemFault}
      (building : Building job file ir path) (ready : Ready workshop tool)
      (unstarted : Unstarted workshop job.withRuntime ir path fault) :
      Ends workshop job file
        (.ok { disk := workshop.disk.closeScratch, outcome := .failed ir (.unbuildable fault) })
  | ran {ir path : String} {tool : Tool} (building : Building job file ir path)
      (ready : Ready workshop tool) (starts : Starts workshop job.withRuntime ir path) :
      Ends workshop job file
        (.ok
          { disk := (workshop.afterRun tool job.withRuntime ir path).disk.closeScratch
            run := (workshop.afterRun tool job.withRuntime ir path).run
            outcome :=
              if tool.runEnd = .exited 0 then .done ir (.text path)
              else .failed ir
                (.toolFailed
                  (workshop.toolName :: toolArguments workshop job.withRuntime path)
                  tool.runEnd tool.explanation) })
  | noPath {ir : String} (lowered : moduleOf job.options file = .ok ir)
      (present : job.output.holds = true) (other : ∀ path, job.output ≠ .text path) :
      Ends workshop job file (.error (.noPath job.output.typeName))
  | nulInPath (uses : UsesNul workshop job file) :
      Ends workshop job file (.error .nulInPath)

section

variable {workshop : Workshop} {job : Job} {file : SourceFile} {ir path : String} {tool : Tool}
  {fault : SystemFault}

/-- Where a module is lowered and an output wanted, making the output is all that is left. -/
theorem compile_of_outputAt (source : job.source = .ok file)
    (lowered : moduleOf job.options file = .ok ir) (output : job.outputAt path) :
    compile workshop job
      = Work.report ir path
          (makeOutput workshop job.withRuntime ir path { disk := workshop.disk }) := by
  have present : (Datum.text path).holds = true := by
    simpa [Datum.holds, Atom.holds] using output.2
  simp only [compile, source, compileFile, lowered, output.1, present, if_true]

/-- A module that is to be the output is written. -/
theorem compile_of_writing (source : job.source = .ok file) (writing : Writing job file ir path) :
    compile workshop job
      = Work.report ir path (writeOutput workshop ir path { disk := workshop.disk }) := by
  rw [compile_of_outputAt source writing.lowered writing.output, makeOutput,
    if_pos writing.direct]

/-- Where the path does not lead to a file, its fault is reported. -/
theorem compile_of_unreachable {lost : PathFault} (source : job.source = .ok file)
    (writing : Writing job file ir path) (plain : Path.holdsNul path = false)
    (located : workshop.disk.locate path = .error lost) :
    compile workshop job
      = .ok { disk := workshop.disk, outcome := .failed ir (.unwritable (lost.on path)) } := by
  rw [compile_of_writing source writing]
  unfold writeOutput
  rw [plain, located]
  rfl

/-- Where the path leads to a file, it is left to write it. -/
theorem compile_of_located {place : Place} (source : job.source = .ok file)
    (writing : Writing job file ir path) (plain : Path.holdsNul path = false)
    (located : workshop.disk.locate path = .ok place) :
    compile workshop job
      = Work.report ir path (writeFile workshop place path ir { disk := workshop.disk }) := by
  rw [compile_of_writing source writing]
  unfold writeOutput
  rw [plain, located]
  rfl

/-- A file that cannot be opened stays as it is. -/
theorem compile_of_unopened {place : Place} (source : job.source = .ok file)
    (writing : Writing job file ir path) (plain : Path.holdsNul path = false)
    (located : workshop.disk.locate path = .ok place)
    (unopened : workshop.system.refusal? (.openFile path) = some fault) :
    compile workshop job
      = .ok { disk := workshop.disk, outcome := .failed ir (.unwritable fault) } := by
  rw [compile_of_located source writing plain located]
  unfold writeFile
  rw [Work.bind_of_error (Work.request_of_some unopened _)]
  rfl

/-- A file that is opened and cannot be written is left with a part of the module, or empty. -/
theorem compile_of_unwritten {place : Place} (source : job.source = .ok file)
    (writing : Writing job file ir path) (plain : Path.holdsNul path = false)
    (located : workshop.disk.locate path = .ok place)
    (opened : workshop.system.refusal? (.openFile path) = none)
    (unwritten : workshop.system.refusal? (.writeFile path ir) = some fault) :
    compile workshop job
      = .ok
          { disk := workshop.disk.put place (workshop.system.leftIn path)
            outcome := .failed ir (.unwritable fault) } := by
  rw [compile_of_located source writing plain located]
  unfold writeFile
  rw [Work.bind_of_ok (Work.request_of_none opened _), Work.bind_of_ok (Work.change_eq _),
    Work.bind_of_error (Work.request_of_some unwritten _)]
  rfl

/-- Where nothing is refused, the module is in the file. -/
theorem compile_of_written {place : Place} (source : job.source = .ok file)
    (writing : Writing job file ir path) (plain : Path.holdsNul path = false)
    (located : workshop.disk.locate path = .ok place)
    (opened : workshop.system.refusal? (.openFile path) = none)
    (wrote : workshop.system.refusal? (.writeFile path ir) = none) :
    compile workshop job
      = .ok { disk := workshop.disk.put place ir, outcome := .done ir (.text path) } := by
  rw [compile_of_located source writing plain located]
  unfold writeFile
  rw [Work.bind_of_ok (Work.request_of_none opened _), Work.bind_of_ok (Work.change_eq _),
    Work.bind_of_ok (Work.request_of_none wrote _), Work.change_eq, Disk.put_put]
  rfl

/-- Without the tool there is nothing to build with. -/
theorem compile_of_toolMissing (source : job.source = .ok file)
    (building : Building job file ir path) (missing : workshop.tool? = none) :
    compile workshop job
      = .ok
          { disk := workshop.disk, outcome := .failed ir (.toolMissing workshop.toolName) } := by
  rw [compile_of_outputAt source building.lowered building.output, makeOutput,
    if_neg building.built]
  unfold buildExecutable
  rw [missing]
  rfl

/-- With the tool, the modules are linked in a temporary folder. -/
theorem compile_of_found (source : job.source = .ok file) (building : Building job file ir path)
    (found : workshop.tool? = some tool) :
    compile workshop job
      = Work.report ir path
          (Work.withScratch workshop.system
            (linkModules workshop tool job.withRuntime ir path) { disk := workshop.disk }) := by
  rw [compile_of_outputAt source building.lowered building.output, makeOutput,
    if_neg building.built]
  unfold buildExecutable
  rw [found]

/-- Without a temporary folder nothing is built. -/
theorem compile_of_unmade (source : job.source = .ok file) (building : Building job file ir path)
    (found : workshop.tool? = some tool)
    (unmade : workshop.system.refusal? .makeFolder = some fault) :
    compile workshop job
      = .ok { disk := workshop.disk, outcome := .failed ir (.unbuildable fault) } := by
  rw [compile_of_found source building found, Work.withScratch_unmade unmade]
  rfl

/-- A folder that cannot be removed is what is reported. -/
theorem compile_of_unremoved (source : job.source = .ok file)
    (building : Building job file ir path) (equipped : Equipped workshop tool)
    (unremoved : workshop.system.refusal? .removeFolder = some fault) :
    compile workshop job
      = .ok
          { Work.reached
              (linkModules workshop tool job.withRuntime ir path (workshop.holding [])) with
            outcome := .failed ir (.unbuildable fault) } := by
  rw [compile_of_found source building equipped.found,
    Work.withScratch_unremoved equipped.made unremoved]
  rfl

/-- With a temporary folder, the linking decides. -/
theorem compile_of_ready (source : job.source = .ok file) (building : Building job file ir path)
    (ready : Ready workshop tool) :
    compile workshop job
      = Work.report ir path
          (match linkModules workshop tool job.withRuntime ir path (workshop.holding []) with
            | .ok _ t => .ok () { t with disk := t.disk.closeScratch }
            | .error stop t => .error stop { t with disk := t.disk.closeScratch }) := by
  rw [compile_of_found source building ready.found,
    Work.withScratch_removed ready.made ready.removable]
  rfl

/-- Where the system refuses what the tool takes, that is reported. -/
theorem compile_of_unstarted (source : job.source = .ok file)
    (building : Building job file ir path) (ready : Ready workshop tool)
    (unstarted : Unstarted workshop job.withRuntime ir path fault) :
    compile workshop job
      = .ok
          { disk := workshop.disk.closeScratch, outcome := .failed ir (.unbuildable fault) } := by
  obtain ⟨files, linked⟩ := linkModules_of_unstarted unstarted tool
  rw [compile_of_ready source building ready, linked]
  rfl

/-- Where the tool is run, the end of the run is reported. -/
theorem compile_of_starts (source : job.source = .ok file) (building : Building job file ir path)
    (ready : Ready workshop tool) (starts : Starts workshop job.withRuntime ir path) :
    compile workshop job
      = .ok
          { disk := (workshop.afterRun tool job.withRuntime ir path).disk.closeScratch
            run := (workshop.afterRun tool job.withRuntime ir path).run
            outcome :=
              if tool.runEnd = .exited 0 then .done ir (.text path)
              else .failed ir
                (.toolFailed
                  (workshop.toolName :: toolArguments workshop job.withRuntime path)
                  tool.runEnd tool.explanation) } := by
  rw [compile_of_ready source building ready, linkModules_of_starts starts]
  by_cases zero : tool.runEnd = .exited 0
  · rw [if_pos zero, if_pos zero]
    rfl
  · rw [if_neg zero, if_neg zero]
    rfl

/-- A path with a NUL character breaks the compilation off where it is to be used. -/
theorem UsesNul.breaks (uses : UsesNul workshop job file) (source : job.source = .ok file) :
    compile workshop job = .error .nulInPath := by
  obtain ⟨ir, path, nul, writing | ⟨building, ⟨tool, ready⟩, prepared⟩⟩ := uses
  · rw [compile_of_writing source writing]
    unfold writeOutput
    rw [nul]
    rfl
  · rw [compile_of_ready source building ready, linkModules_of_nul prepared nul]
    rfl

/-- Writing the module is one of the ways through. -/
theorem ends_of_writing (source : job.source = .ok file) (writing : Writing job file ir path) :
    Ends workshop job file (compile workshop job) := by
  by_cases nul : Path.holdsNul path = true
  · have uses : UsesNul workshop job file := ⟨ir, path, nul, .inl writing⟩
    rw [uses.breaks source]
    exact .nulInPath uses
  have plain : Path.holdsNul path = false := Bool.eq_false_iff.2 nul
  cases located : workshop.disk.locate path with
  | error lost =>
    rw [compile_of_unreachable source writing plain located]
    exact .unreachable writing plain located
  | ok place =>
    cases opened : workshop.system.refusal? (.openFile path) with
    | some fault =>
      rw [compile_of_unopened source writing plain located opened]
      exact .unopened writing plain located opened
    | none =>
      cases wrote : workshop.system.refusal? (.writeFile path ir) with
      | some fault =>
        rw [compile_of_unwritten source writing plain located opened wrote]
        exact .unwritten writing plain located opened wrote
      | none =>
        rw [compile_of_written source writing plain located opened wrote]
        exact .written writing plain located opened wrote

/-- Building with the tool is one of the ways through. -/
theorem ends_of_building (source : job.source = .ok file)
    (building : Building job file ir path) : Ends workshop job file (compile workshop job) := by
  cases found : workshop.tool? with
  | none =>
    rw [compile_of_toolMissing source building found]
    exact .toolMissing building found
  | some tool =>
    cases made : workshop.system.refusal? .makeFolder with
    | some fault =>
      rw [compile_of_unmade source building found made]
      exact .unmade building found made
    | none =>
      cases removable : workshop.system.refusal? .removeFolder with
      | some fault =>
        have equipped : Equipped workshop tool := ⟨found, made⟩
        rw [compile_of_unremoved source building equipped removable]
        exact .unremoved building equipped removable
      | none =>
        have ready : Ready workshop tool := ⟨⟨found, made⟩, removable⟩
        -- the folder is made and removed, so what happens in it decides
        rcases starts_cases workshop job.withRuntime ir path with
          starts | ⟨fault, unstarted⟩ | ⟨prepared, nul⟩
        · rw [compile_of_starts source building ready starts]
          exact .ran building ready starts
        · rw [compile_of_unstarted source building ready unstarted]
          exact .unstarted building ready unstarted
        · have uses : UsesNul workshop job file :=
            ⟨ir, path, nul, .inr ⟨building, ⟨tool, ready⟩, prepared⟩⟩
          rw [uses.breaks source]
          exact .nulInPath uses

/-- **A compilation ends in one of these ways.** -/
theorem compile_ends (source : job.source = .ok file) :
    Ends workshop job file (compile workshop job) := by
  cases lowered : moduleOf job.options file with
  | error fault =>
    simp only [compile, source, compileFile, lowered]
    exact .refused lowered
  | ok ir =>
    -- a text that is not empty, another value that holds, or nothing
    by_cases wanted : ∃ path, job.outputAt path
    · obtain ⟨path, output⟩ := wanted
      by_cases direct : Path.extension path = moduleExtension
      · exact ends_of_writing source ⟨lowered, output, direct⟩
      · exact ends_of_building source ⟨lowered, output, direct⟩
    · simp only [compile, source, compileFile, lowered]
      by_cases present : job.output.holds = true
      · have other : ∀ path, job.output ≠ .text path := by
          intro path given
          apply wanted
          rw [given] at present
          exact ⟨path, given, by simpa [Datum.holds, Atom.holds] using present⟩
        rw [if_pos present]
        split
        · rename_i path given
          exact absurd given (other path)
        · exact .noPath lowered present other
      · rw [if_neg present]
        exact .noOutput lowered (Bool.eq_false_iff.2 present)

/-! ## §2. What fails. -/

/-- What goes wrong in a compilation. -/
inductive Fails (workshop : Workshop) (job : Job) (file : SourceFile) : Failure → Prop
  | lowering {fault : Fault} (lowered : moduleOf job.options file = .error fault) :
      Fails workshop job file (.refused fault)
  | reaching {ir path : String} {fault : PathFault} (writing : Writing job file ir path)
      (plain : Path.holdsNul path = false) (lost : workshop.disk.locate path = .error fault) :
      Fails workshop job file (.unwritable (fault.on path))
  | opening {ir path : String} {place : Place} {fault : SystemFault}
      (writing : Writing job file ir path) (plain : Path.holdsNul path = false)
      (located : workshop.disk.locate path = .ok place)
      (refused : workshop.system.refusal? (.openFile path) = some fault) :
      Fails workshop job file (.unwritable fault)
  | writing {ir path : String} {place : Place} {fault : SystemFault}
      (writing : Writing job file ir path) (plain : Path.holdsNul path = false)
      (located : workshop.disk.locate path = .ok place)
      (opened : workshop.system.refusal? (.openFile path) = none)
      (refused : workshop.system.refusal? (.writeFile path ir) = some fault) :
      Fails workshop job file (.unwritable fault)
  | finding {ir path : String} (building : Building job file ir path)
      (missing : workshop.tool? = none) :
      Fails workshop job file (.toolMissing workshop.toolName)
  | making {ir path : String} {tool : Tool} {fault : SystemFault}
      (building : Building job file ir path) (found : workshop.tool? = some tool)
      (refused : workshop.system.refusal? .makeFolder = some fault) :
      Fails workshop job file (.unbuildable fault)
  | removing {ir path : String} {tool : Tool} {fault : SystemFault}
      (building : Building job file ir path) (equipped : Equipped workshop tool)
      (refused : workshop.system.refusal? .removeFolder = some fault) :
      Fails workshop job file (.unbuildable fault)
  | starting {ir path : String} {tool : Tool} {fault : SystemFault}
      (building : Building job file ir path) (ready : Ready workshop tool)
      (unstarted : Unstarted workshop job.withRuntime ir path fault) :
      Fails workshop job file (.unbuildable fault)
  | running {ir path : String} {tool : Tool} (building : Building job file ir path)
      (ready : Ready workshop tool) (starts : Starts workshop job.withRuntime ir path)
      (failed : tool.runEnd ≠ .exited 0) :
      Fails workshop job file
        (.toolFailed (workshop.toolName :: toolArguments workshop job.withRuntime path)
          tool.runEnd tool.explanation)

/-- What goes wrong is reported. -/
theorem Fails.compile_eq {failure : Failure} (fails : Fails workshop job file failure)
    (source : job.source = .ok file) :
    ∃ (ir : Option String) (traces : Traces),
      compile workshop job = .ok { traces with outcome := .failed ir failure } := by
  cases fails with
  | lowering lowered =>
    simp only [compile, source, compileFile, lowered]
    exact ⟨none, { disk := workshop.disk }, rfl⟩
  | reaching writing plain lost =>
    exact ⟨_, _, compile_of_unreachable source writing plain lost⟩
  | opening writing plain located refused =>
    exact ⟨_, _, compile_of_unopened source writing plain located refused⟩
  | writing writing plain located opened refused =>
    exact ⟨_, _, compile_of_unwritten source writing plain located opened refused⟩
  | finding building missing => exact ⟨_, _, compile_of_toolMissing source building missing⟩
  | making building found refused =>
    exact ⟨_, _, compile_of_unmade source building found refused⟩
  | removing building equipped refused =>
    exact ⟨_, _, compile_of_unremoved source building equipped refused⟩
  | starting building ready unstarted =>
    exact ⟨_, _, compile_of_unstarted source building ready unstarted⟩
  | running building ready starts failed =>
    have ran := compile_of_starts source building ready starts
    rw [if_neg failed] at ran
    exact ⟨_, _, ran⟩

/-- What goes wrong is reported in one message. -/
theorem Fails.reported {failure : Failure} {report : Report}
    (fails : Fails workshop job file failure) (source : job.source = .ok file)
    (ended : compile workshop job = .ok report) :
    report.outcome.success = false ∧ report.outcome.errors = [failure.message] := by
  obtain ⟨ir, traces, failed⟩ := fails.compile_eq source
  rw [failed] at ended
  cases ended
  exact ⟨rfl, rfl⟩

/-- A failure after lowering leaves the module. -/
theorem failed_of_lowered {ir : String} (lowered : moduleOf job.options file = .ok ir)
    (failure : Failure) :
    Outcome.failed ir failure = .failed (moduleOf job.options file).toOption failure := by
  rw [lowered]
  rfl

/-- Either a compilation succeeds without errors, or something goes wrong and is its one error. -/
theorem Ends.outcome_cases {report : Report} (ends : Ends workshop job file (.ok report)) :
    (∃ ir, report.outcome = .done ir job.output ∧ moduleOf job.options file = .ok ir)
      ∨ ∃ failure, Fails workshop job file failure
          ∧ report.outcome = .failed (moduleOf job.options file).toOption failure := by
  cases ends with
  | refused lowered =>
    right
    refine ⟨_, .lowering lowered, ?_⟩
    rw [lowered]
    rfl
  | noOutput lowered => exact .inl ⟨_, rfl, lowered⟩
  | written writing =>
    left
    rw [writing.output.1]
    exact ⟨_, rfl, writing.lowered⟩
  | unreachable writing plain lost =>
    exact .inr ⟨_, .reaching writing plain lost, failed_of_lowered writing.lowered _⟩
  | unopened writing plain located refused =>
    exact .inr ⟨_, .opening writing plain located refused, failed_of_lowered writing.lowered _⟩
  | unwritten writing plain located opened refused =>
    exact .inr
      ⟨_, .writing writing plain located opened refused, failed_of_lowered writing.lowered _⟩
  | toolMissing building missing =>
    exact .inr ⟨_, .finding building missing, failed_of_lowered building.lowered _⟩
  | unmade building found refused =>
    exact .inr ⟨_, .making building found refused, failed_of_lowered building.lowered _⟩
  | unremoved building equipped refused =>
    exact .inr ⟨_, .removing building equipped refused, failed_of_lowered building.lowered _⟩
  | unstarted building ready unstarted =>
    exact .inr ⟨_, .starting building ready unstarted, failed_of_lowered building.lowered _⟩
  | @ran ir path tool building ready starts =>
    by_cases zero : tool.runEnd = .exited 0
    · left
      rw [building.output.1]
      exact ⟨_, if_pos zero, building.lowered⟩
    · right
      refine ⟨_, .running building ready starts zero, ?_⟩
      rw [← failed_of_lowered building.lowered]
      exact if_neg zero

/-- What is reported as a failure went wrong. -/
theorem Ends.fails {report : Report} (ends : Ends workshop job file (.ok report))
    (unsuccessful : report.outcome.success = false) :
    ∃ failure, Fails workshop job file failure := by
  rcases ends.outcome_cases with ⟨ir, outcome, _⟩ | ⟨failure, fails, _⟩
  · rw [outcome] at unsuccessful
    cases unsuccessful
  · exact ⟨failure, fails⟩

/-! ## §3. When there is a report. -/

/-- The output of a compilation is absent, or a path. -/
def Job.outputIsPath (job : Job) : Prop :=
  job.output = .null ∨ ∃ path, job.output = .text path

/-- Nothing but a path with a NUL character breaks a compilation off. -/
theorem exists_report (source : job.source = .ok file) (path : job.outputIsPath)
    (unused : ¬ UsesNul workshop job file) : ∃ report, compile workshop job = .ok report := by
  have ends : Ends workshop job file (compile workshop job) := compile_ends source
  cases ended : compile workshop job with
  | ok report => exact ⟨report, rfl⟩
  | error abort =>
    rw [ended] at ends
    cases ends with
    | noPath _ present other =>
      rcases path with absent | ⟨path, given⟩
      · rw [absent] at present
        cases present
      · exact absurd given (other path)
    | nulInPath uses => exact absurd uses unused

end

/-- **A compilation whose output is a path or absent comes to a report, unless a path with a NUL
character is to be used, and its report gives every failure as one message.**  Names, package, stem
and paths are texts here, sequences of Unicode scalar values, and so is what the tool writes.  A
lone surrogate, which cannot be encoded when the module is written or the path used, and bytes from
the tool that are no text would break a compilation off as well; they are not among the inputs. -/
theorem compile_returns_iff (workshop : Workshop) {job : Job} {file : SourceFile}
    (source : job.source = .ok file) (path : job.outputIsPath) :
    ((∃ report, compile workshop job = .ok report) ↔ ¬ UsesNul workshop job file)
      ∧ (UsesNul workshop job file → compile workshop job = .error .nulInPath)
      ∧ ∀ report, compile workshop job = .ok report →
          (report.outcome.success = false ↔ ∃ failure, Fails workshop job file failure)
          ∧ ∀ failure, Fails workshop job file failure →
              report.outcome.errors = [failure.message] := by
  refine ⟨⟨?_, exists_report source path⟩, fun uses => uses.breaks source, ?_⟩
  · rintro ⟨report, ended⟩ uses
    rw [uses.breaks source] at ended
    cases ended
  · intro report ended
    refine ⟨⟨?_, ?_⟩, fun failure fails => (fails.reported source ended).2⟩
    · have ends : Ends workshop job file (compile workshop job) := compile_ends source
      rw [ended] at ends
      exact ends.fails
    · rintro ⟨failure, fails⟩
      exact (fails.reported source ended).1

/-- A file that is lowered to a module. -/
def emptyProgram : SourceFile where
  pos := .offset 0
  package := .ofText "main"
  globals := .ok []
  funcs := .ok [.ok ⟨.offset 1, "FuncDecl", .ofText "main", .ok (.stmts (.ok []))⟩]

/-- An output with a NUL character in its path. -/
def nulJob (extension : String) : Job where
  source := .ok emptyProgram
  output := .text ("a\x00b" ++ extension)

/-- The tool is chosen by a path. -/
def pathWorkshop : Workshop where
  disk := Disk.ofListing ["/usr/bin"] []
  toolName := "/usr/bin/clang-15"
  programs := [({ origin := .root, names := ["clang-15", "bin", "usr"] }, { name := "clang-15" })]
  scratchPath := "/tmp/ugoc_1"

/-- A file that can be lowered has a module. -/
theorem exists_moduleOf {options : Options} {file : SourceFile}
    (accepted : Lower.succeeds (generate options file {}) = true) :
    ∃ ir, moduleOf options file = .ok ir := by
  obtain ⟨ir, t, ran⟩ := Lower.exists_of_succeeds accepted
  refine ⟨ir, ?_⟩
  unfold moduleOf
  rw [ran]

theorem emptyProgram_lowered : ∃ ir, moduleOf {} emptyProgram = .ok ir :=
  exists_moduleOf (by decide +kernel)

/-- The path would be handed to the tool, which is found where its own path leads. -/
theorem compile_returns_iff_toolByPath :
    (nulJob "").source = .ok emptyProgram ∧ (nulJob "").outputIsPath
      ∧ UsesNul pathWorkshop (nulJob "") emptyProgram
      ∧ (¬ ∃ report, compile pathWorkshop (nulJob "") = .ok report)
      ∧ compile pathWorkshop (nulJob "") = .error .nulInPath := by
  obtain ⟨ir, lowered⟩ := emptyProgram_lowered
  have path : (nulJob "").outputIsPath := .inr ⟨"a\x00b" ++ "", rfl⟩
  have building : Building (nulJob "") emptyProgram ir ("a\x00b" ++ "") :=
    ⟨lowered, ⟨rfl, by decide⟩, by decide +kernel⟩
  obtain ⟨tool, found⟩ : ∃ tool, pathWorkshop.tool? = some tool :=
    Option.isSome_iff_exists.1 (by decide +kernel)
  have uses : UsesNul pathWorkshop (nulJob "") emptyProgram :=
    ⟨ir, _, by decide +kernel, .inr ⟨building, ⟨tool, ⟨found, rfl⟩, rfl⟩, rfl⟩⟩
  obtain ⟨returns_iff, breaks, -⟩ :=
    @compile_returns_iff pathWorkshop (nulJob "") emptyProgram rfl path
  exact ⟨rfl, path, uses, fun returns => returns_iff.1 returns uses, breaks uses⟩

/-- Nothing is on the disk, and no tool is installed. -/
def bareWorkshop : Workshop := { scratchPath := "/tmp/ugoc_1" }

/-- The path is to be opened: there is no report. -/
theorem nulPath_breaks_off :
    emptyProgram.typed = true ∧ (nulJob ".ll").source = .ok emptyProgram
      ∧ (nulJob ".ll").output = .text "a\x00b.ll"
      ∧ compile bareWorkshop (nulJob ".ll") = .error .nulInPath := by
  obtain ⟨ir, lowered⟩ := emptyProgram_lowered
  have writing : Writing (nulJob ".ll") emptyProgram ir "a\x00b.ll" :=
    ⟨lowered, ⟨rfl, by decide⟩, by decide +kernel⟩
  have uses : UsesNul bareWorkshop (nulJob ".ll") emptyProgram :=
    ⟨ir, _, by decide +kernel, .inl writing⟩
  exact ⟨by decide, rfl, rfl, uses.breaks rfl⟩

end SlotIR.Build
