/-
  SlotIR.Proofs.Build.Reports
  ───────────────────────────
  **A REPORT TELLS WHAT HAPPENED.**

  A report has four fields for the caller, and beside them stands what is
  left on the disk and whether the tool was run.  `Accounts` says how they
  belong together:

      success     no errors; there is never more than one, and it names
                  the phase that failed
      outputFile  what was asked for, on success only
      ir          the module, as soon as there is one
      disk, run   untouched without a module or a path;
                  the module in its file under the extension .ll;
                  else one run of the tool, on exactly the module and, if
                  wanted, the runtime, if the tool is there and the system
                  lets it be started

  A tool that is there need not be run: the system refuses to start it with
  an argument that is too long.  Main results:

    • `compile_accounts` — every report that a compilation comes to is such
      an account, whatever the system refuses.
    • `longArgument_notRun` — a tool that is there and is not run.
-/
import SlotIR.Proofs.Build.Endings

namespace SlotIR.Build

/-! ## §1. What writing leaves alone. -/

namespace Disk

theorem lookup_filter_ne {α β : Type} [DecidableEq α] {a other : α} (ne : other ≠ a)
    (entries : List (α × β)) :
    (entries.filter (·.1 ≠ a)).lookup other = entries.lookup other := by
  induction entries with
  | nil => rfl
  | cons entry rest ih =>
    obtain ⟨key, value⟩ := entry
    by_cases dropped : key = a
    · have apart : (other == key) = false := by
        rw [dropped]
        exact beq_false_of_ne ne
      rw [List.filter_cons_of_neg (by simpa using dropped), ih, List.lookup_cons, apart]
    · rw [List.filter_cons_of_pos (by simpa using dropped), List.lookup_cons, List.lookup_cons, ih]

/-- Other files keep what they hold. -/
theorem contentAt?_put_of_ne (disk : Disk) {place other : Place} (ne : other ≠ place)
    (content : String) : (disk.put place content).contentAt? other = disk.contentAt? other := by
  unfold contentAt? put
  rw [List.lookup_cons, beq_false_of_ne ne]
  exact lookup_filter_ne ne disk.files

end Disk

/-! ## §2. Accounts. -/

/-- The words that the message of a failure starts with: they name the phase that failed. -/
def Failure.phase : Failure → String
  | .refused _ => "IR generation failed: "
  | .unwritable _ => "Failed to write output file: "
  | .toolMissing _ | .unbuildable _ | .toolFailed _ _ _ => "Build failed: "

/-- What a report says of a compilation, and what the compilation did. -/
structure Accounts (workshop : Workshop) (job : Job) (file : SourceFile) (report : Report) :
    Prop where
  /-- Success is the absence of errors. -/
  success_iff : report.outcome.success = true ↔ report.outcome.errors = []
  errors_le : report.outcome.errors.length ≤ 1
  /-- An error is the message of what went wrong, and names its phase. -/
  errors_phase : ∀ message ∈ report.outcome.errors, ∃ failure,
    Fails workshop job file failure ∧ message = failure.message
      ∧ ∃ detail, message = failure.phase ++ detail
  /-- There is an output file on success only. -/
  outputFile_eq : report.outcome.outputFile
    = if report.outcome.success = true then job.output else .null
  /-- The module is reported if there is one. -/
  ir_eq : report.outcome.ir = (moduleOf job.options file).toOption
  /-- Without a module or a path, nothing is touched and the tool is not run. -/
  idle : (moduleOf job.options file).toOption = none ∨ job.output.holds = false →
    report.disk = workshop.disk ∧ report.run = none
  /-- Under the extension for modules, the module is written and the tool is not run. -/
  written : ∀ ir path, Writing job file ir path →
    report.run = none ∧ (report.outcome.success = true → report.disk.read? path = some ir)
  /-- Under any other, the tool is run if it is there and can be started. -/
  run_iff : ∀ ir path, Building job file ir path →
    (report.run.isSome = true
      ↔ (∃ tool, Equipped workshop tool) ∧ Starts workshop job.withRuntime ir path)
  /-- It is run on the module, with the runtime if that is wanted. -/
  run_eq : ∀ ir path run, Building job file ir path → report.run = some run →
    run.arguments = toolArguments workshop job.withRuntime path
      ∧ run.modules = toolModules ir job.withRuntime
  /-- The end of the run decides. -/
  built : ∀ ir path, Building job file ir path →
    (report.outcome.success = true
      ↔ ∃ tool, Ready workshop tool ∧ Starts workshop job.withRuntime ir path
          ∧ tool.runEnd = .exited 0)
  /-- However a compilation ends, no temporary folder is left behind that the system removes. -/
  removed : workshop.system.refusal? .removeFolder = none → workshop.disk.scratch = none →
    report.disk.scratch = none
  /-- Where the tool is not run, no file is touched but the one for the module, and that with
  success, unless writing it was refused after it was opened. -/
  untouched : report.run = none → report.disk.folders = workshop.disk.folders
    ∧ ∀ place, report.disk.contentAt? place ≠ workshop.disk.contentAt? place →
        ∃ ir path, Writing job file ir path ∧ workshop.disk.locate path = .ok place
          ∧ (report.outcome.success = true
            ∨ (workshop.system.refusal? (.writeFile path ir)).isSome = true)
  /-- Where it is run, the folders and files are as it left them. -/
  changed : ∀ run, report.run = some run → ∃ tool, workshop.tool? = some tool
    ∧ let after :=
        tool.changes run.arguments { workshop.disk with scratch := some run.modules }
      report.disk.folders = after.folders ∧ report.disk.files = after.files

/-! ## §3. Every ending is accounted for. -/

/-- A message starts with the words of its phase. -/
theorem Failure.message_phase (failure : Failure) :
    ∃ detail, failure.message = failure.phase ++ detail := by
  cases failure with
  | refused fault => exact ⟨fault.message, rfl⟩
  | unwritable fault => exact ⟨fault.text, rfl⟩
  | toolMissing name =>
    refine ⟨name ++ " not found", ?_⟩
    unfold message phase
    exact String.append_assoc
  | unbuildable fault => exact ⟨fault.text, rfl⟩
  | toolFailed command runEnd explanation =>
    have words : "Build failed: Command '" = "Build failed: " ++ "Command '" := by
      decide +kernel
    refine ⟨"Command '" ++ commandText command ++ "' " ++ runEnd.text ++ ".\n" ++ explanation, ?_⟩
    unfold message phase
    rw [words]
    simp only [String.append_assoc]

section

variable {workshop : Workshop} {job : Job} {file : SourceFile} {report : Report}

/-- The fields of an outcome belong together. -/
theorem Ends.outcome_fields (ends : Ends workshop job file (.ok report)) :
    (report.outcome.success = true ↔ report.outcome.errors = [])
      ∧ report.outcome.errors.length ≤ 1
      ∧ (∀ message ∈ report.outcome.errors, ∃ failure,
          Fails workshop job file failure ∧ message = failure.message
            ∧ ∃ detail, message = failure.phase ++ detail)
      ∧ report.outcome.outputFile
          = (if report.outcome.success = true then job.output else .null)
      ∧ report.outcome.ir = (moduleOf job.options file).toOption := by
  rcases ends.outcome_cases with ⟨ir, outcome, lowered⟩ | ⟨failure, fails, outcome⟩
  · rw [outcome, lowered]
    exact ⟨by simp [Outcome.done], Nat.zero_le 1, by simp [Outcome.done], rfl, rfl⟩
  · rw [outcome]
    refine ⟨by simp [Outcome.failed], Nat.le_refl 1, ?_, rfl, rfl⟩
    intro message listed
    rw [List.mem_singleton.1 listed]
    exact ⟨failure, fails, rfl, failure.message_phase⟩

/-! ## §4. Which output is wanted. -/

theorem Job.outputAt.holds {path : String} (output : job.outputAt path) :
    job.output.holds = true := by
  rw [output.1]
  simpa [Datum.holds, Atom.holds] using output.2

theorem Job.outputAt.unique {path other : String} (output : job.outputAt path)
    (output' : job.outputAt other) : path = other := by
  have same : Datum.text path = Datum.text other := output.1.symm.trans output'.1
  cases same
  rfl

/-- A module is written to one path only. -/
theorem Writing.unique {ir ir' path path' : String} (writing : Writing job file ir path)
    (writing' : Writing job file ir' path') : ir = ir' ∧ path = path' := by
  have same : Except.ok ir = Except.ok ir' := writing.lowered.symm.trans writing'.lowered
  cases same
  exact ⟨rfl, writing.output.unique writing'.output⟩

/-- An executable is built from one module only, for one path. -/
theorem Building.unique {ir ir' path path' : String} (building : Building job file ir path)
    (building' : Building job file ir' path') : ir = ir' ∧ path = path' := by
  have same : Except.ok ir = Except.ok ir' := building.lowered.symm.trans building'.lowered
  cases same
  exact ⟨rfl, building.output.unique building'.output⟩

/-- The module is written, or an executable is built, but not both. -/
theorem Writing.not_building {ir ir' path path' : String} (writing : Writing job file ir path)
    (building : Building job file ir' path') : False := by
  have same : path = path' := writing.output.unique building.output
  exact building.built (same ▸ writing.direct)

/-! ## §5. What is left behind. -/

/-- Either the tool was not run, and could not be, or it was run, and the disk is as it left it. -/
theorem Ends.run_cases (ends : Ends workshop job file (.ok report)) :
    report.run = none
        ∧ (∀ ir path, Building job file ir path →
            ¬ ((∃ tool, Equipped workshop tool) ∧ Starts workshop job.withRuntime ir path))
      ∨ ∃ ir path tool, Building job file ir path ∧ Equipped workshop tool
        ∧ Starts workshop job.withRuntime ir path
        ∧ report.run = (workshop.afterRun tool job.withRuntime ir path).run
        ∧ report.disk.folders = (workshop.afterRun tool job.withRuntime ir path).disk.folders
        ∧ report.disk.files = (workshop.afterRun tool job.withRuntime ir path).disk.files := by
  -- where the module is the output, nothing is built
  have not_built {ir path : String} (writing : Writing job file ir path) :
      ∀ ir path, Building job file ir path →
        ¬ ((∃ tool, Equipped workshop tool) ∧ Starts workshop job.withRuntime ir path) :=
    fun ir path building => (writing.not_building building).elim
  cases ends with
  | refused lowered =>
    refine .inl ⟨rfl, ?_⟩
    intro ir path building
    rw [building.lowered] at lowered
    cases lowered
  | noOutput lowered absent =>
    refine .inl ⟨rfl, ?_⟩
    intro ir path building
    rw [building.output.holds] at absent
    cases absent
  | written writing => exact .inl ⟨rfl, not_built writing⟩
  | unreachable writing => exact .inl ⟨rfl, not_built writing⟩
  | unopened writing => exact .inl ⟨rfl, not_built writing⟩
  | unwritten writing => exact .inl ⟨rfl, not_built writing⟩
  | toolMissing _ missing =>
    refine .inl ⟨rfl, ?_⟩
    rintro ir path - ⟨⟨tool, equipped⟩, -⟩
    rw [equipped.found] at missing
    cases missing
  | unmade _ _ refused =>
    refine .inl ⟨rfl, ?_⟩
    rintro ir path - ⟨⟨tool, equipped⟩, -⟩
    rw [equipped.made] at refused
    cases refused
  | @unremoved ir path tool fault building equipped refused =>
    rcases reached_linkModules workshop tool job.withRuntime ir path with
      ⟨starts, reached⟩ | ⟨not_starts, files, reached⟩
    · right
      refine ⟨ir, path, tool, building, equipped, starts, ?_⟩
      rw [reached]
      exact ⟨rfl, rfl, rfl⟩
    · left
      rw [reached]
      refine ⟨rfl, ?_⟩
      rintro ir' path' building' ⟨-, starts⟩
      obtain ⟨rfl, rfl⟩ := building.unique building'
      exact not_starts starts
  | unstarted building ready unstarted =>
    refine .inl ⟨rfl, ?_⟩
    rintro ir' path' building' ⟨-, starts⟩
    obtain ⟨rfl, rfl⟩ := building.unique building'
    exact unstarted.not_starts starts
  | ran building ready starts =>
    exact .inr ⟨_, _, _, building, ready.toEquipped, starts, rfl, rfl, rfl⟩

/-- Without a module or a path nothing is done. -/
theorem Ends.idle (ends : Ends workshop job file (.ok report))
    (nothing : (moduleOf job.options file).toOption = none ∨ job.output.holds = false) :
    report.disk = workshop.disk ∧ report.run = none := by
  -- what touches anything comes after lowering and has a path
  have contradictory : ∀ {ir path}, moduleOf job.options file = .ok ir → job.outputAt path →
      False := by
    intro ir path lowered output
    rw [lowered, output.holds] at nothing
    rcases nothing with missing | absent
    · cases missing
    · cases absent
  cases ends with
  | refused => exact ⟨rfl, rfl⟩
  | noOutput => exact ⟨rfl, rfl⟩
  | written writing => exact (contradictory writing.lowered writing.output).elim
  | unreachable => exact ⟨rfl, rfl⟩
  | unopened => exact ⟨rfl, rfl⟩
  | unwritten writing => exact (contradictory writing.lowered writing.output).elim
  | toolMissing => exact ⟨rfl, rfl⟩
  | unmade => exact ⟨rfl, rfl⟩
  | unremoved building => exact (contradictory building.lowered building.output).elim
  | unstarted building => exact (contradictory building.lowered building.output).elim
  | ran building => exact (contradictory building.lowered building.output).elim

/-- A module that is written can be read, and the tool is not run. -/
theorem Ends.written_run {ir path : String} (ends : Ends workshop job file (.ok report))
    (writing : Writing job file ir path) :
    report.run = none ∧ (report.outcome.success = true → report.disk.read? path = some ir) := by
  refine ⟨?_, ?_⟩
  · rcases ends.run_cases with ⟨idle, -⟩ | ⟨ir', path', tool, building, -⟩
    · exact idle
    · exact (writing.not_building building).elim
  · intro success
    cases ends with
    | written writing' _ located =>
      obtain ⟨rfl, rfl⟩ := writing.unique writing'
      exact Disk.read?_put located ir
    | noOutput _ absent =>
      rw [writing.output.holds] at absent
      cases absent
    | ran building => exact (writing.not_building building).elim
    | _ => cases success

/-- Building succeeds if nothing is in the way and the tool ends with status zero. -/
theorem Ends.built {ir path : String} (ends : Ends workshop job file (.ok report))
    (source : job.source = .ok file) (ended : compile workshop job = .ok report)
    (building : Building job file ir path) :
    report.outcome.success = true
      ↔ ∃ tool, Ready workshop tool ∧ Starts workshop job.withRuntime ir path
          ∧ tool.runEnd = .exited 0 := by
  constructor
  · intro success
    cases ends with
    | noOutput _ absent =>
      rw [building.output.holds] at absent
      cases absent
    | written writing => exact (writing.not_building building).elim
    | @ran ir' path' tool building' ready starts =>
      obtain ⟨rfl, rfl⟩ := building.unique building'
      by_cases zero : tool.runEnd = .exited 0
      · exact ⟨tool, ready, starts, zero⟩
      · simp [zero, Outcome.failed] at success
    | _ => cases success
  · rintro ⟨tool, ready, starts, zero⟩
    have ran := compile_of_starts source building ready starts
    rw [ended, if_pos zero] at ran
    cases ran
    rfl

/-- A temporary folder that can be removed is removed. -/
theorem Ends.removed (ends : Ends workshop job file (.ok report))
    (removable : workshop.system.refusal? .removeFolder = none)
    (before : workshop.disk.scratch = none) : report.disk.scratch = none := by
  cases ends with
  | unremoved _ _ refused =>
    rw [removable] at refused
    cases refused
  | unstarted => rfl
  | ran => rfl
  | _ => exact before

/-- Without the tool, files stay as they are but for the one that the module is written to. -/
theorem Ends.untouched (ends : Ends workshop job file (.ok report)) (idle : report.run = none) :
    report.disk.folders = workshop.disk.folders
      ∧ ∀ place, report.disk.contentAt? place ≠ workshop.disk.contentAt? place →
          ∃ ir path, Writing job file ir path ∧ workshop.disk.locate path = .ok place
            ∧ (report.outcome.success = true
              ∨ (workshop.system.refusal? (.writeFile path ir)).isSome = true) := by
  -- the disk differs at one place, the one that the path leads to
  have put_changes {there place : Place} {content : String}
      (changed : (workshop.disk.put there content).contentAt? place
        ≠ workshop.disk.contentAt? place) : place = there := by
    by_cases same : place = there
    · exact same
    · exact absurd (Disk.contentAt?_put_of_ne workshop.disk same content) changed
  cases ends with
  | written writing _ located =>
    refine ⟨rfl, ?_⟩
    intro place changed
    rw [put_changes changed]
    exact ⟨_, _, writing, located, .inl rfl⟩
  | unwritten writing _ located _ refused =>
    refine ⟨rfl, ?_⟩
    intro place changed
    rw [put_changes changed]
    exact ⟨_, _, writing, located, .inr (by rw [refused]; rfl)⟩
  | @unremoved ir path tool fault _ _ _ =>
    rcases reached_linkModules workshop tool job.withRuntime ir path with
      ⟨-, reached⟩ | ⟨-, files, reached⟩
    · rw [reached] at idle
      cases idle
    · rw [reached]
      exact ⟨rfl, fun _ changed => absurd rfl changed⟩
  | ran => cases idle
  | _ => exact ⟨rfl, fun _ changed => absurd rfl changed⟩

end

/-- **Every report tells what happened.** -/
theorem compile_accounts {workshop : Workshop} {job : Job} {file : SourceFile} {report : Report}
    (source : job.source = .ok file) (ended : compile workshop job = .ok report) :
    Accounts workshop job file report := by
  have ends : Ends workshop job file (.ok report) := ended ▸ compile_ends source
  obtain ⟨success_iff, errors_le, errors_phase, outputFile_eq, ir_eq⟩ := ends.outcome_fields
  refine ⟨success_iff, errors_le, errors_phase, outputFile_eq, ir_eq, ends.idle,
    fun ir path => ends.written_run, ?run_iff, ?run_eq, fun ir path => ends.built source ended,
    ends.removed, ends.untouched, ?changed⟩
  case run_iff =>
    intro ir path building
    rcases ends.run_cases with
      ⟨idle, unable⟩ | ⟨ir', path', tool, building', equipped, starts, run, -⟩
    · rw [idle]
      exact ⟨fun ran => (by cases ran), fun able => (unable ir path building able).elim⟩
    · obtain ⟨rfl, rfl⟩ := building.unique building'
      rw [run]
      exact ⟨fun _ => ⟨⟨tool, equipped⟩, starts⟩, fun _ => rfl⟩
  case run_eq =>
    intro ir path run building ran
    rcases ends.run_cases with ⟨idle, -⟩ | ⟨ir', path', tool, building', -, -, ran', -⟩
    · rw [idle] at ran
      cases ran
    · obtain ⟨rfl, rfl⟩ := building.unique building'
      rw [ran'] at ran
      cases ran
      exact ⟨rfl, rfl⟩
  case changed =>
    intro run ran
    rcases ends.run_cases with ⟨idle, -⟩ | ⟨ir, path, tool, -, equipped, -, ran', folders, files⟩
    · rw [idle] at ran
      cases ran
    · rw [ran'] at ran
      cases ran
      exact ⟨tool, equipped.found, folders, files⟩

/-- The tool is chosen by a path, leaves a file behind and fails with a status of two bytes; the
output is there already. -/
def failingWorkshop : Workshop where
  disk := Disk.ofListing ["bin", "d"] [("d/out", "old")]
  toolName := "./bin/clang-15"
  programs :=
    [({ names := ["clang-15", "bin"] },
      { name := "clang-15"
        stderr := "cannot link\x0d\n"
        exit := 257
        changes := fun _ disk => disk.put { names := ["log"] } "cannot link" })]
  scratchPath := "/tmp/ugoc_2"

/-- An executable in a folder. -/
def executableJob : Job where
  source := .ok emptyProgram
  output := .text "d/out"

theorem compile_accounts_failingTool :
    executableJob.source = .ok emptyProgram
      ∧ ∃ report, compile failingWorkshop executableJob = .ok report
        ∧ report.run.isSome = true
        ∧ report.disk.scratch = none
        ∧ Accounts failingWorkshop executableJob emptyProgram report := by
  obtain ⟨ir, lowered⟩ := emptyProgram_lowered
  have building : Building executableJob emptyProgram ir "d/out" :=
    ⟨lowered, ⟨rfl, by decide⟩, by decide +kernel⟩
  obtain ⟨tool, found⟩ : ∃ tool, failingWorkshop.tool? = some tool :=
    Option.isSome_iff_exists.1 (by decide +kernel)
  have ready : Ready failingWorkshop tool := ⟨⟨found, rfl⟩, rfl⟩
  have starts : Starts failingWorkshop true ir "d/out" :=
    (starts_standard_iff rfl).2 ⟨by decide +kernel, by decide +kernel⟩
  have accounts := compile_accounts rfl (compile_of_starts rfl building ready starts)
  exact ⟨rfl, _, compile_of_starts rfl building ready starts, rfl, rfl, accounts⟩

/-! ## §6. A tool that is not run. -/

theorem utf8ByteSize_replicate (n : Nat) (c : Char) :
    (String.ofList (List.replicate n c)).utf8ByteSize = n * c.utf8Size := by
  induction n with
  | zero =>
    rw [Nat.zero_mul]
    rfl
  | succ n ih =>
    rw [List.replicate_succ, String.ofList_cons, String.utf8ByteSize_append, ih,
      String.utf8ByteSize_singleton, Nat.succ_mul, Nat.add_comm]

/-- The tool is on the search path. -/
def installedWorkshop : Workshop where
  installed := some { name := "clang" }
  scratchPath := "/tmp/ugoc_3"

/-- A path that is too long for an argument. -/
def longPath : String := String.ofList (List.replicate 131072 'a')

/-- An executable at the path that is too long. -/
def longJob : Job where
  source := .ok emptyProgram
  output := .text longPath

/-- The tool is there, but it is not run: the system refuses to start it. -/
theorem longArgument_notRun :
    emptyProgram.typed = true ∧ longJob.source = .ok emptyProgram
      ∧ longJob.output = .text longPath ∧ Path.extension longPath ≠ ".ll"
      ∧ (∃ ir, moduleOf longJob.options emptyProgram = .ok ir)
      ∧ (∃ tool, installedWorkshop.tool? = some tool)
      ∧ ∃ report, compile installedWorkshop longJob = .ok report
        ∧ report.run = none
        ∧ report.outcome.errors
          = ["Build failed: [Errno 7] Argument list too long: 'clang'"] := by
  obtain ⟨ir, lowered⟩ := emptyProgram_lowered
  have letters : longPath.toList = List.replicate 131072 'a' := String.toList_ofList
  have long : System.maxArgumentBytes < longPath.utf8ByteSize := by
    unfold longPath
    rw [utf8ByteSize_replicate]
    decide
  have absent {c : Char} (other : c ≠ 'a') : c ∉ longPath.toList := by
    rw [letters]
    exact fun found => other (List.eq_of_mem_replicate found)
  have extension : Path.extension longPath = "" :=
    Path.extension_of_plain (absent (by decide)) (absent (by decide))
  have plain : Path.holdsNul longPath = false := by
    unfold Path.holdsNul
    rw [List.contains_eq_mem]
    exact decide_eq_false (absent (by decide))
  have built : Path.extension longPath ≠ ".ll" := by
    rw [extension]
    decide
  have building : Building longJob emptyProgram ir longPath :=
    ⟨lowered, ⟨rfl, by intro empty; rw [empty] at long; revert long; decide⟩, built⟩
  obtain ⟨tool, found⟩ : ∃ tool, installedWorkshop.tool? = some tool :=
    Option.isSome_iff_exists.1 (by decide +kernel)
  have ready : Ready installedWorkshop tool := ⟨⟨found, rfl⟩, rfl⟩
  have unstarted : Unstarted installedWorkshop true ir longPath _ :=
    .starting rfl plain (System.standard_refuses (by simp [toolArguments]) long)
  refine ⟨by decide, rfl, rfl, built, ⟨ir, lowered⟩, ⟨tool, found⟩, _,
    compile_of_unstarted rfl building ready unstarted, rfl, ?_⟩
  have message : (Failure.unbuildable ⟨7, "Argument list too long", "clang"⟩).message
      = "Build failed: [Errno 7] Argument list too long: 'clang'" := by decide +kernel
  exact congrArg ([·]) message

end SlotIR.Build
