/-
  SlotIR.Proofs.Build.Linking
  ───────────────────────────
  **MODULES ARE LINKED IN A TEMPORARY FOLDER.**

  Between making the folder and removing it, the modules are written, the
  pipes are made, and the tool is started on the modules.  The system may
  refuse any of this, and a NUL character in the path of the output keeps
  the tool from being started.  So there are three cases:

      Starts      the tool is run, and the end of the run decides
      Unstarted   the first refusal is the failure, and the tool is not run
      otherwise   the compilation is broken off, and the tool is not run

  `reached_linkModules` says what is there before the folder is removed.
-/
import SlotIR.Build.Compilation

namespace SlotIR.Build

/-! ## §1. Commands and requests. -/

/-- The arguments that the tool is run with. -/
def toolArguments (workshop : Workshop) (withRuntime : Bool) (path : String) : List String :=
  ["-Wno-override-module", "-o", path, workshop.scratchPath ++ "/main.ll"]
    ++ if withRuntime then [workshop.scratchPath ++ "/runtime.ll"] else []

/-- The requests for writing modules into the temporary folder. -/
def Workshop.moduleRequests (workshop : Workshop) (modules : List (String × String)) :
    List Request :=
  modules.flatMap fun module =>
    [.openFile (workshop.scratchFile module.1), .writeFile (workshop.scratchFile module.1) module.2]

/-- What is asked for between making the temporary folder and starting the tool. -/
def Workshop.preparations (workshop : Workshop) (withRuntime : Bool) (ir : String) :
    List Request :=
  workshop.moduleRequests (toolModules ir withRuntime) ++ [.openPipes]

section

variable {workshop : Workshop} {tool : Tool} {withRuntime : Bool} {ir path : String}
  {fault : SystemFault}

theorem scratchFile_eq (workshop : Workshop) (name : String) :
    workshop.scratchFile name = workshop.scratchPath ++ ("/" ++ name) :=
  String.append_assoc

/-- The command that is run names the modules in the temporary folder. -/
theorem buildCommand_eq (workshop : Workshop) (withRuntime : Bool) (ir path : String) :
    buildCommand workshop.toolName path
        ((toolModules ir withRuntime).map fun module => workshop.scratchFile module.1)
      = workshop.toolName :: toolArguments workshop withRuntime path := by
  have main : workshop.scratchFile "main.ll" = workshop.scratchPath ++ "/main.ll" :=
    scratchFile_eq workshop "main.ll"
  have runtime : workshop.scratchFile "runtime.ll" = workshop.scratchPath ++ "/runtime.ll" :=
    scratchFile_eq workshop "runtime.ll"
  cases withRuntime with
  | true => simp [buildCommand, toolModules, toolArguments, main, runtime]
  | false => simp [buildCommand, toolModules, toolArguments, main]

/-- The tool can be started: nothing is refused that it takes, and no argument holds a NUL
character. -/
structure Starts (workshop : Workshop) (withRuntime : Bool) (ir path : String) : Prop where
  prepared : workshop.system.firstRefusal? (workshop.preparations withRuntime ir) = none
  plain : Path.holdsNul path = false
  started : workshop.system.refusal?
    (.start (workshop.toolName :: toolArguments workshop withRuntime path)) = none

/-- The system refuses what starting the tool takes. -/
inductive Unstarted (workshop : Workshop) (withRuntime : Bool) (ir path : String) :
    SystemFault → Prop
  | preparing {fault : SystemFault}
      (refused :
        workshop.system.firstRefusal? (workshop.preparations withRuntime ir) = some fault) :
      Unstarted workshop withRuntime ir path fault
  | starting {fault : SystemFault}
      (prepared : workshop.system.firstRefusal? (workshop.preparations withRuntime ir) = none)
      (plain : Path.holdsNul path = false)
      (refused : workshop.system.refusal?
        (.start (workshop.toolName :: toolArguments workshop withRuntime path)) = some fault) :
      Unstarted workshop withRuntime ir path fault

/-- What the system refuses is not started. -/
theorem Unstarted.not_starts (unstarted : Unstarted workshop withRuntime ir path fault) :
    ¬ Starts workshop withRuntime ir path := by
  intro starts
  cases unstarted with
  | preparing refused => exact absurd (refused.symm.trans starts.prepared) (by simp)
  | starting _ _ refused => exact absurd (refused.symm.trans starts.started) (by simp)

/-- The tool can be started, or the system refuses something, or a NUL character is in the way. -/
theorem starts_cases (workshop : Workshop) (withRuntime : Bool) (ir path : String) :
    Starts workshop withRuntime ir path
      ∨ (∃ fault, Unstarted workshop withRuntime ir path fault)
      ∨ workshop.system.firstRefusal? (workshop.preparations withRuntime ir) = none
          ∧ Path.holdsNul path = true := by
  cases prepared : workshop.system.firstRefusal? (workshop.preparations withRuntime ir) with
  | some fault => exact .inr (.inl ⟨fault, .preparing prepared⟩)
  | none =>
    by_cases nul : Path.holdsNul path = true
    · exact .inr (.inr ⟨rfl, nul⟩)
    · have plain : Path.holdsNul path = false := Bool.eq_false_iff.2 nul
      cases started : workshop.system.refusal?
          (.start (workshop.toolName :: toolArguments workshop withRuntime path)) with
      | some fault => exact .inr (.inl ⟨fault, .starting prepared plain started⟩)
      | none => exact .inl ⟨prepared, plain, started⟩

/-! ## §2. In the temporary folder. -/

/-- The traces while there is a temporary folder of the given files, before the tool is run. -/
def Workshop.holding (workshop : Workshop) (files : List (String × String)) : Traces where
  disk := { workshop.disk with scratch := some files }

/-- The traces when the tool has been run. -/
def Workshop.afterRun (workshop : Workshop) (tool : Tool) (withRuntime : Bool)
    (ir path : String) : Traces where
  disk := tool.changes (toolArguments workshop withRuntime path)
    (workshop.holding (toolModules ir withRuntime)).disk
  run := some
    { arguments := toolArguments workshop withRuntime path
      modules := toolModules ir withRuntime }

/-- One module is written if both requests for it are allowed. -/
theorem writeModule_of_allowed {module : String × String}
    (opened : workshop.system.refusal? (.openFile (workshop.scratchFile module.1)) = none)
    (wrote : workshop.system.refusal? (.writeFile (workshop.scratchFile module.1) module.2) = none)
    (files : List (String × String)) :
    writeModule workshop module (workshop.holding files)
      = .ok () (workshop.holding (files ++ [module])) := by
  unfold writeModule
  rw [Work.bind_of_ok (Work.request_of_none opened _),
    Work.bind_of_ok (Work.request_of_none wrote _)]
  rfl

/-- The modules are all in the folder if nothing is refused. -/
theorem writeModules_of_allowed {modules : List (String × String)}
    (allowed : workshop.system.firstRefusal? (workshop.moduleRequests modules) = none)
    (files : List (String × String)) :
    writeModules workshop modules (workshop.holding files)
      = .ok () (workshop.holding (files ++ modules)) := by
  induction modules generalizing files with
  | nil =>
    rw [List.append_nil]
    rfl
  | cons module rest ih =>
    unfold Workshop.moduleRequests at allowed
    rw [List.flatMap_cons, System.firstRefusal?_append, Option.or_eq_none_iff,
      System.firstRefusal?_cons, System.firstRefusal?_cons, Option.or_eq_none_iff,
      Option.or_eq_none_iff] at allowed
    obtain ⟨⟨opened, wrote, -⟩, later⟩ := allowed
    unfold writeModules
    rw [Work.bind_of_ok (writeModule_of_allowed opened wrote files), ih later, List.append_assoc]
    rfl

/-- At the first refusal the modules before it are in the folder. -/
theorem writeModules_of_refused {modules : List (String × String)}
    (refused : workshop.system.firstRefusal? (workshop.moduleRequests modules) = some fault)
    (files : List (String × String)) :
    ∃ written, writeModules workshop modules (workshop.holding files)
      = .error (.failed (.unbuildable fault)) (workshop.holding written) := by
  induction modules generalizing files with
  | nil => cases refused
  | cons module rest ih =>
    unfold Workshop.moduleRequests at refused
    rw [List.flatMap_cons, System.firstRefusal?_append, System.firstRefusal?_cons,
      System.firstRefusal?_cons] at refused
    unfold writeModules
    cases opened : workshop.system.refusal? (.openFile (workshop.scratchFile module.1)) with
    | some first =>
      rw [opened] at refused
      cases refused
      have stopped : writeModule workshop module (workshop.holding files) = .error _ _ :=
        Work.bind_of_error (Work.request_of_some opened _) _
      exact ⟨files, Work.bind_of_error stopped _⟩
    | none =>
      cases wrote :
        workshop.system.refusal? (.writeFile (workshop.scratchFile module.1) module.2) with
      | some first =>
        rw [opened, wrote] at refused
        cases refused
        have stopped : writeModule workshop module (workshop.holding files) = .error _ _ :=
          (Work.bind_of_ok (Work.request_of_none opened _) _).trans
            (Work.bind_of_error (Work.request_of_some wrote _) _)
        exact ⟨files, Work.bind_of_error stopped _⟩
      | none =>
        rw [opened, wrote] at refused
        rw [Work.bind_of_ok (writeModule_of_allowed opened wrote files)]
        exact ih refused _

/-- Where nothing is refused before, it is left to start the tool. -/
theorem linkModules_of_prepared
    (prepared : workshop.system.firstRefusal? (workshop.preparations withRuntime ir) = none)
    (tool : Tool) (path : String) :
    linkModules workshop tool withRuntime ir path (workshop.holding [])
      = startTool workshop tool (workshop.toolName :: toolArguments workshop withRuntime path) path
          (workshop.holding (toolModules ir withRuntime)) := by
  unfold Workshop.preparations at prepared
  rw [System.firstRefusal?_append, Option.or_eq_none_iff, System.firstRefusal?_cons,
    Option.or_eq_none_iff] at prepared
  obtain ⟨wrote, pipes, -⟩ := prepared
  unfold linkModules
  rw [Work.bind_of_ok (writeModules_of_allowed wrote []), List.nil_append,
    Work.bind_of_ok (Work.request_of_none pipes _), buildCommand_eq]

/-- If the system refuses something, the tool is not run. -/
theorem linkModules_of_unstarted (unstarted : Unstarted workshop withRuntime ir path fault)
    (tool : Tool) :
    ∃ files, linkModules workshop tool withRuntime ir path (workshop.holding [])
      = .error (.failed (.unbuildable fault)) (workshop.holding files) := by
  cases unstarted with
  | preparing refused =>
    unfold Workshop.preparations at refused
    rw [System.firstRefusal?_append, Option.or_eq_some_iff] at refused
    unfold linkModules
    rcases refused with early | ⟨wrote, late⟩
    · obtain ⟨files, stopped⟩ := writeModules_of_refused early []
      exact ⟨files, Work.bind_of_error stopped _⟩
    · have pipes : workshop.system.refusal? .openPipes = some fault := by
        rw [System.firstRefusal?_cons] at late
        exact (Option.or_none ▸ late :)
      rw [Work.bind_of_ok (writeModules_of_allowed wrote []), List.nil_append]
      exact ⟨_, Work.bind_of_error (Work.request_of_some pipes _) _⟩
  | starting prepared plain refused =>
    rw [linkModules_of_prepared prepared]
    unfold startTool
    rw [plain]
    exact ⟨_, Work.bind_of_error (Work.request_of_some refused _) _⟩

/-- With a NUL character in the path, the tool is not run either. -/
theorem linkModules_of_nul
    (prepared : workshop.system.firstRefusal? (workshop.preparations withRuntime ir) = none)
    (nul : Path.holdsNul path = true) (tool : Tool) :
    linkModules workshop tool withRuntime ir path (workshop.holding [])
      = .error (.aborted .nulInPath) (workshop.holding (toolModules ir withRuntime)) := by
  rw [linkModules_of_prepared prepared]
  unfold startTool
  rw [nul]
  rfl

/-- A tool that can be started is run, and the end of the run decides. -/
theorem linkModules_of_starts (starts : Starts workshop withRuntime ir path) (tool : Tool) :
    linkModules workshop tool withRuntime ir path (workshop.holding [])
      = if tool.runEnd = .exited 0 then .ok () (workshop.afterRun tool withRuntime ir path)
        else .error
          (.failed (.toolFailed (workshop.toolName :: toolArguments workshop withRuntime path)
            tool.runEnd tool.explanation))
          (workshop.afterRun tool withRuntime ir path) := by
  rw [linkModules_of_prepared starts.prepared]
  unfold startTool
  rw [starts.plain]
  exact Work.bind_of_ok (Work.request_of_none starts.started _) _

/-- The tool has been run if it can be started; else there are some files in the folder. -/
theorem reached_linkModules (workshop : Workshop) (tool : Tool) (withRuntime : Bool)
    (ir path : String) :
    Starts workshop withRuntime ir path
        ∧ Work.reached (linkModules workshop tool withRuntime ir path (workshop.holding []))
          = workshop.afterRun tool withRuntime ir path
      ∨ ¬ Starts workshop withRuntime ir path
        ∧ ∃ files,
          Work.reached (linkModules workshop tool withRuntime ir path (workshop.holding []))
            = workshop.holding files := by
  rcases starts_cases workshop withRuntime ir path with
    starts | ⟨fault, unstarted⟩ | ⟨prepared, nul⟩
  · left
    refine ⟨starts, ?_⟩
    rw [linkModules_of_starts starts]
    by_cases zero : tool.runEnd = .exited 0
    · rw [if_pos zero]
      rfl
    · rw [if_neg zero]
      rfl
  · right
    obtain ⟨files, linked⟩ := linkModules_of_unstarted unstarted tool
    refine ⟨unstarted.not_starts, files, ?_⟩
    rw [linked]
    rfl
  · right
    have not_starts : ¬ Starts workshop withRuntime ir path := by
      intro starts
      exact absurd (nul.symm.trans starts.plain) (by simp)
    refine ⟨not_starts, toolModules ir withRuntime, ?_⟩
    rw [linkModules_of_nul prepared nul]
    rfl

/-! ## §3. On the ordinary system. -/

/-- The ordinary system starts a tool whenever no argument is too long for it. -/
theorem starts_standard_iff (ordinary : workshop.system = .standard) :
    Starts workshop withRuntime ir path
      ↔ Path.holdsNul path = false
        ∧ ∀ argument ∈ workshop.toolName :: toolArguments workshop withRuntime path,
            argument.utf8ByteSize ≤ System.maxArgumentBytes := by
  have prepared : workshop.system.firstRefusal? (workshop.preparations withRuntime ir) = none := by
    rw [ordinary]
    cases withRuntime <;> rfl
  have started :
      workshop.system.refusal?
          (.start (workshop.toolName :: toolArguments workshop withRuntime path)) = none
        ↔ ∀ argument ∈ workshop.toolName :: toolArguments workshop withRuntime path,
            argument.utf8ByteSize ≤ System.maxArgumentBytes := by
    rw [ordinary]
    simp [System.standard]
  constructor
  · intro starts
    exact ⟨starts.plain, started.1 starts.started⟩
  · rintro ⟨plain, short⟩
    exact ⟨prepared, plain, started.2 short⟩

end
end SlotIR.Build
