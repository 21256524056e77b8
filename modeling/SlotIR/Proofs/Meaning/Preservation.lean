/-
  SlotIR.Proofs.Meaning.Preservation
  ──────────────────────────────────
  **LOWERING PRESERVES MEANING.**

  The functions with a body and the initialiser of an accepted file have
  the behaviour of their emitted definitions (`generate_refines`): whatever
  other functions do, and whatever the package variables are, both end in
  the same ways, with the same package variables after the same calls, and
  make the same calls if they never end.

  A body first reserves its slots, and then its statements are simulated.
  The names that are visible around a function are followed along the
  lines of the module.
-/
import Mathlib.Data.List.Forall2
import SlotIR.Proofs.Meaning.Simulation
import SlotIR.Proofs.Structure.Naming

namespace SlotIR

/-! ## §1. Behaviour of definitions. -/

/-- A function that returns next. -/
def Returning (w : World) (c : Config) : Prop := c.rest = [.instr .ret] ∧ Shows w c

theorem stable_behaviour (d : Definition) (handler : Handler) (globals : Globals)
    (calls : List Call) (n m : Nat)
    (h : (d.behaviour handler globals calls n).ending.isSome = true) :
    d.behaviour handler globals calls (n + m) = d.behaviour handler globals calls n := by
  unfold Definition.behaviour at h ⊢
  cases ran : after handler d.body n (startConfig d.body globals calls) with
  | running c =>
    rw [ran] at h
    cases h
  | ended ending c => rw [after_of_ended ran m]

/-- A run that is followed up to the return is matched by the machine. -/
theorem Follows.matched {handler : Handler} {body : List Line} {n : Nat} {c : Config}
    {result : EStateM.Result Stop World Unit}
    (h : Follows handler body n c (fun _ => Returning) result) :
    (outcomeOf result).ending ≠ some .stuck
      ∧ ∃ m, (after handler body m c).outcome = outcomeOf result
        ∧ ((outcomeOf result).ending = none → n ≤ m) := by
  have outcome_eq (ending : Option Ending) {w : World} {c : Config} (shows : Shows w c) :
      (⟨ending, c.globals, c.calls⟩ : Outcome) = ⟨ending, w.globals, w.calls⟩ := by
    rw [shows.globals, shows.calls]
  cases result with
  | ok u w =>
    obtain ⟨m, next, ran, rest, shows⟩ := h
    have stepped : SlotIR.step handler body next = .ended .returned { next with rest := [] } :=
      step_instr rest
    refine ⟨by simp [outcomeOf], m + 1, ?_, fun h => by simp [outcomeOf] at h⟩
    rw [after_add ran 1, after_succ_of_ended stepped]
    exact outcome_eq _ ⟨shows.globals, shows.calls⟩
  | error stop w =>
    cases stop with
    | ended ending =>
      obtain ⟨sound, m, last, ran, shows⟩ := h
      refine ⟨fun stuck => sound (Option.some.inj stuck), m, ?_, fun h => by simp [outcomeOf] at h⟩
      rw [ran]
      exact outcome_eq _ shows
    | outOfRounds =>
      obtain ⟨m, next, enough, ran, shows⟩ := h
      refine ⟨by simp [outcomeOf], m, ?_, fun _ => enough⟩
      rw [ran]
      exact outcome_eq _ shows

/-- **A definition that follows all runs of a routine has its behaviour.** -/
theorem sameBehaviour_of_follows {r : Routine} {d : Definition} {handler : Handler}
    {globals : Globals} {calls : List Call}
    (follows : ∀ rounds, Follows handler d.body rounds (startConfig d.body globals calls)
      (fun _ => Returning) (r.run handler rounds ⟨[], globals, calls⟩)) :
    SameBehaviour (r.behaviour handler globals calls) (d.behaviour handler globals calls) := by
  refine sameBehaviour_of_matched (stable_behaviour d handler globals calls) (fun n m => ?_)
    (fun n => (follows n).matched.1) (fun n => (follows n).matched.2)
  show (after _ _ n _).outcome.calls <+: (after _ _ (n + m) _).outcome.calls
  rw [Status.calls_outcome, Status.calls_outcome]
  exact calls_after_le (Nat.le_add_right n m) _

/-! ## §2. Bodies. -/

/-- The slots of a function are reserved before its statements. -/
theorem after_allocas (handler : Handler) (body : List Line) {k : List Line} (slots : List Slot)
    {c : Config} (rest : c.rest = straight (slots.map .alloca) ++ k) :
    ∃ c', after handler body slots.length c = .running c' ∧ c'.rest = k
      ∧ (∀ text, c.slots text ≠ none ∨ text ∈ slots.map Slot.text → c'.slots text ≠ none)
      ∧ c'.globals = c.globals ∧ c'.calls = c.calls := by
  induction slots generalizing c with
  | nil => exact ⟨c, rfl, rest, fun text h => h.resolve_right (by simp), rfl, rfl⟩
  | cons slot slots ih =>
    have stepped : step handler body c = .running
        (({ c with rest := straight (slots.map .alloca) ++ k } : Config).setSlot slot.text none) :=
      step_instr rest
    generalize reserved : ({ c with rest := straight (slots.map .alloca) ++ k } : Config).setSlot
      slot.text none = next at stepped
    have nextRest : next.rest = straight (slots.map .alloca) ++ k := by rw [← reserved]; rfl
    obtain ⟨c', ran, rest', stands, globals, calls⟩ := ih nextRest
    refine ⟨c', (after_succ_of_running stepped).trans ran, rest', fun text h => stands text ?_,
      by rw [globals, ← reserved]; rfl, by rw [calls, ← reserved]; rfl⟩
    have nextSlots : next.slots text = if text = slot.text then some none else c.slots text := by
      rw [← reserved]
      rfl
    rw [nextSlots]
    -- reserving a slot again would not take it away
    by_cases here : text = slot.text
    · rw [if_pos here]
      exact .inl (Option.some_ne_none _)
    · rw [if_neg here]
      exact h.imp_right fun listed => (List.mem_cons.1 listed).resolve_left here

/-- At the start of a function no name means a slot. -/
theorem agree_of_unslotted {scope : Chain Key Storage} {reserved : List String} {env : Env}
    {w : World} {c : Config} (unslotted : ∀ slot, .slot slot ∉ Chain.values scope)
    (names : env = Chain.map (bindingOf fun _ => 0) scope)
    (stands : ∀ text ∈ reserved, c.slots text ≠ none) (shows : Shows w c) :
    Agree (fun _ => 0) reserved scope env w c where
  names := names
  held := fun slot bound => absurd bound (unslotted slot)
  apart := fun slot _ bound _ _ => absurd bound (unslotted slot)
  stands := stands
  shows := shows

/-- **The body of a function does what its statements say.** -/
theorem Code.returns {symbols : List String} {σ τ : Layout} {items : List Stmt} {code : List Line}
    (h : Code σ (.sequence items) code τ) (empty : σ.slots = []) (known : KnownScope symbols σ)
    (typed : (Piece.sequence items).typed = true) {env : Env}
    (names : env = Chain.map (bindingOf fun _ => 0) σ.scope) (handler : Handler) (rounds : Nat)
    (globals : Globals) (calls : List Call) :
    Follows handler (functionBody τ.slots code) rounds
      (startConfig (functionBody τ.slots code) globals calls) (fun _ => Returning)
      (execStmts handler rounds items env ⟨[], globals, calls⟩) := by
  have shape : functionBody τ.slots code
      = straight (τ.slots.map .alloca) ++ (code ++ [.instr .ret]) := List.append_assoc _ _ _
  -- a slot that a name means is one of those in use, and there are none yet
  have unslotted : ∀ slot, .slot slot ∉ Chain.values σ.scope := by
    intro slot bound
    have owned : slot ∈ σ.slots := known (.slot slot) bound
    rw [empty] at owned
    cases owned
  have once : ∀ i, (drawn (functionBody τ.slots code)).count i ≤ 1 := by
    intro i
    have := (h.composed τ.slots).drawn_once i
    unfold functionBody
    rw [drawn_append]
    simpa [Line.drawn, Instr.result?] using this
  have stands : (code ++ [.instr .ret]) <:+ functionBody τ.slots code := by
    rw [shape]
    exact List.suffix_append _ _
  have start : (startConfig (functionBody τ.slots code) globals calls).rest
      = straight (τ.slots.map .alloca) ++ (code ++ [.instr .ret]) := shape
  obtain ⟨c, ran, rest, reserved, sameGlobals, sameCalls⟩ := after_allocas handler _ τ.slots start
  have agree : Agree (fun _ => 0) (τ.slots.map Slot.text) σ.scope env ⟨[], globals, calls⟩ c :=
    agree_of_unslotted unslotted names (fun text listed => reserved text (.inr listed))
      ⟨sameGlobals, sameCalls⟩
  have simulated : Simulated handler (functionBody τ.slots code) rounds (τ.slots.map Slot.text) σ
      (.sequence items) code τ :=
    h.simulated once ⟨distinct_of_nil empty, known⟩ typed fun slot member =>
      List.mem_map_of_mem member
  refine (((simulated stands agree rest).imp fun env' w' c' continues => ?_).steps ran).mono (Nat.le_add_left _ _)
  exact ⟨continues.rest, continues.shows⟩

/-- Code of initial values assigns them. -/
theorem InitialsCode.follows {scope : Chain Key Storage} {n m rounds : Nat}
    {globals : List (Reading GlobalEntry)} {code : List Instr} (h : InitialsCode scope n globals code m)
    {handler : Handler} {body k : List Line} {holds : String → Nat} {reserved : List String}
    {env : Env} {w : World} {c : Config} (agree : Agree holds reserved scope env w c)
    (rest : c.rest = straight code ++ k) :
    Follows handler body rounds c (fun _ w' c' => c'.rest = k ∧ Shows w' c')
      (execInitials handler env globals w) := by
  induction h generalizing w c with
  | nil => exact .here ⟨rest, agree.shows⟩
  | @cons n m k' g entries initial operand place c₁ c₂ valued first means others ih =>
    rw [straight_append, List.append_assoc] at rest
    rw [execInitials]
    simp only [readable, valued, Run.require, pure_bind, agree.meaning means]
    refine (first.follows agree rest).bind fun v w₁ c₁ prepared => ?_
    obtain ⟨rest₁, found, agree₁⟩ := prepared
    obtain ⟨w₂, c₂, assigned, written, agree₂, rest₂, -⟩ :=
      (agree₁.goOn (straight _ ++ k)).assign means.mem_values v
    rw [bind_of_ok assigned]
    exact .step (step_store rest₁ found written) (ih agree₂ rest₂)

/-! ## §3. Names of a package. -/

section

variable {options : Options} {package : String} {σ τ : Layout} {holds : String → Nat}
  {names : Frame Key Binding} {outer : Env}

theorem Binds.map_scope {name : Name} (h : Binds σ name (options.symbol package name.text) τ)
    (before : Chain.map (bindingOf holds) σ.scope = names :: outer) :
    Chain.map (bindingOf holds) τ.scope = bindSymbol options package name names :: outer := by
  cases h with
  | @intro key frame outer' keyed =>
    show Chain.map (bindingOf holds) (Chain.declare σ.scope key (.symbol _)) = _
    rw [Chain.map_declare, before]
    unfold bindSymbol
    rw [keyed]
    rfl

theorem GlobalsCode.map_scope {globals : List (Reading GlobalEntry)} {code : List Line}
    (h : GlobalsCode options package σ globals code τ)
    (before : Chain.map (bindingOf holds) σ.scope = names :: outer) :
    Chain.map (bindingOf holds) τ.scope = globalNames options package names globals :: outer := by
  induction h generalizing names with
  | nil => exact before
  | cons binds _ ih => exact ih (binds.map_scope before)

theorem FunctionsCode.map_scope {funcs : List (Reading FuncEntry)} {code : List Line}
    (h : FunctionsCode options package σ funcs code τ)
    (before : Chain.map (bindingOf holds) σ.scope = names :: outer) :
    Chain.map (bindingOf holds) τ.scope = functionNames options package names funcs :: outer := by
  induction h generalizing names with
  | nil => exact before
  | external binds _ _ ih => exact ih (binds.map_scope before)
  | @defined _ ρ ω _ _ _ _ _ _ binds _ inner _ ih =>
    have after : ω.leave.scope = ρ.scope := inner.tail_scope
    refine ih ?_
    rw [after]
    exact binds.map_scope before

theorem map_builtins (holds : String → Nat) :
    Chain.map (bindingOf holds) [Frame.empty, builtinFrame] = [Frame.empty, builtinNames] := rfl

end

/-! ## §4. Functions and initialisers. -/

/-- **A definition does what a routine says**, whatever other functions do, and whatever the package
variables are at its start. -/
structure Refines (r : Routine) (d : Definition) : Prop where
  symbol : d.symbol = r.symbol
  behaviour : ∀ handler globals calls,
    SameBehaviour (r.behaviour handler globals calls) (d.behaviour handler globals calls)

theorem FunctionsCode.refines {symbols : List String} {options : Options} {package : String}
    {σ τ : Layout} {names : Frame Key Binding} {funcs : List (Reading FuncEntry)}
    {code : List Line} (h : FunctionsCode options package σ funcs code τ)
    (typed : typedFuncs funcs = true) (known : KnownSymbols symbols σ.scope)
    (subset : ∀ symbol ∈ introduced code, symbol ∈ symbols)
    (before : Chain.map (bindingOf fun _ => 0) σ.scope = [names, builtinNames]) :
    List.Forall₂ Refines (functionRoutines options package names funcs) (definitions code) := by
  induction h generalizing names with
  | nil => exact .nil
  | external binds body _ ih =>
    simp only [functionRoutines, body]
    refine ih (typedFuncs_cons typed).2 (binds.knownSymbols known (subset _ ?_))
      (fun symbol member => subset symbol ?_) (binds.map_scope before)
    · exact List.mem_append_left _ (List.mem_singleton.2 rfl)
    · exact List.mem_append_right _ member
  | @defined _ ρ ω _ fn _ items code c binds body inner _ ih =>
    simp only [functionRoutines, body]
    obtain ⟨own, later⟩ := introduced_definitionLines
      (options.symbol package fn.name.text) ω.slots code c
    have bound := binds.knownSymbols known (subset _ own)
    have visible := binds.map_scope before
    have after : ω.leave.scope = ρ.scope := inner.tail_scope
    rw [definitions_definitionLines inner.bodyLines]
    refine .cons ⟨rfl, fun handler globals calls => ?_⟩ (ih (typedFuncs_cons typed).2
      (by rw [after]; exact bound) (fun symbol member => subset symbol (later symbol member))
      (by rw [after]; exact visible))
    have env : Frame.empty :: [bindSymbol options package fn.name names, builtinNames]
        = Chain.map (bindingOf fun _ => 0) (Frame.empty :: ρ.scope) := by
      rw [Chain.map_cons, visible]
      rfl
    have typedItems := FuncEntry.typed_items (typedFuncs_cons typed).1 body
    refine sameBehaviour_of_follows fun rounds => ?_
    exact (inner.returns rfl bound typedItems env handler rounds globals calls).bind
      fun _ _ _ returning => .here returning

/-- The initialiser does what the initial values say. -/
theorem InitialsCode.refines {symbols : List String} {symbol : String} {scope : Chain Key Storage}
    {env : Env} {n m : Nat} {globals : List (Reading GlobalEntry)} {code : List Instr}
    (h : InitialsCode scope n globals code m) (known : KnownSymbols symbols scope)
    (names : env = Chain.map (bindingOf fun _ => 0) scope) :
    Refines ⟨symbol, env, .initials globals⟩ ⟨symbol, initialiserBody code⟩ where
  symbol := rfl
  behaviour := by
    intro handler values calls
    have unslotted : ∀ slot, .slot slot ∉ Chain.values scope := by
      intro slot bound
      cases known (.slot slot) bound
    refine sameBehaviour_of_follows fun rounds => ?_
    have agree : Agree (fun _ => 0) [] scope env ⟨[], values, calls⟩
        (startConfig (initialiserBody code) values calls) :=
      agree_of_unslotted unslotted names (by simp) ⟨rfl, rfl⟩
    exact h.follows agree rfl

/-! ## §5. Modules. -/

theorem SourceFile.routines_eq (options : Options) {file : SourceFile}
    {globals : List (Reading GlobalEntry)} {funcs : List (Reading FuncEntry)}
    (globals_eq : file.globals = .ok globals) (funcs_eq : file.funcs = .ok funcs) :
    routines options file
      = functionRoutines options file.package.text
          (globalNames options file.package.text .empty globals) funcs
        ++ [⟨options.symbol file.package.text "init",
          [functionNames options file.package.text
            (globalNames options file.package.text .empty globals) funcs, builtinNames],
          .initials globals⟩] := by
  unfold routines
  rw [globals_eq, funcs_eq]

theorem ModuleCode.refines {options : Options} {file : SourceFile} {slots : List Slot}
    {lines : List Line} {n : Nat} (h : ModuleCode options file slots lines n)
    (typed : file.typed = true) :
    List.Forall₂ Refines (routines options file) (definitions lines) := by
  cases h with
  | @intro globals funcs due vars code initials ρ τ n globals_eq funcs_eq globalVars functions
      initialises entry =>
    have typedFns := SourceFile.typed_funcs typed funcs_eq
    have ending : definitions (entryLine options file due) = [] := by cases due <;> rfl
    rw [SourceFile.routines_eq options globals_eq funcs_eq, definitions_module globalVars functions,
      ending]
    -- the symbols that the module introduces before the initialiser
    have builtins : KnownSymbols (Line.builtins.introduces ++ introduced vars ++ introduced code)
        [Frame.empty, builtinFrame] :=
      knownSymbols_builtins fun symbol member => by simp [member]
    have afterVars := globalVars.knownSymbols builtins fun symbol member => by simp [member]
    have named := globalVars.map_scope (map_builtins fun _ => 0)
    have subset : ∀ symbol ∈ introduced code,
        symbol ∈ Line.builtins.introduces ++ introduced vars ++ introduced code := by
      intro symbol member
      simp [member]
    have routines := functions.refines typedFns afterVars subset named
    have afterAll := (functions.wellNamed typedFns afterVars subset).2
    exact List.rel_append routines (.cons (initialises.refines afterAll
      (functions.map_scope named).symm) .nil)

/-- **Lowering preserves meaning.**  The definitions of an emitted module, apart from the entry
point, are those of the functions with a body and of the initialiser, in this order, and each of them
does what its source says. -/
theorem generate_refines (options : Options) (file : SourceFile) {s t : State} {text : String}
    (typed : file.typed = true) (h : generate options file s = .ok text t) :
    text = moduleText t.lines
      ∧ List.Forall₂ Refines (routines options file) (definitions t.lines) := by
  obtain ⟨shown, emitted⟩ := generate_sound h
  exact ⟨shown, emitted.refines typed⟩

/-- A file with a loop whose body declares a variable of the same name as one around the loop, assigns
to it and to a new one at the same time, and calls a builtin function. -/
def shadowing : SourceFile where
  pos := .offset 0
  package := .ofText "main"
  globals := .ok [.ok ⟨.offset 1, "GlobalDecl", .ofText "g", .ok (some (.number (.offset 2) (.ok 3)))⟩]
  funcs := .ok [.ok ⟨.offset 3, "FuncDecl", .ofText "main", .ok (.stmts (.ok
    [.assign (.offset 4) (.known .define) (.ok [.ok (name 4 "x")]) (.ok [.ident (name 5 "g")]),
     .loop (.offset 6)
      (.block (.offset 7) (.ok
        [.varDecl (.offset 8) (.ofText "x")
          (some (.binary (.offset 9) (.known (.arith .mul)) (.ident (name 9 "i"))
            (.number (.offset 10) (.ok 2)))),
         .assign (.offset 11) (.known .define) (.ok [.ok (name 11 "x"), .ok (name 12 "y")])
          (.ok [.binary (.offset 13) (.known (.arith .add)) (.ident (name 13 "x"))
            (.number (.offset 14) (.ok 1)), .ident (name 15 "x")]),
         .exprStmt (.offset 16) (.call (.offset 16) (.ok (name 16 "println"))
          (.ok [.binary (.offset 17) (.known (.arith .add)) (.ident (name 17 "x"))
            (.ident (name 18 "y"))]))]))
      (some (.assign (.offset 19) (.known .define) (.ok [.ok (name 19 "i")])
        (.ok [.number (.offset 20) (.ok 0)])))
      (some (.binary (.offset 21) (.known (.compare .lt)) (.ident (name 21 "i"))
        (.ident (name 22 "x"))))
      (some (.assign (.offset 23) (.known .assign) (.ok [.ok (name 23 "i")])
        (.ok [.binary (.offset 24) (.known (.arith .add)) (.ident (name 24 "i"))
          (.number (.offset 25) (.ok 1))]))),
     .exprStmt (.offset 26) (.call (.offset 26) (.ok (name 26 "println"))
      (.ok [.ident (name 27 "x")]))]))⟩]
where
  name (pos : Int) (text : String) : Ident := ⟨.offset pos, .ofText text⟩

theorem generate_refines_shadowing :
    shadowing.typed = true ∧ ∃ text t, generate {} shadowing {} = .ok text t
      ∧ text = moduleText t.lines
      ∧ List.Forall₂ Refines (routines {} shadowing) (definitions t.lines) := by
  have typed : shadowing.typed = true := by decide
  have accepted : Lower.succeeds (generate {} shadowing {}) = true := by decide +kernel
  obtain ⟨text, t, ran⟩ := Lower.exists_of_succeeds accepted
  exact ⟨typed, text, t, ran, generate_refines {} shadowing typed ran⟩

/-- What its function `main` prints, if the package variable is 3 and `println` returns 0. -/
example : (routines {} shadowing).head?.map (fun r =>
    ((r.behaviour (fun _ globals => some (0, globals)) (fun _ => 3) [] 4).calls.map Call.arg))
      = some [some 1, some 5, some 9, some 3] := by
  decide +kernel

end SlotIR
