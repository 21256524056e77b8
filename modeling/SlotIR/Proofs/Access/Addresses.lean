/-
  SlotIR.Proofs.Access.Addresses
  ──────────────────────────────
  **WHERE LOADS AND STORES GO.**

  The loads and stores of a function, in their order, go where the names
  that its source reads and assigns are bound (`Code.accesses`): to a slot
  of the function for a local variable, to the symbol of a package variable,
  and to the symbol of a FUNCTION where the source reads or assigns the name
  of one, as nothing in lowering looks at the kind of a binding.  Main
  result:

    • `generate_accesses` — the correspondence for a whole module, and so
      loads and stores touch only variables if and only if the source
      accesses only variables.
-/
import Mathlib.Data.List.Pairwise
import SlotIR.Proofs.Access.Referents
import SlotIR.Proofs.Emission.Assignment
import SlotIR.Proofs.Scope.Related

namespace SlotIR.Access

/-! ## §1. Addresses. -/

/-- The place that an instruction loads from or stores to. -/
def address? : Instr → Option Storage
  | .load _ source => some source
  | .store _ target => some target
  | _ => none

/-- The places that instructions load from and store to, in order. -/
def addresses (code : List Instr) : List Storage := code.filterMap address?

@[simp] theorem addresses_nil : addresses [] = [] := rfl

@[simp] theorem addresses_append (c d : List Instr) :
    addresses (c ++ d) = addresses c ++ addresses d :=
  List.filterMap_append

/-- Instructions that neither load nor store add nothing. -/
theorem addresses_append_of_nil (c : List Instr) {d : List Instr} (none : addresses d = []) :
    addresses (c ++ d) = addresses c := by
  rw [addresses_append, none, List.append_nil]

@[simp] theorem addresses_jump (target : Label) : addresses [.jump target] = [] := rfl

/-- The symbols of functions that a line introduces. -/
def functionsOf : Line → List String
  | .builtins => Builtins.symbols
  | .declare symbol | .define symbol => [symbol]
  | _ => []

/-- The symbols of functions, builtin ones included, that lines introduce. -/
def functionSymbols (lines : List Line) : List String := lines.flatMap functionsOf

/-- Lines introduce what some of them introduce. -/
theorem functionSymbols_subset {part whole : List Line} (subset : ∀ line ∈ part, line ∈ whole) :
    ∀ symbol ∈ functionSymbols part, symbol ∈ functionSymbols whole := by
  intro symbol member
  obtain ⟨line, here, introduces⟩ := List.mem_flatMap.1 member
  exact List.mem_flatMap.2 ⟨line, subset line here, introduces⟩

/-- Where a variable is kept, and where a function is. -/
inductive Stands (lines : List Line) (slots : List Slot) : Referent → Storage → Prop
  | localVar {slot : Slot} (reserved : slot ∈ slots) : Stands lines slots .localVar (.slot slot)
  | packageVar {x : String} (declared : .global x ∈ lines) :
      Stands lines slots (.packageVar x) (.symbol x)
  | function {x : String} (introduced : x ∈ functionSymbols lines) :
      Stands lines slots (.function x) (.symbol x)

/-- The loads and stores of a definition go where names are bound. -/
def Accesses (lines : List Line) (referents : List Referent) (d : Definition) : Prop :=
  List.Forall₂ (Stands lines (reserved d.body)) referents (addresses (instrs d.body))

/-- The loads and stores of a definition go to its slots and to package variables, and none to the
symbol of a function. -/
def TouchesVariables (lines : List Line) (d : Definition) : Prop :=
  ∀ place ∈ addresses (instrs d.body),
    (∃ slot ∈ reserved d.body, place = .slot slot)
      ∨ ∃ symbol, place = .symbol symbol ∧ .global symbol ∈ lines
          ∧ symbol ∉ functionSymbols lines

theorem Stands.mono {lines : List Line} {slots more : List Slot} {referent : Referent}
    {place : Storage} (h : Stands lines slots referent place)
    (subset : ∀ slot ∈ slots, slot ∈ more) : Stands lines more referent place := by
  cases h with
  | localVar reserved => exact .localVar (subset _ reserved)
  | packageVar declared => exact .packageVar declared
  | function introduced => exact .function introduced

/-! ## §2. Expressions. -/

section

variable {R : Referent → Storage → Prop} {names : Names} {scope : Chain Key Storage}

theorem meaning_of_means {name : Name} {place : Storage} (related : Chain.Related R names scope)
    (means : Means scope name place) :
    ∃ referent, meaning names name = some referent ∧ R referent place := by
  obtain ⟨key, keyed, found⟩ := means
  obtain ⟨referent, bound, stands⟩ := related.find?_some found
  exact ⟨referent, by rw [meaning, keyed]; exact bound, stands⟩

theorem meaning_of_unbound {name : Name} (related : Chain.Related R names scope)
    (unbound : Unbound scope name) : meaning names name = none := by
  obtain ⟨key, keyed, absent⟩ := unbound
  rw [meaning, keyed]
  exact (related.find?_none key).2 absent

/-- Code of an expression loads what the expression reads. -/
theorem ExprCode.reads {n m d : Nat} {e : Expr} {code : List Instr}
    (h : ExprCode scope n e code d m) (related : Chain.Related R names scope) :
    List.Forall₂ R (readsExpr names e) (addresses code) := by
  induction h with
  | ident means =>
    obtain ⟨referent, bound, stands⟩ := meaning_of_means related means
    rw [readsExpr, bound]
    exact .cons stands .nil
  | number => exact .nil
  | arith _ _ ihLeft ihRight =>
    rw [addresses_append_of_nil _ rfl, addresses_append]
    exact List.rel_append ihLeft ihRight
  | compare _ _ ihLeft ihRight =>
    rw [addresses_append_of_nil _ rfl, addresses_append]
    exact List.rel_append ihLeft ihRight
  | minus _ ih =>
    rw [addresses_append_of_nil _ rfl]
    exact ih
  | plus _ ih => exact ih
  | paren _ ih => exact ih
  | call _ _ ih =>
    rw [addresses_append_of_nil _ rfl]
    exact ih

theorem ExprsCode.reads {n m : Nat} {es : List Expr} {code : List Instr} {ds : List Nat}
    (h : ExprsCode scope n es code ds m) (related : Chain.Related R names scope) :
    List.Forall₂ R (readsExprs names es) (addresses code) := by
  induction h with
  | nil => exact .nil
  | cons first _ ih =>
    rw [addresses_append]
    exact List.rel_append (ExprCode.reads first related) ih

theorem InitialCode.reads {n m : Nat} {value : Option Expr} {code : List Instr} {v : Operand}
    (h : InitialCode scope n value code v m) (related : Chain.Related R names scope) :
    List.Forall₂ R (readsExpr? names value) (addresses code) := by
  cases h with
  | zero => exact .nil
  | value code => exact ExprCode.reads code related

theorem TestCode.reads {labels : LoopLabels} {n m : Nat} {cond : Option Expr} {code : List Instr}
    (h : TestCode scope labels n cond code m) (related : Chain.Related R names scope) :
    List.Forall₂ R (readsExpr? names cond) (addresses code) := by
  cases h with
  | always => exact .nil
  | value code =>
    rw [addresses_append_of_nil _ rfl]
    exact ExprCode.reads code related

end

/-! ## §3. Statements. -/

section

variable {lines : List Line} {slots : List Slot} {names : Names}

/-- A local variable is declared on both sides. -/
theorem Local.stands {σ τ : Layout} {name : Name} {pos : Pos} {slot : Slot}
    (h : Local σ name pos slot τ) (within : slot ∈ slots)
    (related : Chain.Related (Stands lines slots) names σ.scope) :
    Chain.Related (Stands lines slots) (bindName names name .localVar) τ.scope := by
  cases h with
  | intro keyed =>
    rw [bindName, keyed]
    exact related.declare _ (.localVar within)

theorem Local.slot_mem {σ τ : Layout} {name : Name} {pos : Pos} {slot : Slot}
    (h : Local σ name pos slot τ) : slot ∈ τ.slots := by
  cases h with
  | intro => exact List.mem_append_right _ (List.mem_singleton.2 rfl)

/-- Stores into targets go where these are bound. -/
theorem Assigns.stands {op : AssignOp} {σ τ : Layout} {targets : List (Reading Ident)}
    {ds : List Nat} {code : List Instr} (h : Assigns op σ targets ds code τ)
    (within : ∀ slot ∈ τ.slots, slot ∈ slots)
    (related : Chain.Related (Stands lines slots) names σ.scope) :
    List.Forall₂ (Stands lines slots) (accessTargets op names targets).1 (addresses code)
      ∧ Chain.Related (Stands lines slots) (accessTargets op names targets).2 τ.scope := by
  induction h generalizing names with
  | nil =>
    rw [accessTargets]
    · exact ⟨.nil, related⟩
    · intro _ _ same
      cases same
  | visible means others ih =>
    obtain ⟨referent, bound, stands⟩ := meaning_of_means related means
    obtain ⟨later, after⟩ := ih within related
    simp only [accessTargets, bound]
    exact ⟨.cons stands later, after⟩
  | fresh unbound new others ih =>
    have inside := within _ (others.slots_subset _ (Local.slot_mem new))
    obtain ⟨later, after⟩ := ih within (Local.stands new inside related)
    simp only [accessTargets, meaning_of_unbound related unbound]
    exact ⟨.cons (.localVar inside) later, after⟩

/-- What a piece accesses, and the names after it. -/
def accessPiece : Piece → Names → List Referent × Names
  | .stmt s => accessStmt s
  | .optional s => accessStmt? s
  | .sequence items => accessStmts items

/-- **The loads and stores of code go, in order, where the names of its piece are bound.** -/
theorem Code.accesses {σ τ : Layout} {piece : Piece} {code : List Line} (h : Code σ piece code τ)
    (within : ∀ slot ∈ τ.slots, slot ∈ slots)
    (related : Chain.Related (Stands lines slots) names σ.scope) :
    List.Forall₂ (Stands lines slots) (accessPiece piece names).1 (addresses (instrs code))
      ∧ Chain.Related (Stands lines slots) (accessPiece piece names).2 τ.scope := by
  induction h generalizing names with
  | varDecl initial new =>
    have inside := within _ (Local.slot_mem new)
    rw [instrs_straight, addresses_append]
    exact ⟨List.rel_append (InitialCode.reads initial related) (.cons (.localVar inside) .nil),
      Local.stands new inside related⟩
  | assign lengths evaluates prepares stores =>
    have assigns := prepares.assigns stores (evaluates.length_eq.trans lengths.symm)
    obtain ⟨stored, after⟩ := Assigns.stands assigns within related
    rw [instrs_straight, addresses_append]
    exact ⟨List.rel_append (ExprsCode.reads evaluates related) stored, after⟩
  | block inner ih =>
    refine ⟨(ih within related.enter).1, ?_⟩
    rw [inner.scope_leave]
    exact related
  | @loop _ _ ω _ _ _ init _ _ _ _ _ _ _ initial test inner final ihInit ihBody ihPost =>
    -- slots of the parts are slots at the end
    have kept := final.slots_subset
    have kept' := inner.slots_subset
    obtain ⟨first, started⟩ :=
      ihInit (fun slot member => within slot (kept slot (kept' slot member))) related.enter
    obtain ⟨round, -⟩ := ihBody (fun slot member => within slot (kept slot member)) started.enter
    have ended : Chain.Related (Stands lines slots) (accessStmt? init (Frame.empty :: names)).2
        ω.leave.scope := by
      rw [inner.scope_leave]
      exact started
    obtain ⟨last, -⟩ := ihPost within ended
    refine ⟨?_, ?_⟩
    · simp only [loopLines, seam, instrs_append, instrs_instr, instrs_blank, instrs_label,
        instrs_nil, instrs_straight, addresses_append]
      have all := List.rel_append (List.rel_append (List.rel_append first
        (TestCode.reads test started)) round) last
      simpa [accessPiece, accessStmt] using all
    · rw [Code.scope_loop initial inner final]
      exact related
  | expr code =>
    rw [instrs_straight]
    exact ⟨ExprCode.reads code related, related⟩
  | absent => exact ⟨.nil, related⟩
  | present _ ih => exact ih within related
  | nil => exact ⟨.nil, related⟩
  | cons _ others ihFirst ihOthers =>
    obtain ⟨first, between⟩ :=
      ihFirst (fun slot member => within slot (others.slots_subset slot member)) related
    obtain ⟨later, after⟩ := ihOthers within between
    rw [instrs_append, addresses_append]
    exact ⟨List.rel_append first later, after⟩

end

/-! ## §4. Functions. -/

section

variable {lines : List Line} {names : Names} {options : Options} {package : String}

/-- A name of a package is bound on both sides. -/
theorem Binds.stands {σ τ : Layout} {name : Name} {symbol : String} {referent : Referent}
    (h : Binds σ name symbol τ) (stands : Stands lines [] referent (.symbol symbol))
    (related : Chain.Related (Stands lines []) names σ.scope) :
    Chain.Related (Stands lines []) (bindName names name referent) τ.scope := by
  cases h with
  | intro keyed =>
    rw [bindName, keyed]
    exact related.declare _ stands

theorem GlobalsCode.stands {σ τ : Layout} {globals : List (Reading GlobalEntry)}
    {code : List Line} (h : GlobalsCode options package σ globals code τ)
    (subset : ∀ line ∈ code, line ∈ lines)
    (related : Chain.Related (Stands lines []) names σ.scope) :
    Chain.Related (Stands lines []) (bindGlobals options package names globals) τ.scope := by
  induction h generalizing names with
  | nil =>
    rw [bindGlobals]
    · exact related
    · intro _ _ same
      cases same
  | cons binds _ ih =>
    have bound := Binds.stands binds (.packageVar (subset _ List.mem_cons_self)) related
    exact ih (fun line member => subset line (List.mem_cons_of_mem _ member)) bound

/-- Code of a body accesses what its statements do. -/
theorem Code.accesses_functionBody {σ τ : Layout} {items : List Stmt} {code : List Line}
    (h : Code σ (.sequence items) code τ)
    (related : Chain.Related (Stands lines []) names σ.scope) (symbol : String) :
    Accesses lines (accessStmts items names).1 ⟨symbol, functionBody τ.slots code⟩ := by
  have allocas : addresses (τ.slots.map Instr.alloca) = [] :=
    List.filterMap_eq_nil_iff.2 fun i member => by
      obtain ⟨slot, -, rfl⟩ := List.mem_map.1 member
      rfl
  have within : Chain.Related (Stands lines τ.slots) names σ.scope :=
    related.mono fun _ _ stands => stands.mono fun _ none => by cases none
  obtain ⟨all, -⟩ := Code.accesses h (fun _ member => member) within
  show List.Forall₂ (Stands lines (reserved (functionBody τ.slots code))) _
    (addresses (instrs (functionBody τ.slots code)))
  rw [h.inner.reserved_functionBody, instrs_functionBody, addresses_append_of_nil _ rfl,
    addresses_append, allocas]
  exact all

/-- **Functions access what their bodies do.** -/
theorem FunctionsCode.accesses {σ τ : Layout} {funcs : List (Reading FuncEntry)}
    {code : List Line} (h : FunctionsCode options package σ funcs code τ)
    (subset : ∀ symbol ∈ functionSymbols code, symbol ∈ functionSymbols lines)
    (related : Chain.Related (Stands lines []) names σ.scope) :
    List.Forall₂ (Accesses lines) (accessFunctions options package names funcs).1
        (definitions code)
      ∧ Chain.Related (Stands lines []) (accessFunctions options package names funcs).2
          τ.scope := by
  induction h generalizing names with
  | nil =>
    rw [accessFunctions]
    · exact ⟨.nil, related⟩
    · intro _ _ same
      cases same
  | external binds body _ ih =>
    have bound := Binds.stands binds (.function (subset _ List.mem_cons_self)) related
    obtain ⟨later, after⟩ := ih (fun symbol member => subset symbol (List.mem_cons_of_mem _ member))
      bound
    simp only [accessFunctions, accessBody, body]
    exact ⟨later, after⟩
  | @defined _ ρ ω _ fn _ _ code _ binds body inner _ ih =>
    have bound := Binds.stands binds (.function (subset _ List.mem_cons_self)) related
    have after : ω.leave.scope = ρ.scope := inner.tail_scope
    have own := Code.accesses_functionBody inner bound.enter
      (options.symbol package fn.name.text)
    obtain ⟨later, afterAll⟩ := ih
      (fun symbol member => subset symbol (functionSymbols_subset
        (fun _ => List.mem_append_right _) symbol member))
      (by rw [after]; exact bound)
    rw [definitions_definitionLines inner.bodyLines]
    simp only [accessFunctions, accessBody, body]
    exact ⟨.cons own later, afterAll⟩

/-- The initialiser accesses what initial values read, and the variables. -/
theorem InitialsCode.accesses {scope : Chain Key Storage} {n m : Nat}
    {globals : List (Reading GlobalEntry)} {code : List Instr}
    (h : InitialsCode scope n globals code m)
    (related : Chain.Related (Stands lines []) names scope) (symbol : String) :
    Accesses lines (accessInitials names globals) ⟨symbol, initialiserBody code⟩ := by
  have all : List.Forall₂ (Stands lines []) (accessInitials names globals) (addresses code) := by
    induction h with
    | nil =>
      rw [accessInitials]
      · exact .nil
      · intro _ _ same
        cases same
    | cons valued code means _ ih =>
      obtain ⟨referent, bound, stands⟩ := meaning_of_means related means
      simp only [accessInitials, valued, bound, addresses_append, List.append_assoc]
      exact List.rel_append (InitialCode.reads code related) (.cons stands ih)
  show List.Forall₂ _ _ (addresses (instrs (straight code ++ straight [.ret])))
  rw [instrs_append, instrs_straight, instrs_straight, addresses_append_of_nil _ rfl]
  exact all.imp fun _ _ stands => stands.mono fun _ none => by cases none

end

/-! ## §5. Modules. -/

/-- The entry point neither loads nor stores. -/
theorem addresses_entryDefinition (init main : String) :
    addresses (instrs (entryDefinition init main).body) = [] := rfl

/-- The builtin functions stand at their symbols. -/
theorem related_builtins {lines : List Line} (header : .builtins ∈ lines) :
    Chain.Related (Stands lines []) [Frame.empty, builtinNames] [Frame.empty, builtinFrame] := by
  refine ⟨[Frame.empty, Frame.ofList (Builtins.functions.map fun builtin =>
    (.text builtin.1, .function builtin.2, .symbol builtin.2))], rfl, rfl, ?_⟩
  have symbols : ∀ symbol ∈ Builtins.symbols, symbol ∈ functionSymbols lines :=
    fun symbol member => List.mem_flatMap.2 ⟨_, header, member⟩
  intro pair member
  have values : pair ∈ Builtins.symbols.map fun x => (Referent.function x, Storage.symbol x) :=
    member
  obtain ⟨x, builtin, rfl⟩ := List.mem_map.1 values
  exact .function (symbols x builtin)

theorem ModuleCode.accesses {options : Options} {file : SourceFile} {slots : List Slot}
    {lines : List Line} {n : Nat} (h : ModuleCode options file slots lines n) :
    ∃ entry, definitions (expandLines lines) = definitions lines ++ entry
      ∧ (∀ d ∈ entry, addresses (instrs d.body) = [])
      ∧ List.Forall₂ (Accesses (expandLines lines)) (Access.accesses options file)
          (definitions lines) := by
  cases h with
  | @intro globals funcs due vars routines initials ρ τ n readable readable' globalVars functions
      initialises entry =>
    refine ⟨entryDefinitions options file due, ?_⟩
    have last : definitions (entryLine options file due) = [] := by cases due <;> rfl
    rw [expandLines_module globalVars functions, definitions_module globalVars functions,
      definitions_module globalVars functions, definitions_expandLines_entryLine, last]
    refine ⟨by simp, fun d member => ?_, ?_⟩
    · cases due with
      | false => cases member
      | true =>
        rw [List.mem_singleton.1 member]
        exact addresses_entryDefinition _ _
    -- all lines, as the symbols may be introduced anywhere among them
    generalize whole : ([.package file.package.text, .builtins, .blank] ++ vars
      ++ globalsEnd globals ++ routines
      ++ initialiserLines (options.symbol file.package.text "init") initials
      ++ expandLines (entryLine options file due) : List Line) = all
    have header : Line.builtins ∈ all := by simp [← whole]
    have varLines : ∀ line ∈ vars, line ∈ all := by
      intro line member
      simp [← whole, member]
    have routineLines : ∀ line ∈ routines, line ∈ all := by
      intro line member
      simp [← whole, member]
    have afterVars := GlobalsCode.stands globalVars varLines (related_builtins header)
    obtain ⟨bodies, afterAll⟩ := FunctionsCode.accesses functions
      (functionSymbols_subset routineLines) afterVars
    have initialiser := InitialsCode.accesses initialises afterAll
      (options.symbol file.package.text "init")
    simp only [Access.accesses, readable, readable', readableEntries]
    exact List.rel_append bodies (.cons initialiser .nil)

/-- The symbol of a package variable is that of a function only if a name of the package has the
symbol of a builtin function. -/
theorem notMem_functionSymbols {lines : List Line} (nodup : (introduced lines).Nodup)
    {symbol : String} (declared : .global symbol ∈ lines) : symbol ∉ functionSymbols lines := by
  intro member
  obtain ⟨line, listed, here⟩ := List.mem_flatMap.1 member
  have introduces : symbol ∈ line.introduces := by
    cases line with
    | builtins => exact here
    | declare => exact here
    | define => exact here
    | _ => cases here
  have differ : Line.global symbol ≠ line := by
    rintro rfl
    cases here
  -- two lines that introduce it make it stand twice
  have : Std.Symm (Function.onFun List.Disjoint Line.introduces) :=
    ⟨fun _ _ disjoint _ here there => disjoint there here⟩
  have apart := (List.nodup_flatMap.1 nodup).2.forall declared listed differ
  exact apart (List.mem_singleton.2 rfl) introduces

/-- A definition touches only variables if and only if its source accesses no name of a function. -/
theorem Accesses.touchesVariables_iff {lines : List Line} {referents : List Referent}
    {d : Definition} (h : Accesses lines referents d) (nodup : (introduced lines).Nodup) :
    TouchesVariables lines d ↔ ∀ referent ∈ referents, referent.isFunction = false := by
  constructor
  · intro touches referent accessed
    obtain ⟨place, member, stands⟩ := exists_of_forall₂ h referent accessed
    cases stands with
    | localVar => rfl
    | packageVar => rfl
    | function introduced =>
      rcases touches _ member with ⟨_, _, same⟩ | ⟨_, same, _, absent⟩
      · cases same
      · cases same
        exact absurd introduced absent
  · intro plain place member
    obtain ⟨referent, accessed, stands⟩ := exists_of_forall₂ h.flip place member
    cases stands with
    | localVar reserved => exact .inl ⟨_, reserved, rfl⟩
    | packageVar declared =>
      exact .inr ⟨_, rfl, declared, notMem_functionSymbols nodup declared⟩
    | function => cases plain _ accessed

/-- **Loads and stores go where the names that the source reads and assigns are bound**: to a slot
of the function, to a package variable, or to the symbol of a function where the name is that of
one.  So they touch only variables if and only if the source accesses no name of a function. -/
theorem generate_accesses (options : Options) (file : SourceFile) {s t : State} {text : String}
    (typed : file.typed = true) (h : generate options file s = .ok text t) :
    text = moduleText (expandLines t.lines)
      ∧ (∀ i ∈ instrs (expandLines t.lines),
          ∃ d ∈ definitions (expandLines t.lines), i ∈ instrs d.body)
      ∧ (∃ entry, definitions (expandLines t.lines) = definitions t.lines ++ entry
          ∧ ∀ d ∈ entry, addresses (instrs d.body) = [])
      ∧ List.Forall₂ (Accesses (expandLines t.lines)) (accesses options file) (definitions t.lines)
      ∧ (¬ file.clashes options →
          ((∀ d ∈ definitions (expandLines t.lines), TouchesVariables (expandLines t.lines) d)
            ↔ ∀ referents ∈ accesses options file, ∀ referent ∈ referents,
                referent.isFunction = false)) := by
  obtain ⟨shown, emitted⟩ := generate_sound h
  obtain ⟨entry, split, none, all⟩ := ModuleCode.accesses emitted
  rw [moduleText_expandLines]
  refine ⟨shown, emitted.instr_mem, ⟨entry, split, none⟩, all, fun apart => ?_⟩
  have nodup := (emitted.nodup_introduced_iff typed).2 apart
  constructor
  · intro touches referents listed
    obtain ⟨d, defined, access⟩ := exists_of_forall₂ all referents listed
    refine (access.touchesVariables_iff nodup).1 (touches d ?_)
    rw [split]
    exact List.mem_append_left _ defined
  · intro plain d defined
    rw [split, List.mem_append] at defined
    rcases defined with own | last
    · obtain ⟨referents, listed, access⟩ := exists_of_forall₂ all.flip d own
      exact (Accesses.touchesVariables_iff access nodup).2 (plain referents listed)
    · intro place member
      rw [none d last] at member
      cases member

/-- A package variable, a local one that hides it, and one that hides a builtin function, which is
assigned in the frame where it is declared. -/
def hiddenNames : SourceFile where
  pos := .offset 0
  package := .ofText "main"
  globals := .ok
    [.ok ⟨.offset 1, "GlobalDecl", .ofText "g", .ok (some (.number (.offset 2) (.ok 7)))⟩]
  funcs := .ok
    [.ok ⟨.offset 3, "FuncDecl", .ofText "main", .ok (.stmts (.ok
      [.assign (.offset 4) (.known .assign) (.ok [.ok ⟨.offset 4, .ofText "g"⟩])
        (.ok [.number (.offset 5) (.ok 1)]),
       .block (.offset 6) (.ok
        [.varDecl (.offset 7) (.ofText "g") (some (.ident ⟨.offset 8, .ofText "g"⟩)),
         .varDecl (.offset 9) (.ofText "println") none,
         .assign (.offset 10) (.known .assign) (.ok [.ok ⟨.offset 10, .ofText "println"⟩])
          (.ok [.ident ⟨.offset 11, .ofText "g"⟩])])]))⟩]

theorem generate_accesses_hiddenNames :
    hiddenNames.typed = true ∧ ∃ text t, generate {} hiddenNames {} = .ok text t
      ∧ text = moduleText (expandLines t.lines)
      ∧ (∀ i ∈ instrs (expandLines t.lines),
          ∃ d ∈ definitions (expandLines t.lines), i ∈ instrs d.body)
      ∧ (∃ entry, definitions (expandLines t.lines) = definitions t.lines ++ entry
          ∧ ∀ d ∈ entry, addresses (instrs d.body) = [])
      ∧ List.Forall₂ (Accesses (expandLines t.lines)) (accesses {} hiddenNames)
          (definitions t.lines)
      ∧ ∀ d ∈ definitions (expandLines t.lines), TouchesVariables (expandLines t.lines) d := by
  have typed : hiddenNames.typed = true := by decide
  have accepted : Lower.succeeds (generate {} hiddenNames {}) = true := by decide +kernel
  have apart : ¬ hiddenNames.clashes {} := fun clash => absurd clash.2.1 (by decide)
  have plain : ∀ referents ∈ accesses {} hiddenNames, ∀ referent ∈ referents,
      referent.isFunction = false := by decide +kernel
  obtain ⟨text, t, ran⟩ := Lower.exists_of_succeeds accepted
  obtain ⟨shown, inside, split, all, touches⟩ := generate_accesses {} hiddenNames typed ran
  exact ⟨typed, text, t, ran, shown, inside, split, all, (touches apart).2 plain⟩

/-- A function assigns to the name of a builtin function. -/
def assignsBuiltin : SourceFile where
  pos := .offset 0
  package := .ofText "main"
  globals := .ok []
  funcs := .ok
    [.ok ⟨.offset 1, "FuncDecl", .ofText "main", .ok (.stmts (.ok
      [.assign (.offset 2) (.known .assign) (.ok [.ok ⟨.offset 2, .ofText "println"⟩])
        (.ok [.number (.offset 3) (.ok 1)])]))⟩]

/-- The assignment stores at the symbol of the builtin function. -/
theorem assignsBuiltin_stores_at_function :
    assignsBuiltin.typed = true ∧ ∃ text t, generate {} assignsBuiltin {} = .ok text t
      ∧ ∃ d ∈ definitions (expandLines t.lines),
          .symbol "@ugo_builtin_println" ∈ addresses (instrs d.body)
            ∧ ¬ TouchesVariables (expandLines t.lines) d := by
  have stores : Lower.reaches (fun t => ∃ d ∈ definitions (expandLines t.lines),
      .symbol "@ugo_builtin_println" ∈ addresses (instrs d.body)
        ∧ "@ugo_builtin_println" ∈ functionSymbols (expandLines t.lines))
      (generate {} assignsBuiltin {}) = true := by decide +kernel
  obtain ⟨text, t, ran, stored⟩ := Lower.exists_of_reaches stores
  obtain ⟨d, defined, member, function⟩ := of_decide_eq_true stored
  refine ⟨by decide, text, t, ran, d, defined, member, fun touches => ?_⟩
  rcases touches _ member with ⟨_, _, same⟩ | ⟨symbol, same, _, absent⟩
  · cases same
  · cases same
    exact absent function

end SlotIR.Access
