/-
  SlotIR.Proofs.Access.Calls
  ──────────────────────────
  **WHAT IS CALLED, AND AT WHICH TYPE.**

  A call of the source is emitted at the type i32 (i32), to the place that
  the called name is bound to, whatever that is:

      a builtin function         declared with one i32, its own type
      a function of the package  defined or declared without parameters
      a package variable         its symbol
      a local variable           its slot

  The entry point calls the initialiser and `main` at the type i32 (),
  which is theirs.  Main result:

    • `generate_calls` — the correspondence for a whole module, and so all
      calls are made to functions at their own type if and only if the
      source calls only builtin functions.
-/
import SlotIR.Proofs.Access.Addresses

namespace SlotIR.Access

/-! ## §1. Called names. -/

/-- What the names that an expression calls are bound to, in the order of the calls. -/
def callsExpr (names : Names) : Expr → List Referent
  | .binary _ _ left right => callsExpr names left ++ callsExpr names right
  | .unary _ _ operand => callsExpr names operand
  | .paren _ inner => callsExpr names inner
  -- the argument is evaluated before the call
  | .call _ (.ok callee) (.ok [arg]) =>
    callsExpr names arg ++ (meaning names callee.name).toList
  | _ => []
termination_by structural e => e

/-- What expressions call, from left to right. -/
def callsExprs (names : Names) (es : List Expr) : List Referent := es.flatMap (callsExpr names)

/-- What an expression that may be absent calls. -/
def callsExpr? (names : Names) : Option Expr → List Referent
  | none => []
  | some e => callsExpr names e

mutual

/-- What a statement calls. -/
def callsStmt : Stmt → Names → List Referent
  | .varDecl _ _ value, names => callsExpr? names value
  | .assign _ _ _ (.ok values), names => callsExprs names values
  | .assign _ _ _ (.error _), _ => []
  | .block _ stmts, names => callsItems stmts (Frame.empty :: names)
  | .loop _ body init cond post, names =>
    let started := (accessStmt? init (Frame.empty :: names)).2
    callsStmt? init (Frame.empty :: names) ++ callsExpr? started cond
      ++ callsStmt body (Frame.empty :: started) ++ callsStmt? post started
  | .exprStmt _ expr, names => callsExpr names expr
  | .foreign _, _ => []
termination_by structural s => s

/-- What a statement that may be absent calls. -/
def callsStmt? : Option Stmt → Names → List Referent
  | none, _ => []
  | some stmt, names => callsStmt stmt names
termination_by structural s => s

/-- What the statements of a block call. -/
def callsItems : Except ReadFault (List Stmt) → Names → List Referent
  | .error _, _ => []
  | .ok items, names => callsStmts items names
termination_by structural items => items

/-- What statements call in order. -/
def callsStmts : List Stmt → Names → List Referent
  | [], _ => []
  | stmt :: rest, names => callsStmt stmt names ++ callsStmts rest (accessStmt stmt names).2
termination_by structural stmts => stmts

end

/-- What the definition of a function calls, if it has one. -/
def callsBody (names : Names) : Reading Body → List (List Referent)
  | .ok (.stmts items) => [callsItems items (Frame.empty :: names)]
  | _ => []

/-- What each function with a body calls. -/
def callsFunctions (options : Options) (package : String) :
    Names → List (Reading FuncEntry) → List (List Referent)
  | names, .ok fn :: rest =>
    let bound := bindName names fn.name (.function (options.symbol package fn.name.text))
    callsBody bound fn.body ++ callsFunctions options package bound rest
  | _, _ => []

/-- What the initial values of package variables call. -/
def callsInitials (names : Names) : List (Reading GlobalEntry) → List Referent
  | .ok g :: rest =>
    (match g.value with
      | .ok initial => callsExpr? names initial
      | .error _ => [])
      ++ callsInitials names rest
  | _ => []

/-- **What a file calls**: one list for each function with a body, and then the one of the
initialiser. -/
def called (options : Options) (file : SourceFile) : List (List Referent) :=
  let globals := readableEntries file.globals
  let funcs := readableEntries file.funcs
  let vars := bindGlobals options file.package.text [Frame.empty, builtinNames] globals
  callsFunctions options file.package.text vars funcs
    ++ [callsInitials (accessFunctions options file.package.text vars funcs).2 globals]

/-- The name is that of a builtin function. -/
def Referent.isBuiltin : Referent → Bool
  | .function symbol => decide (symbol ∈ Builtins.symbols)
  | _ => false

/-! ## §2. Types of functions and of calls. -/

/-- The text of parameter types. -/
def paramsText (params : List ValueType) : String :=
  "(" ++ ", ".intercalate (params.map fun
    | .i1 => "i1"
    | .i32 => "i32") ++ ")"

/-- The functions that a line introduces, with the types of their parameters. -/
def signaturesOf : Line → List (String × List ValueType)
  | .builtins => Builtins.symbols.map fun symbol => (symbol, [.i32])
  | .declare symbol | .define symbol => [(symbol, [])]
  | _ => []

/-- The functions that lines introduce, with the types of their parameters. -/
def signatures (lines : List Line) : List (String × List ValueType) := lines.flatMap signaturesOf

/-- What an instruction calls, and the parameter types it calls it at. -/
def call? : Instr → Option (Storage × List ValueType)
  | .call _ callee _ => some (callee, [.i32])
  | .invoke callee => some (.symbol callee, [])
  | _ => none

/-- The calls among instructions, in order. -/
def calls (code : List Instr) : List (Storage × List ValueType) := code.filterMap call?

/-- The call is made to a function at its own type: lines introduce a function of the symbol, always
with the parameter types of the call, and no variable. -/
def AtOwnType (lines : List Line) (call : Storage × List ValueType) : Prop :=
  ∃ symbol, call.1 = .symbol symbol
    ∧ (∃ params, (symbol, params) ∈ signatures lines)
    ∧ (∀ params, (symbol, params) ∈ signatures lines → params = call.2)
    ∧ .global symbol ∉ lines

/-- Where the call of a name goes, and at which type. -/
inductive CallsTo (lines : List Line) (slots : List Slot) :
    Referent → Storage × List ValueType → Prop
  | localVar {slot : Slot} (reserved : slot ∈ slots) :
      CallsTo lines slots .localVar (.slot slot, [.i32])
  | packageVar {x : String} (declared : .global x ∈ lines) :
      CallsTo lines slots (.packageVar x) (.symbol x, [.i32])
  | builtin {x : String} (listed : x ∈ Builtins.symbols)
      (declared : (x, [.i32]) ∈ signatures lines) :
      CallsTo lines slots (.function x) (.symbol x, [.i32])
  | function {x : String} (introduced : (x, []) ∈ signatures lines) :
      CallsTo lines slots (.function x) (.symbol x, [.i32])

/-- The calls of a definition go where names are bound. -/
def Calls (lines : List Line) (referents : List Referent) (d : Definition) : Prop :=
  List.Forall₂ (CallsTo lines (reserved d.body)) referents (calls (instrs d.body))

/-- Builtin functions have one parameter, and functions of the package none. -/
theorem mem_signaturesOf {line : Line} {symbol : String} {params : List ValueType} :
    (symbol, params) ∈ signaturesOf line
      ↔ (line = .builtins ∧ symbol ∈ Builtins.symbols ∧ params = [.i32])
        ∨ ((line = .declare symbol ∨ line = .define symbol) ∧ params = []) := by
  cases line <;> simp [signaturesOf, eq_comm]

/-- The parameter types of a function are printed after its symbol. -/
theorem text_of_mem_signaturesOf {line : Line} {symbol : String} {params : List ValueType}
    (member : (symbol, params) ∈ signaturesOf line) :
    ∃ before after, line.text = before ++ "i32 " ++ symbol ++ paramsText params ++ after := by
  rcases mem_signaturesOf.1 member with ⟨rfl, listed, rfl⟩ | ⟨rfl | rfl, rfl⟩
  · simp only [Builtins.symbols, Builtins.functions, List.map_cons, List.map_nil, List.mem_cons,
      List.not_mem_nil, or_false] at listed
    rcases listed with rfl | rfl
    · exact ⟨"declare ", "\ndeclare i32 @ugo_builtin_exit(i32)", by decide +kernel⟩
    · exact ⟨"declare i32 @ugo_builtin_println(i32)\ndeclare ", "", by decide +kernel⟩
  · exact ⟨"declare ", "", by simp [Line.text, paramsText, String.append_assoc]⟩
  · exact ⟨"define ", " \x7b", by simp [Line.text, paramsText, String.append_assoc]⟩

/-- The parameter types of a call are printed with it. -/
theorem text_of_call? {i : Instr} {callee : Storage} {params : List ValueType}
    (h : call? i = some (callee, params)) :
    ∃ before after, i.text = before ++ "call i32 " ++ after
      ∧ ((∃ args, after = paramsText params ++ " " ++ callee.text ++ args)
          ∨ after = callee.text ++ paramsText params) := by
  cases i with
  | call dst fn arg =>
    cases h
    refine ⟨"\t" ++ tempText dst ++ " = ", _, ?_, .inl ⟨"(i32 " ++ arg.text ++ ")", rfl⟩⟩
    have cut (rest : String) :
        " = call i32 (i32) " ++ rest = " = call i32 " ++ ("(i32) " ++ rest) := by
      rw [← String.append_assoc]
      rfl
    simpa [Instr.text, paramsText, String.append_assoc] using cut _
  | invoke fn =>
    cases h
    refine ⟨"\t", _, ?_, .inr rfl⟩
    simp [Instr.text, paramsText, Storage.text, String.append_assoc]
  | _ => cases h

/-! ## §3. Calls at the callee's own type. -/

@[simp] theorem calls_nil : calls [] = [] := rfl

@[simp] theorem calls_append (c d : List Instr) : calls (c ++ d) = calls c ++ calls d :=
  List.filterMap_append

/-- Instructions that call nothing add nothing. -/
theorem calls_append_of_nil (c : List Instr) {d : List Instr} (none : calls d = []) :
    calls (c ++ d) = calls c := by
  rw [calls_append, none, List.append_nil]

@[simp] theorem calls_jump (target : Label) : calls [.jump target] = [] := rfl

theorem signatures_subset {part whole : List Line} (subset : ∀ line ∈ part, line ∈ whole) :
    ∀ signature ∈ signatures part, signature ∈ signatures whole := by
  intro signature member
  obtain ⟨line, here, introduces⟩ := List.mem_flatMap.1 member
  exact List.mem_flatMap.2 ⟨line, subset line here, introduces⟩

theorem introduces_of_mem_signaturesOf {line : Line} {symbol : String} {params : List ValueType}
    (member : (symbol, params) ∈ signaturesOf line) : symbol ∈ line.introduces := by
  rcases mem_signaturesOf.1 member with ⟨rfl, listed, -⟩ | ⟨rfl | rfl, -⟩
  · exact listed
  · exact List.mem_singleton.2 rfl
  · exact List.mem_singleton.2 rfl

/-- A line gives all functions that it introduces the same parameters. -/
theorem params_eq_of_mem_signaturesOf {line : Line} {a b : String} {params others : List ValueType}
    (member : (a, params) ∈ signaturesOf line) (member' : (b, others) ∈ signaturesOf line) :
    params = others := by
  rcases mem_signaturesOf.1 member with ⟨rfl, -, rfl⟩ | ⟨own, rfl⟩
  · rcases mem_signaturesOf.1 member' with ⟨-, -, rfl⟩ | ⟨same | same, -⟩
    · rfl
    · cases same
    · cases same
  · rcases mem_signaturesOf.1 member' with ⟨rfl, -, -⟩ | ⟨-, rfl⟩
    · rcases own with same | same <;> cases same
    · rfl

/-- A symbol that is introduced once is introduced by one line. -/
theorem line_eq_of_count_le_one {lines : List Line} {symbol : String}
    (once : (introduced lines).count symbol ≤ 1) {a b : Line} (here : a ∈ lines) (there : b ∈ lines)
    (first : symbol ∈ a.introduces) (second : symbol ∈ b.introduces) : a = b := by
  induction lines with
  | nil => cases here
  | cons line rest ih =>
    have split : (introduced (line :: rest)).count symbol
        = line.introduces.count symbol + (introduced rest).count symbol := by
      rw [introduced, List.flatMap_cons, List.count_append]
      rfl
    have later {l : Line} (member : l ∈ rest) (introduces : symbol ∈ l.introduces) :
        0 < (introduced rest).count symbol :=
      List.count_pos_iff.2 (List.mem_flatMap.2 ⟨l, member, introduces⟩)
    have head {l : Line} (same : l = line) (introduces : symbol ∈ l.introduces) :
        0 < line.introduces.count symbol := by
      subst same
      exact List.count_pos_iff.2 introduces
    rcases List.mem_cons.1 here with rfl | inRest
    · rcases List.mem_cons.1 there with rfl | inRest'
      · rfl
      · have := head rfl first
        have := later inRest' second
        omega
    · rcases List.mem_cons.1 there with rfl | inRest'
      · have := head rfl second
        have := later inRest first
        omega
      · exact ih (by omega) inRest inRest'

/-- A call at the parameter types of a function whose symbol is introduced once. -/
theorem atOwnType_of_count_le_one {lines : List Line} {symbol : String} {params : List ValueType}
    (once : (introduced lines).count symbol ≤ 1) (listed : (symbol, params) ∈ signatures lines) :
    AtOwnType lines (.symbol symbol, params) := by
  obtain ⟨line, here, signature⟩ := List.mem_flatMap.1 listed
  have introduces := introduces_of_mem_signaturesOf signature
  refine ⟨symbol, rfl, ⟨params, listed⟩, fun others listed' => ?_, fun declared => ?_⟩
  · obtain ⟨line', there, signature'⟩ := List.mem_flatMap.1 listed'
    obtain rfl := line_eq_of_count_le_one once here there introduces
      (introduces_of_mem_signaturesOf signature')
    exact params_eq_of_mem_signaturesOf signature' signature
  · obtain rfl := line_eq_of_count_le_one once here declared introduces (List.mem_singleton.2 rfl)
    cases signature

/-- A function is builtin, or of the package and without parameters. -/
theorem Stands.callsTo {lines : List Line} {slots : List Slot} {referent : Referent}
    {place : Storage} (h : Stands lines slots referent place) :
    CallsTo lines slots referent (place, [.i32]) := by
  cases h with
  | localVar reserved => exact .localVar reserved
  | packageVar declared => exact .packageVar declared
  | @function x introduced =>
    obtain ⟨line, here, introduces⟩ := List.mem_flatMap.1 introduced
    have signature {params : List ValueType} (own : (x, params) ∈ signaturesOf line) :
        (x, params) ∈ signatures lines := List.mem_flatMap.2 ⟨line, here, own⟩
    cases line with
    | builtins =>
      exact .builtin introduces (signature (mem_signaturesOf.2 (.inl ⟨rfl, introduces, rfl⟩)))
    | declare x =>
      cases List.mem_singleton.1 introduces
      exact .function (signature (List.mem_singleton.2 rfl))
    | define x =>
      cases List.mem_singleton.1 introduces
      exact .function (signature (List.mem_singleton.2 rfl))
    | _ => cases introduces

/-! ## §4. Expressions. -/

section

variable {lines : List Line} {slots : List Slot} {names : Names} {scope : Chain Key Storage}

/-- Code of an expression calls what the expression calls. -/
theorem ExprCode.calls {n m d : Nat} {e : Expr} {code : List Instr}
    (h : ExprCode scope n e code d m)
    (related : Chain.Related (Stands lines slots) names scope) :
    List.Forall₂ (CallsTo lines slots) (callsExpr names e) (Access.calls code) := by
  induction h with
  | ident => exact .nil
  | number => exact .nil
  | arith _ _ ihLeft ihRight =>
    rw [calls_append_of_nil _ rfl, calls_append]
    exact List.rel_append ihLeft ihRight
  | compare _ _ ihLeft ihRight =>
    rw [calls_append_of_nil _ rfl, calls_append]
    exact List.rel_append ihLeft ihRight
  | minus _ ih =>
    rw [calls_append_of_nil _ rfl]
    exact ih
  | plus _ ih => exact ih
  | paren _ ih => exact ih
  | call means _ ih =>
    obtain ⟨referent, bound, stands⟩ := meaning_of_means related means
    rw [callsExpr, bound, calls_append]
    exact List.rel_append ih (.cons stands.callsTo .nil)

theorem ExprsCode.calls {n m : Nat} {es : List Expr} {code : List Instr} {ds : List Nat}
    (h : ExprsCode scope n es code ds m)
    (related : Chain.Related (Stands lines slots) names scope) :
    List.Forall₂ (CallsTo lines slots) (callsExprs names es) (Access.calls code) := by
  induction h with
  | nil => exact .nil
  | cons first _ ih =>
    rw [calls_append]
    exact List.rel_append (ExprCode.calls first related) ih

theorem InitialCode.calls {n m : Nat} {value : Option Expr} {code : List Instr} {v : Operand}
    (h : InitialCode scope n value code v m)
    (related : Chain.Related (Stands lines slots) names scope) :
    List.Forall₂ (CallsTo lines slots) (callsExpr? names value) (Access.calls code) := by
  cases h with
  | zero => exact .nil
  | value code => exact ExprCode.calls code related

theorem TestCode.calls {labels : LoopLabels} {n m : Nat} {cond : Option Expr} {code : List Instr}
    (h : TestCode scope labels n cond code m)
    (related : Chain.Related (Stands lines slots) names scope) :
    List.Forall₂ (CallsTo lines slots) (callsExpr? names cond) (Access.calls code) := by
  cases h with
  | always => exact .nil
  | value code =>
    rw [calls_append_of_nil _ rfl]
    exact ExprCode.calls code related

/-- Stores call nothing. -/
theorem Stores.calls_eq {pairs : List (Reading Ident × Nat)} {code : List Instr}
    (h : Stores scope pairs code) : Access.calls code = [] := by
  induction h with
  | nil => rfl
  | cons _ _ ih => exact ih

/-! ## §5. Statements. -/

/-- What a piece calls. -/
def callsPiece : Piece → Names → List Referent
  | .stmt s => callsStmt s
  | .optional s => callsStmt? s
  | .sequence items => callsStmts items

/-- **The calls of code go, in order, where the called names of its piece are bound.** -/
theorem Code.calls {σ τ : Layout} {piece : Piece} {code : List Line} (h : Code σ piece code τ)
    (within : ∀ slot ∈ τ.slots, slot ∈ slots)
    (related : Chain.Related (Stands lines slots) names σ.scope) :
    List.Forall₂ (CallsTo lines slots) (callsPiece piece names) (Access.calls (instrs code)) := by
  induction h generalizing names with
  | varDecl initial new =>
    rw [instrs_straight, calls_append_of_nil _ rfl]
    exact InitialCode.calls initial related
  | assign lengths evaluates prepares stores =>
    rw [instrs_straight, calls_append_of_nil _ (Stores.calls_eq stores)]
    exact ExprsCode.calls evaluates related
  | block inner ih => exact ih within related.enter
  | @loop _ _ ω _ _ _ init _ _ _ _ _ _ _ initial test inner final ihInit ihBody ihPost =>
    -- slots of the parts are slots at the end
    have kept := final.slots_subset
    have kept' := inner.slots_subset
    have early : ∀ slot ∈ _, slot ∈ slots :=
      fun slot member => within slot (kept slot (kept' slot member))
    have started : Chain.Related (Stands lines slots)
        (accessStmt? init (Frame.empty :: names)).2 _ :=
      (Code.accesses initial early related.enter).2
    have ended : Chain.Related (Stands lines slots) (accessStmt? init (Frame.empty :: names)).2
        ω.leave.scope := by
      rw [inner.scope_leave]
      exact started
    have first := ihInit early related.enter
    have round := ihBody (fun slot member => within slot (kept slot member)) started.enter
    have last := ihPost within ended
    simp only [loopLines, seam, instrs_append, instrs_instr, instrs_blank, instrs_label,
      instrs_nil, instrs_straight, calls_append]
    have all := List.rel_append (List.rel_append (List.rel_append first
      (TestCode.calls test started)) round) last
    simpa [callsPiece, callsStmt] using all
  | expr code =>
    rw [instrs_straight]
    exact ExprCode.calls code related
  | absent => exact .nil
  | present _ ih => exact ih within related
  | nil => exact .nil
  | cons first others ihFirst ihOthers =>
    have early : ∀ slot ∈ _, slot ∈ slots :=
      fun slot member => within slot (others.slots_subset slot member)
    obtain ⟨-, between⟩ := Code.accesses first early related
    rw [instrs_append, calls_append]
    exact List.rel_append (ihFirst early related) (ihOthers within between)

end

/-! ## §6. Functions. -/

section

variable {lines : List Line} {names : Names} {options : Options} {package : String}

/-- Code of a body calls what its statements do. -/
theorem Code.calls_functionBody {σ τ : Layout} {items : List Stmt} {code : List Line}
    (h : Code σ (.sequence items) code τ)
    (related : Chain.Related (Stands lines []) names σ.scope) (symbol : String) :
    Calls lines (callsStmts items names) ⟨symbol, functionBody τ.slots code⟩ := by
  have allocas : Access.calls (τ.slots.map Instr.alloca) = [] :=
    List.filterMap_eq_nil_iff.2 fun i member => by
      obtain ⟨slot, -, rfl⟩ := List.mem_map.1 member
      rfl
  have within : Chain.Related (Stands lines τ.slots) names σ.scope :=
    related.mono fun _ _ stands => stands.mono fun _ none => by cases none
  have all := Code.calls h (fun _ member => member) within
  show List.Forall₂ (CallsTo lines (reserved (functionBody τ.slots code))) _
    (Access.calls (instrs (functionBody τ.slots code)))
  rw [h.inner.reserved_functionBody, instrs_functionBody, calls_append_of_nil _ rfl,
    calls_append, allocas]
  exact all

/-- **Functions call what their bodies do.** -/
theorem FunctionsCode.calls {σ τ : Layout} {funcs : List (Reading FuncEntry)}
    {code : List Line} (h : FunctionsCode options package σ funcs code τ)
    (subset : ∀ symbol ∈ functionSymbols code, symbol ∈ functionSymbols lines)
    (related : Chain.Related (Stands lines []) names σ.scope) :
    List.Forall₂ (Calls lines) (callsFunctions options package names funcs) (definitions code) := by
  induction h generalizing names with
  | nil =>
    rw [callsFunctions]
    · exact .nil
    · intro _ _ same
      cases same
  | external binds body _ ih =>
    have bound := Binds.stands binds (.function (subset _ List.mem_cons_self)) related
    simp only [callsFunctions, callsBody, body]
    exact ih (fun symbol member => subset symbol (List.mem_cons_of_mem _ member)) bound
  | @defined _ ρ ω _ fn _ _ code _ binds body inner _ ih =>
    have bound := Binds.stands binds (.function (subset _ List.mem_cons_self)) related
    have after : ω.leave.scope = ρ.scope := inner.tail_scope
    have own := Code.calls_functionBody inner bound.enter
      (options.symbol package fn.name.text)
    have later := ih
      (fun symbol member => subset symbol (functionSymbols_subset
        (fun _ => List.mem_append_right _) symbol member))
      (by rw [after]; exact bound)
    rw [definitions_definitionLines inner.bodyLines]
    simp only [callsFunctions, callsBody, body]
    exact .cons own later

/-- A function of the package has no parameters. -/
theorem FunctionsCode.signature {σ τ : Layout} {funcs : List (Reading FuncEntry)}
    {code : List Line} (h : FunctionsCode options package σ funcs code τ) {fn : FuncEntry}
    (member : .ok fn ∈ funcs) : (options.symbol package fn.name.text, []) ∈ signatures code := by
  induction h with
  | nil => cases member
  | external _ _ _ ih =>
    rcases List.mem_cons.1 member with same | later
    · cases same
      exact List.mem_append_left _ (List.mem_singleton.2 rfl)
    · exact List.mem_append_right _ (ih later)
  | defined _ _ _ _ ih =>
    rcases List.mem_cons.1 member with same | later
    · cases same
      exact List.mem_append_left _ (List.mem_singleton.2 rfl)
    · exact signatures_subset (fun _ => List.mem_append_right _) _ (ih later)

/-- The initialiser calls what initial values call. -/
theorem InitialsCode.calls {scope : Chain Key Storage} {n m : Nat}
    {globals : List (Reading GlobalEntry)} {code : List Instr}
    (h : InitialsCode scope n globals code m)
    (related : Chain.Related (Stands lines []) names scope) (symbol : String) :
    Calls lines (callsInitials names globals) ⟨symbol, initialiserBody code⟩ := by
  have all : List.Forall₂ (CallsTo lines []) (callsInitials names globals) (Access.calls code) := by
    induction h with
    | nil =>
      rw [callsInitials]
      · exact .nil
      · intro _ _ same
        cases same
    | cons valued code means _ ih =>
      simp only [callsInitials, valued, calls_append]
      exact List.rel_append (InitialCode.calls code related) ih
  show List.Forall₂ _ _ (Access.calls (instrs (straight code ++ straight [.ret])))
  rw [instrs_append, instrs_straight, instrs_straight, calls_append_of_nil _ rfl]
  refine all.imp fun _ _ callsTo => ?_
  cases callsTo with
  | localVar reserved => cases reserved
  | packageVar declared => exact .packageVar declared
  | builtin listed declared => exact .builtin listed declared
  | function introduced => exact .function introduced

end

/-! ## §7. Modules. -/

/-- A symbol that is no builtin function's is introduced once at most. -/
theorem ModuleCode.count_introduced_le_one {options : Options} {file : SourceFile}
    {slots : List Slot} {lines : List Line} {n : Nat} (h : ModuleCode options file slots lines n)
    (typed : file.typed = true) {symbol : String} (other : symbol ∉ Builtins.symbols) :
    (introduced (expandLines lines)).count symbol ≤ 1 := by
  obtain ⟨due, all⟩ := h.introduced
  have entry : (entrySymbols due).Nodup := by cases due <;> decide
  have last := entrySymbols_disjoint due options file.package.text (file.names ++ [.ofText "init"])
  have package := List.nodup_append'.2
    ⟨h.nodup_symbols typed, entry, (List.disjoint_append_left.1 last).2⟩
  rw [all, List.append_assoc, List.count_append, List.count_eq_zero.2 other, Nat.zero_add]
  exact List.nodup_iff_count_le_one.1 package symbol

/-- The entry point calls functions of the package that have no parameters. -/
theorem ModuleCode.entry_calls {options : Options} {file : SourceFile} {slots : List Slot}
    {lines : List Line} {n : Nat} (h : ModuleCode options file slots lines n)
    (typed : file.typed = true) :
    ∃ entry, definitions (expandLines lines) = definitions lines ++ entry
      ∧ ∀ d ∈ entry, ∀ call ∈ calls (instrs d.body), ∃ name, name ∉ Builtins.names
          ∧ call = (.symbol (options.symbol file.package.text name), [])
          ∧ (options.symbol file.package.text name, []) ∈ signatures (expandLines lines) := by
  cases h with
  | @intro globals funcs due vars routines initials ρ τ n _ readable globalVars functions _ entry =>
    refine ⟨entryDefinitions options file due, ?_⟩
    have last : definitions (entryLine options file due) = [] := by cases due <;> rfl
    rw [expandLines_module globalVars functions, definitions_module globalVars functions,
      definitions_module globalVars functions, definitions_expandLines_entryLine, last]
    refine ⟨by simp, fun d member call called => ?_⟩
    cases due with
    | false => cases member
    | true =>
      rw [List.mem_singleton.1 member] at called
      have both : call ∈ ["init", "main"].map fun name =>
          (Storage.symbol (options.symbol file.package.text name), ([] : List ValueType)) := called
      obtain ⟨name, listed, rfl⟩ := List.mem_map.1 both
      have others : ∀ name ∈ ["init", "main"], name ∉ Builtins.names := by decide
      refine ⟨name, others name listed, rfl, ?_⟩
      simp only [signatures, List.flatMap_append, List.mem_append]
      simp only [List.mem_cons, List.not_mem_nil, or_false] at listed
      rcases listed with rfl | rfl
      · exact .inl (.inr List.mem_cons_self)
      · obtain ⟨fn, declared, main⟩ :=
          exists_of_hasMain (SourceFile.typed_funcs typed readable) entry.hasMain_eq
        have own := FunctionsCode.signature functions declared
        rw [main] at own
        exact .inl (.inl (.inr own))

theorem ModuleCode.calls {options : Options} {file : SourceFile} {slots : List Slot}
    {lines : List Line} {n : Nat} (h : ModuleCode options file slots lines n) :
    (∀ symbol ∈ Builtins.symbols, (symbol, [.i32]) ∈ signatures (expandLines lines))
      ∧ List.Forall₂ (Calls (expandLines lines)) (called options file) (definitions lines) := by
  cases h with
  | @intro globals funcs due vars routines initials ρ τ n readable readable' globalVars functions
      initialises entry =>
    have last : definitions (entryLine options file due) = [] := by cases due <;> rfl
    rw [expandLines_module globalVars functions, definitions_module globalVars functions, last]
    -- all lines, as the symbols may be introduced anywhere among them
    generalize whole : ([.package file.package.text, .builtins, .blank] ++ vars
      ++ globalsEnd globals ++ routines
      ++ initialiserLines (options.symbol file.package.text "init") initials
      ++ expandLines (entryLine options file due) : List Line) = all
    have header : Line.builtins ∈ all := by simp [← whole]
    have varLines : ∀ line ∈ vars, line ∈ all := by
      intro line member
      simp [← whole, member]
    have routineLines : ∀ line ∈ routines, line ∈ all := by
      intro line member
      simp [← whole, member]
    refine ⟨fun symbol builtin =>
      List.mem_flatMap.2 ⟨_, header, List.mem_map.2 ⟨symbol, builtin, rfl⟩⟩, ?_⟩
    have afterVars := GlobalsCode.stands globalVars varLines (related_builtins header)
    have bodies := FunctionsCode.calls functions (functionSymbols_subset routineLines) afterVars
    obtain ⟨-, afterAll⟩ := FunctionsCode.accesses functions
      (functionSymbols_subset routineLines) afterVars
    have initialiser := InitialsCode.calls initialises afterAll
      (options.symbol file.package.text "init")
    simp only [called, readable, readable', readableEntries]
    exact List.rel_append bodies (.cons initialiser .nil)

/-- A call is made at the callee's own type if and only if the called name is that of a builtin
function. -/
theorem CallsTo.atOwnType_iff {lines : List Line} {slots : List Slot} {referent : Referent}
    {call : Storage × List ValueType} (h : CallsTo lines slots referent call)
    (header : ∀ symbol ∈ Builtins.symbols, (symbol, [.i32]) ∈ signatures lines)
    (nodup : (introduced lines).Nodup) :
    AtOwnType lines call ↔ referent.isBuiltin = true := by
  constructor
  · rintro ⟨symbol, place, -, only, noVariable⟩
    cases h with
    | localVar => cases place
    | packageVar declared =>
      cases place
      exact absurd declared noVariable
    | builtin listed => exact decide_eq_true listed
    | function introduced =>
      cases place
      cases only [] introduced
  · intro builtin
    cases h with
    | localVar => cases builtin
    | packageVar => cases builtin
    | builtin listed declared =>
      exact atOwnType_of_count_le_one (List.nodup_iff_count_le_one.1 nodup _) declared
    | function _ =>
      exact atOwnType_of_count_le_one (List.nodup_iff_count_le_one.1 nodup _)
        (header _ (of_decide_eq_true builtin))

/-- **Calls go where the called names are bound**, each at the type of a function of one i32: to a
builtin function, which has that type, to a function of the package, which has no parameters, or to
a variable.  Those of the entry point are made to functions at their own type.  So all calls are if
and only if the source calls only builtin functions. -/
theorem generate_calls (options : Options) (file : SourceFile) {s t : State} {text : String}
    (typed : file.typed = true) (h : generate options file s = .ok text t) :
    text = moduleText (expandLines t.lines)
      ∧ (∀ i ∈ instrs (expandLines t.lines),
          ∃ d ∈ definitions (expandLines t.lines), i ∈ instrs d.body)
      ∧ (∃ entry, definitions (expandLines t.lines) = definitions t.lines ++ entry
          ∧ ∀ d ∈ entry, ∀ call ∈ calls (instrs d.body), AtOwnType (expandLines t.lines) call)
      ∧ List.Forall₂ (Calls (expandLines t.lines)) (called options file) (definitions t.lines)
      ∧ (¬ file.clashes options →
          ((∀ d ∈ definitions (expandLines t.lines), ∀ call ∈ calls (instrs d.body),
              AtOwnType (expandLines t.lines) call)
            ↔ ∀ referents ∈ called options file, ∀ referent ∈ referents,
                referent.isBuiltin = true)) := by
  obtain ⟨shown, emitted⟩ := generate_sound h
  obtain ⟨entry, split, entryCalls⟩ := ModuleCode.entry_calls emitted typed
  obtain ⟨header, all⟩ := ModuleCode.calls emitted
  have last : ∀ d ∈ entry, ∀ call ∈ calls (instrs d.body),
      AtOwnType (expandLines t.lines) call := by
    intro d member call called
    obtain ⟨name, other, rfl, listed⟩ := entryCalls d member call called
    refine atOwnType_of_count_le_one (ModuleCode.count_introduced_le_one emitted typed ?_) listed
    exact fun builtin => other ((options.symbol_mem_builtins_iff _ _).1 builtin).2.2
  rw [moduleText_expandLines]
  refine ⟨shown, emitted.instr_mem, ⟨entry, split, last⟩, all, fun apart => ?_⟩
  have nodup := (emitted.nodup_introduced_iff typed).2 apart
  constructor
  · intro own referents listed referent called
    obtain ⟨d, defined, here⟩ := exists_of_forall₂ all referents listed
    obtain ⟨call, member, callsTo⟩ := exists_of_forall₂ here referent called
    refine (callsTo.atOwnType_iff header nodup).1 (own d ?_ call member)
    rw [split]
    exact List.mem_append_left _ defined
  · intro builtin d defined call member
    rw [split, List.mem_append] at defined
    rcases defined with own | atEnd
    · obtain ⟨referents, listed, here⟩ := exists_of_forall₂ all.flip d own
      obtain ⟨referent, called, callsTo⟩ := exists_of_forall₂ here.flip call member
      exact (CallsTo.atOwnType_iff callsTo header nodup).2
        (builtin referents listed referent called)
    · exact last d atEnd call member

/-- A function prints the value of a variable, and the initial value of another is a call; `println`
is hidden where nothing is called. -/
def callsBuiltins : SourceFile where
  pos := .offset 0
  package := .ofText "main"
  globals := .ok
    [.ok ⟨.offset 1, "GlobalDecl", .ofText "g", .ok (some (.call (.offset 2)
      (.ok ⟨.offset 2, .ofText "println"⟩) (.ok [.number (.offset 3) (.ok 7)])))⟩]
  funcs := .ok
    [.ok ⟨.offset 4, "FuncDecl", .ofText "main", .ok (.stmts (.ok
      [.block (.offset 5) (.ok [.varDecl (.offset 6) (.ofText "println") none]),
       .exprStmt (.offset 7) (.call (.offset 7) (.ok ⟨.offset 7, .ofText "exit"⟩)
        (.ok [.call (.offset 8) (.ok ⟨.offset 8, .ofText "println"⟩)
          (.ok [.ident ⟨.offset 9, .ofText "g"⟩])]))]))⟩]

theorem generate_calls_callsBuiltins :
    callsBuiltins.typed = true ∧ ∃ text t, generate {} callsBuiltins {} = .ok text t
      ∧ text = moduleText (expandLines t.lines)
      ∧ List.Forall₂ (Calls (expandLines t.lines)) (called {} callsBuiltins) (definitions t.lines)
      ∧ (∃ d ∈ definitions t.lines, calls (instrs d.body) ≠ [])
      ∧ ∀ d ∈ definitions (expandLines t.lines), ∀ call ∈ calls (instrs d.body),
          AtOwnType (expandLines t.lines) call := by
  have typed : callsBuiltins.typed = true := by decide
  have some_calls : Lower.reaches (fun t => ∃ d ∈ definitions t.lines, calls (instrs d.body) ≠ [])
      (generate {} callsBuiltins {}) = true := by decide +kernel
  have apart : ¬ callsBuiltins.clashes {} := fun clash => absurd clash.2.1 (by decide)
  have builtin : ∀ referents ∈ called {} callsBuiltins, ∀ referent ∈ referents,
      referent.isBuiltin = true := by decide +kernel
  obtain ⟨text, t, ran, calling⟩ := Lower.exists_of_reaches some_calls
  obtain ⟨shown, -, -, all, own⟩ := generate_calls {} callsBuiltins typed ran
  exact ⟨typed, text, t, ran, shown, all, of_decide_eq_true calling, (own apart).2 builtin⟩

/-- A function calls a local variable, a package variable and itself. -/
def callsOthers : SourceFile where
  pos := .offset 0
  package := .ofText "main"
  globals := .ok [.ok ⟨.offset 1, "GlobalDecl", .ofText "g", .ok none⟩]
  funcs := .ok
    [.ok ⟨.offset 2, "FuncDecl", .ofText "main", .ok (.stmts (.ok
      [.varDecl (.offset 3) (.ofText "x") none,
       .exprStmt (.offset 4) (.call (.offset 4) (.ok ⟨.offset 4, .ofText "x"⟩)
        (.ok [.number (.offset 5) (.ok 1)])),
       .exprStmt (.offset 6) (.call (.offset 6) (.ok ⟨.offset 6, .ofText "g"⟩)
        (.ok [.number (.offset 7) (.ok 2)])),
       .exprStmt (.offset 8) (.call (.offset 8) (.ok ⟨.offset 8, .ofText "main"⟩)
        (.ok [.number (.offset 9) (.ok 3)]))]))⟩]

/-- The first call is to a slot, the second to a global variable, and the third passes an i32 to a
function that is defined without parameters. -/
theorem callsOthers_not_atOwnType :
    callsOthers.typed = true ∧ ∃ text t, generate {} callsOthers {} = .ok text t
      ∧ ∃ d ∈ definitions (expandLines t.lines),
          calls (instrs d.body)
              = [(.slot ⟨"x", .offset 3, none⟩, [.i32]), (.symbol "@ugo_main_g", [.i32]),
                  (.symbol "@ugo_main_main", [.i32])]
            ∧ ∀ call ∈ calls (instrs d.body), ¬ AtOwnType (expandLines t.lines) call := by
  have emitted : Lower.reaches (fun t => ∃ d ∈ definitions (expandLines t.lines),
      calls (instrs d.body)
          = [(.slot ⟨"x", .offset 3, none⟩, [.i32]), (.symbol "@ugo_main_g", [.i32]),
              (.symbol "@ugo_main_main", [.i32])]
        ∧ Line.global "@ugo_main_g" ∈ expandLines t.lines
        ∧ ("@ugo_main_main", []) ∈ signatures (expandLines t.lines))
      (generate {} callsOthers {}) = true := by decide +kernel
  obtain ⟨text, t, ran, found⟩ := Lower.exists_of_reaches emitted
  obtain ⟨d, defined, three, declared, listed⟩ := of_decide_eq_true found
  refine ⟨by decide, text, t, ran, d, defined, three, ?_⟩
  rw [three]
  rintro call member ⟨symbol, place, -, only, noVariable⟩
  simp only [List.mem_cons, List.not_mem_nil, or_false] at member
  rcases member with rfl | rfl | rfl
  · cases place
  · cases place
    exact noVariable declared
  · cases place
    cases only [] listed

end SlotIR.Access
