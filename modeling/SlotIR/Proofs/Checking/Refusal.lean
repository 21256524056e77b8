/-
  SlotIR.Proofs.Checking.Refusal
  ──────────────────────────────
  **TYPED FILES ARE REFUSED FOR TWO REASONS ONLY.**

  A REFUSAL is a fault that says something about the program: a name that
  nothing visible binds, or a construct without a lowering.  The other
  faults say that a tree could not be read, or that no scope was open.
  On a typed file the checker stops at no other fault than a refusal: each
  part that it needs can be read (`checkFile_refuses`).
-/
import SlotIR.Proofs.Checking.Checker
import SlotIR.Proofs.Program.Typed

namespace SlotIR

/-- The fault is an unresolved name or an unsupported construct. -/
def Fault.isRefusal : Fault → Bool
  | .unresolved .. => true
  | .unsupported .. => true
  | .unreadable _ => false
  | .noScope => false

namespace Check

/-! ## §1. Steps that only refuse. -/

/-- If the step stops, then at a refusal. -/
def Refuses {α : Type} (c : Verdict α) : Prop :=
  ∀ fault, c = .error fault → fault.isRefusal = true

section

variable {α β : Type} {decl : Option Decl} {v : Visible}

theorem Refuses.ok (a : α) : Refuses (.ok a : Verdict α) := by
  intro fault h
  cases h

theorem Refuses.unsupported (typeName detail : String) :
    Refuses (Check.unsupported decl typeName detail : Verdict α) := by
  intro fault h
  cases h
  rfl

/-- A step refuses if its first part does, and the rest after every answer of the first part. -/
theorem Refuses.bind {c : Verdict α} {k : α → Verdict β} (first : Refuses c)
    (rest : ∀ a, Refuses (k a)) : Refuses (c >>= k) := by
  intro fault h
  cases c with
  | error =>
    cases h
    exact first _ rfl
  | ok a => exact rest a fault h

/-- Reading a part that is known to be readable. -/
theorem Refuses.part {p : α → Bool} {reading : Reading α} {k : α → Verdict β}
    (holds : holdsOf p reading = true) (rest : ∀ a, p a = true → Refuses (k a)) :
    Refuses (do let a ← Check.part reading; k a) := by
  obtain ⟨a, rfl, pa⟩ := exists_of_holdsOf holds
  exact rest a pa

/-- Reading the key of a textual name. -/
theorem Refuses.key {name : Name} {k : Key → Verdict β} (text : name.isText = true)
    (rest : ∀ key, Refuses (k key)) : Refuses (do let key ← Check.part name.key; k key) := by
  obtain ⟨key, keyed⟩ := name.exists_key text
  rw [keyed]
  exact rest key

/-! ## §2. Expressions. -/

/-- A textual name is visible, or unresolved. -/
theorem checkVisible_refuses (kind : Datum) {name : Name} (text : name.isText = true) :
    Refuses (checkVisible decl kind v name) := by
  refine Refuses.key text fun key => ?_
  split
  · exact .ok ()
  · intro fault h
    cases h
    rfl

/-- A typed expression is accepted or refused.  A part that cannot be read is never met. -/
theorem checkExpr_refuses : ∀ (e : Expr), e.typed = true → Refuses (checkExpr decl v e)
  | .ident id, typed => by
    simp only [Expr.typed, Ident.typed, Bool.and_eq_true] at typed
    exact checkVisible_refuses _ typed.2
  | .number _ value, typed => by
    simp only [Expr.typed, Bool.and_eq_true] at typed
    exact Refuses.part typed.2 fun _ _ => .ok ()
  | .binary _ (.unknown shown) _ _, _ => .unsupported _ _
  | .binary _ (.known _) left right, typed => by
    simp only [Expr.typed, Bool.and_eq_true] at typed
    exact (checkExpr_refuses left typed.1.2).bind fun _ => checkExpr_refuses right typed.2
  | .unary _ (.unknown shown) _, _ => .unsupported _ _
  | .unary _ (.known _) operand, typed => by
    simp only [Expr.typed, Bool.and_eq_true] at typed
    exact checkExpr_refuses operand typed.2
  | .paren _ inner, typed => by
    simp only [Expr.typed, Bool.and_eq_true] at typed
    exact checkExpr_refuses inner typed.2
  | .call _ callee args, typed => by
    simp only [Expr.typed, Bool.and_eq_true] at typed
    -- a call with another number of arguments than one is refused, never misread
    simp only [checkExpr]
    refine Refuses.part typed.1.2 fun id named => ?_
    simp only [Ident.typed, Bool.and_eq_true] at named
    refine (checkVisible_refuses _ named.2).bind fun _ => ?_
    match args, typed.2 with
    | .ok [], _ => exact .unsupported _ _
    | .ok [arg], items =>
      simp only [typedExprItems, typedExprs, Bool.and_true] at items
      exact checkExpr_refuses arg items
    | .ok (_ :: _ :: _), _ => exact .unsupported _ _
  | .foreign typeName, _ => .unsupported _ _

/-- Typed expressions are accepted, or the first that is not is refused. -/
theorem checkExprs_refuses : ∀ (es : List Expr), typedExprs es = true →
    Refuses (checkExprs decl v es)
  | [], _ => .ok ()
  | e :: rest, typed => by
    simp only [typedExprs, Bool.and_eq_true] at typed
    exact (checkExpr_refuses e typed.1).bind fun _ => checkExprs_refuses rest typed.2

theorem checkExpr?_refuses : ∀ (e : Option Expr), typedExpr? e = true →
    Refuses (checkExpr? decl v e)
  | none, _ => .ok ()
  | some e, typed => checkExpr_refuses e typed

/-! ## §3. Assignments. -/

theorem bindName_refuses {name : Name} (text : name.isText = true) :
    Refuses (bindName v name) :=
  Refuses.key text fun _ => .ok _

/-- Where typed targets are bound, no part is met that cannot be read. -/
theorem bindTargets_refuses : ∀ (targets : List (Reading Ident)) {v : Visible},
    targets.all (holdsOf Ident.typed) = true → Refuses (bindTargets targets v)
  | [], v, _ => .ok v
  | target :: rest, v, typed => by
    simp only [List.all_cons, Bool.and_eq_true] at typed
    refine Refuses.part typed.1 fun id named => ?_
    simp only [Ident.typed, Bool.and_eq_true] at named
    exact (Refuses.key named.2 fun _ => .ok _).bind fun _ => bindTargets_refuses rest typed.2

/-- Typed targets are all visible, or one is unresolved. -/
theorem checkTargets_refuses : ∀ (targets : List (Reading Ident)),
    targets.all (holdsOf Ident.typed) = true → Refuses (checkTargets decl v targets)
  | [], _ => .ok ()
  | target :: rest, typed => by
    simp only [List.all_cons, Bool.and_eq_true] at typed
    refine Refuses.part typed.1 fun id named => ?_
    simp only [Ident.typed, Bool.and_eq_true] at named
    exact (checkVisible_refuses _ named.2).bind fun _ => checkTargets_refuses rest typed.2

/-- A typed assignment is accepted or refused: for its operator, its counts, a value or a target. -/
theorem checkAssign_refuses (op : Operator AssignOp) {targets : Reading (List (Reading Ident))}
    {values : Reading (List Expr)}
    (named : holdsOf (·.all (holdsOf Ident.typed)) targets = true)
    (typed : holdsOf typedExprs values = true) :
    Refuses (checkAssign decl v op targets values) := by
  cases op with
  | unknown shown => exact .unsupported _ _
  | known op =>
    refine Refuses.part named fun targets named => ?_
    refine Refuses.part typed fun values typed => ?_
    split
    · refine (checkExprs_refuses values typed).bind fun _ => ?_
      -- targets are read twice, and are readable both times
      have prepared : Refuses (prepareTargets op targets v) := by
        cases op with
        | assign => exact .ok v
        | define => exact bindTargets_refuses targets named
      exact prepared.bind fun after => (checkTargets_refuses targets named).bind fun _ => .ok after
    · exact .unsupported _ _

/-! ## §4. Statements. -/

mutual

/-- A typed statement is accepted or refused. -/
theorem checkStmt_refuses : ∀ (stmt : Stmt) {v : Visible}, stmt.typed = true →
    Refuses (checkStmt decl stmt v)
  | .varDecl _ name value, v, typed => by
    simp only [Stmt.typed, Bool.and_eq_true] at typed
    simp only [checkStmt]
    exact (checkExpr?_refuses value typed.2).bind fun _ => bindName_refuses typed.1.2
  | .assign _ op targets values, v, typed => by
    simp only [Stmt.typed, Bool.and_eq_true] at typed
    simp only [checkStmt]
    exact checkAssign_refuses op typed.1.2 typed.2
  | .block _ stmts, v, typed => by
    simp only [Stmt.typed, Bool.and_eq_true] at typed
    simp only [checkStmt]
    exact (checkItems_refuses stmts typed.2).bind fun _ => .ok v
  | .loop _ body init cond post, v, typed => by
    simp only [Stmt.typed, Bool.and_eq_true] at typed
    obtain ⟨⟨⟨⟨_, typedBody⟩, typedInit⟩, typedCond⟩, typedPost⟩ := typed
    simp only [checkStmt]
    refine (checkStmt?_refuses init typedInit).bind fun inner => ?_
    refine (checkExpr?_refuses cond typedCond).bind fun _ => ?_
    refine (checkStmt_refuses body typedBody).bind fun _ => ?_
    exact (checkStmt?_refuses post typedPost).bind fun _ => .ok v
  | .exprStmt _ expr, v, typed => by
    simp only [Stmt.typed, Bool.and_eq_true] at typed
    simp only [checkStmt]
    exact (checkExpr_refuses expr typed.2).bind fun _ => .ok v
  | .foreign typeName, v, _ => by
    simp only [checkStmt]
    exact .unsupported _ _

theorem checkStmt?_refuses : ∀ (part : Option Stmt) {v : Visible}, typedStmt? part = true →
    Refuses (checkStmt? decl part v)
  | none, v, _ => by
    simp only [checkStmt?]
    exact .ok v
  | some stmt, v, typed => by
    simp only [checkStmt?]
    exact checkStmt_refuses stmt (by simpa only [typedStmt?] using typed)

theorem checkItems_refuses : ∀ (items : Except ReadFault (List Stmt)) {v : Visible},
    typedItems items = true → Refuses (checkItems decl items v)
  | .error _, v, typed => by simp only [typedItems] at typed; cases typed
  | .ok items, v, typed => by
    simp only [checkItems]
    exact checkStmts_refuses items (by simpa only [typedItems] using typed)

/-- Typed statements are accepted, or the first that is not is refused. -/
theorem checkStmts_refuses : ∀ (stmts : List Stmt) {v : Visible}, typedStmts stmts = true →
    Refuses (checkStmts decl stmts v)
  | [], v, _ => by
    simp only [checkStmts]
    exact .ok v
  | stmt :: rest, v, typed => by
    simp only [typedStmts, Bool.and_eq_true] at typed
    simp only [checkStmts]
    exact (checkStmt_refuses stmt typed.1).bind fun _ => checkStmts_refuses rest typed.2

end

/-! ## §5. Files. -/

/-- A name of the package is refused if it is `init` or is there already. -/
theorem bindGlobal_refuses (typeName : String) {name : Name} (text : name.isText = true) :
    Refuses (bindGlobal typeName name v) := by
  unfold bindGlobal
  split
  · exact .unsupported _ _
  · refine Refuses.key text fun key => ?_
    split
    · exact .unsupported _ _
    · exact .ok _

/-- The names of typed package variables are accepted, or one is refused. -/
theorem checkGlobals_refuses : ∀ (globals : List (Reading GlobalEntry)) {v : Visible},
    globals.all (holdsOf GlobalEntry.typed) = true → Refuses (checkGlobals globals v)
  | [], v, _ => .ok v
  | entry :: rest, v, typed => by
    simp only [List.all_cons, Bool.and_eq_true] at typed
    refine Refuses.part typed.1 fun g named => ?_
    simp only [GlobalEntry.typed, Bool.and_eq_true] at named
    exact (bindGlobal_refuses _ named.1.2).bind fun _ => checkGlobals_refuses rest typed.2

/-- Typed functions are accepted, or the name or the body of one is refused. -/
theorem checkFunctions_refuses : ∀ (funcs : List (Reading FuncEntry)) {v : Visible},
    funcs.all (holdsOf FuncEntry.typed) = true → Refuses (checkFunctions funcs v)
  | [], v, _ => .ok v
  | entry :: rest, v, typed => by
    simp only [List.all_cons, Bool.and_eq_true] at typed
    refine Refuses.part typed.1 fun fn named => ?_
    simp only [FuncEntry.typed, Bool.and_eq_true] at named
    refine (bindGlobal_refuses _ named.1.2).bind fun w => ?_
    refine Refuses.part named.2 fun body typedBody => ?_
    have checked : Refuses (checkBody fn.name w body) := by
      cases body with
      | external => exact .ok ()
      | stmts items => exact (checkItems_refuses items typedBody).bind fun _ => .ok ()
    exact checked.bind fun _ => checkFunctions_refuses rest typed.2

/-- The initial values of typed package variables are accepted, or one is refused. -/
theorem checkInitials_refuses : ∀ (globals : List (Reading GlobalEntry)),
    globals.all (holdsOf GlobalEntry.typed) = true → Refuses (checkInitials v globals)
  | [], _ => .ok ()
  | entry :: rest, typed => by
    simp only [List.all_cons, Bool.and_eq_true] at typed
    refine Refuses.part typed.1 fun g named => ?_
    simp only [GlobalEntry.typed, Bool.and_eq_true] at named
    refine Refuses.part named.2 fun initial typedInitial => ?_
    exact (checkExpr?_refuses initial typedInitial).bind fun _ =>
      checkInitials_refuses rest typed.2

end

/-- A typed file is accepted or refused. -/
theorem checkFile_refuses {file : SourceFile} (typed : file.typed = true) :
    Refuses (checkFile file) := by
  simp only [SourceFile.typed, Bool.and_eq_true] at typed
  refine Refuses.part typed.1.2 fun globals typedGlobals => ?_
  refine (checkGlobals_refuses globals typedGlobals).bind fun vars => ?_
  refine Refuses.part typed.2 fun funcs typedFuncs => ?_
  exact (checkFunctions_refuses funcs typedFuncs).bind fun all =>
    checkInitials_refuses globals typedGlobals

end Check
end SlotIR
