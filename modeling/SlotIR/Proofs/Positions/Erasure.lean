/-
  SlotIR.Proofs.Positions.Erasure
  ───────────────────────────────
  **PROGRAMS WITHOUT POSITIONS.**

  Two trees differ only in the positions of their nodes if they become one
  tree when all positions are set to zero (`SourceFile.unplaced`).  The
  tree without positions is as well typed as the one with them, and the
  checker says the same of both (`Check.checkFile_unplaced`): it reads no
  position, and no message shows one.
-/
import SlotIR.Proofs.Checking.Checker
import SlotIR.Proofs.Program.Typed

namespace SlotIR

/-! ## §1. Expressions. -/

/-- The position that stands for none. -/
def noPos : Pos := .offset 0

/-- The identifier without its position. -/
def Ident.unplaced (id : Ident) : Ident := ⟨noPos, id.name⟩

mutual

/-- The expression without positions. -/
def Expr.unplaced : Expr → Expr
  | .ident id => .ident id.unplaced
  | .number _ value => .number noPos value
  | .binary _ op left right => .binary noPos op left.unplaced right.unplaced
  | .unary _ op operand => .unary noPos op operand.unplaced
  | .paren _ inner => .paren noPos inner.unplaced
  | .call _ callee args => .call noPos (callee.map Ident.unplaced) (unplacedExprItems args)
  | .foreign typeName => .foreign typeName
termination_by structural e => e

/-- The expressions of a list, which may be unreadable, without positions. -/
def unplacedExprItems : Except ReadFault (List Expr) → Except ReadFault (List Expr)
  | .ok items => .ok (unplacedExprs items)
  | .error fault => .error fault
termination_by structural items => items

/-- The expressions without positions. -/
def unplacedExprs : List Expr → List Expr
  | [] => []
  | e :: rest => e.unplaced :: unplacedExprs rest
termination_by structural es => es

end

/-- The expression, if there is one, without positions. -/
def unplacedExpr? : Option Expr → Option Expr
  | none => none
  | some e => some e.unplaced

/-- The targets of an assignment without positions. -/
def unplacedTargets (targets : List (Reading Ident)) : List (Reading Ident) :=
  targets.map (Except.map Ident.unplaced)

/-! ## §2. Statements. -/

mutual

/-- The statement without positions. -/
def Stmt.unplaced : Stmt → Stmt
  | .varDecl _ name value => .varDecl noPos name (unplacedExpr? value)
  | .assign _ op targets values =>
    .assign noPos op (targets.map unplacedTargets) (unplacedExprItems values)
  | .block _ stmts => .block noPos (unplacedItems stmts)
  | .loop _ body init cond post =>
    .loop noPos body.unplaced (unplacedStmt? init) (unplacedExpr? cond) (unplacedStmt? post)
  | .exprStmt _ expr => .exprStmt noPos expr.unplaced
  | .foreign typeName => .foreign typeName
termination_by structural s => s

/-- The statement, if there is one, without positions. -/
def unplacedStmt? : Option Stmt → Option Stmt
  | none => none
  | some stmt => some stmt.unplaced
termination_by structural s => s

/-- The statements of a block without positions. -/
def unplacedItems : Except ReadFault (List Stmt) → Except ReadFault (List Stmt)
  | .ok items => .ok (unplacedStmts items)
  | .error fault => .error fault
termination_by structural items => items

/-- The statements without positions. -/
def unplacedStmts : List Stmt → List Stmt
  | [] => []
  | stmt :: rest => stmt.unplaced :: unplacedStmts rest
termination_by structural stmts => stmts

end

/-! ## §3. Files. -/

/-- The package variable without positions. -/
def GlobalEntry.unplaced (g : GlobalEntry) : GlobalEntry :=
  ⟨noPos, g.typeName, g.name, g.value.map unplacedExpr?⟩

/-- What a function is made of, without positions. -/
def Body.unplaced : Body → Body
  | .external => .external
  | .stmts items => .stmts (unplacedItems items)

/-- The function without positions. -/
def FuncEntry.unplaced (fn : FuncEntry) : FuncEntry :=
  ⟨noPos, fn.typeName, fn.name, fn.body.map Body.unplaced⟩

/-- The package variables without positions. -/
def unplacedGlobals (globals : List (Reading GlobalEntry)) : List (Reading GlobalEntry) :=
  globals.map (Except.map GlobalEntry.unplaced)

/-- The functions without positions. -/
def unplacedFuncs (funcs : List (Reading FuncEntry)) : List (Reading FuncEntry) :=
  funcs.map (Except.map FuncEntry.unplaced)

/-- **The file without positions.** -/
def SourceFile.unplaced (file : SourceFile) : SourceFile :=
  ⟨noPos, file.package, file.globals.map unplacedGlobals, file.funcs.map unplacedFuncs⟩

/-! ## §4. Typing. -/

/-- A condition on a readable part is carried along a map that keeps it. -/
theorem holdsOf_map {α β : Type} {p : α → Bool} {q : β → Bool} {f : α → β} {part : Reading α}
    (keeps : ∀ a, p a = true → q (f a) = true) (h : holdsOf p part = true) :
    holdsOf q (part.map f) = true := by
  obtain ⟨a, rfl, holds⟩ := exists_of_holdsOf h
  exact keeps a holds

/-- A condition on all members is carried along a map that keeps it. -/
theorem all_map_of_all {α β : Type} {p : α → Bool} {q : β → Bool} {f : α → β} {as : List α}
    (keeps : ∀ a, p a = true → q (f a) = true) (h : as.all p = true) :
    (as.map f).all q = true := by
  rw [List.all_map]
  exact List.all_eq_true.2 fun a member => keeps a (List.all_eq_true.1 h a member)

/-- Zero is a position, so what is typed by its position stays typed. -/
theorem Ident.typed_unplaced {id : Ident} (h : id.typed = true) : id.unplaced.typed = true := by
  simp only [Ident.typed, Bool.and_eq_true] at h
  simp [Ident.typed, Ident.unplaced, noPos, Pos.isOffset, h.2]

mutual

/-- A typed expression is typed without its positions. -/
theorem Expr.typed_unplaced : ∀ (e : Expr), e.typed = true → e.unplaced.typed = true
  | .ident id, h => Ident.typed_unplaced h
  | .number _ value, h => by
    simp only [Expr.typed, Bool.and_eq_true] at h
    exact h.2
  | .binary _ _ left right, h => by
    simp only [Expr.typed, Bool.and_eq_true] at h
    simp [Expr.unplaced, Expr.typed, noPos, Pos.isOffset, left.typed_unplaced h.1.2,
      right.typed_unplaced h.2]
  | .unary _ _ operand, h => by
    simp only [Expr.typed, Bool.and_eq_true] at h
    exact operand.typed_unplaced h.2
  | .paren _ inner, h => by
    simp only [Expr.typed, Bool.and_eq_true] at h
    exact inner.typed_unplaced h.2
  | .call _ callee args, h => by
    simp only [Expr.typed, Bool.and_eq_true] at h
    simp [Expr.unplaced, Expr.typed, noPos, Pos.isOffset, typedExprItems_unplaced args h.2,
      holdsOf_map (fun _ => Ident.typed_unplaced) h.1.2]
  | .foreign _, h => h

theorem typedExprItems_unplaced : ∀ (items : Except ReadFault (List Expr)),
    typedExprItems items = true → typedExprItems (unplacedExprItems items) = true
  | .ok items, h => typedExprs_unplaced items h
  | .error _, h => h

/-- Typed expressions are typed without their positions. -/
theorem typedExprs_unplaced : ∀ (es : List Expr),
    typedExprs es = true → typedExprs (unplacedExprs es) = true
  | [], h => h
  | e :: rest, h => by
    simp only [typedExprs, Bool.and_eq_true] at h
    simp [unplacedExprs, typedExprs, e.typed_unplaced h.1, typedExprs_unplaced rest h.2]

end

theorem typedExpr?_unplaced : ∀ (value : Option Expr),
    typedExpr? value = true → typedExpr? (unplacedExpr? value) = true
  | none, h => h
  | some e, h => e.typed_unplaced h

mutual

/-- A typed statement is typed without its positions. -/
theorem Stmt.typed_unplaced : ∀ (s : Stmt), s.typed = true → s.unplaced.typed = true
  | .varDecl _ name value, h => by
    simp only [Stmt.typed, Bool.and_eq_true] at h
    simp [Stmt.unplaced, Stmt.typed, noPos, Pos.isOffset, h.1.2, typedExpr?_unplaced value h.2]
  | .assign _ op targets values, h => by
    simp only [Stmt.typed, Bool.and_eq_true] at h
    obtain ⟨items, rfl, typedItems⟩ := exists_of_holdsOf h.2
    have typedValues : holdsOf typedExprs (unplacedExprItems (.ok items)) = true :=
      typedExprs_unplaced items typedItems
    have typedTargets :
        holdsOf (·.all (holdsOf Ident.typed)) (targets.map unplacedTargets) = true :=
      holdsOf_map (fun _ => all_map_of_all fun _ => holdsOf_map fun _ => Ident.typed_unplaced) h.1.2
    simp [Stmt.unplaced, Stmt.typed, noPos, Pos.isOffset, typedTargets, typedValues]
  | .block _ stmts, h => by
    simp only [Stmt.typed, Bool.and_eq_true] at h
    exact typedItems_unplaced stmts h.2
  | .loop _ body init cond post, h => by
    simp only [Stmt.typed, Bool.and_eq_true] at h
    simp [Stmt.unplaced, Stmt.typed, noPos, Pos.isOffset, body.typed_unplaced h.1.1.1.2,
      typedStmt?_unplaced init h.1.1.2, typedExpr?_unplaced cond h.1.2,
      typedStmt?_unplaced post h.2]
  | .exprStmt _ expr, h => by
    simp only [Stmt.typed, Bool.and_eq_true] at h
    exact expr.typed_unplaced h.2
  | .foreign _, h => h

theorem typedStmt?_unplaced : ∀ (s : Option Stmt),
    typedStmt? s = true → typedStmt? (unplacedStmt? s) = true
  | none, h => h
  | some stmt, h => stmt.typed_unplaced h

/-- The statements of a typed block are typed without their positions. -/
theorem typedItems_unplaced : ∀ (items : Except ReadFault (List Stmt)),
    typedItems items = true → typedItems (unplacedItems items) = true
  | .ok items, h => typedStmts_unplaced items h
  | .error _, h => h

/-- Typed statements are typed without their positions. -/
theorem typedStmts_unplaced : ∀ (stmts : List Stmt),
    typedStmts stmts = true → typedStmts (unplacedStmts stmts) = true
  | [], h => h
  | stmt :: rest, h => by
    simp only [typedStmts, Bool.and_eq_true] at h
    simp [unplacedStmts, typedStmts, stmt.typed_unplaced h.1, typedStmts_unplaced rest h.2]

end

/-- A typed package variable is typed without its positions. -/
theorem GlobalEntry.typed_unplaced {g : GlobalEntry} (h : g.typed = true) :
    g.unplaced.typed = true := by
  simp only [GlobalEntry.typed, Bool.and_eq_true] at h
  simp [GlobalEntry.typed, GlobalEntry.unplaced, noPos, Pos.isOffset, h.1.2,
    holdsOf_map typedExpr?_unplaced h.2]

theorem Body.typed_unplaced : ∀ (body : Body), body.typed = true → body.unplaced.typed = true
  | .external, h => h
  | .stmts items, h => typedItems_unplaced items h

/-- A typed function is typed without its positions. -/
theorem FuncEntry.typed_unplaced {fn : FuncEntry} (h : fn.typed = true) :
    fn.unplaced.typed = true := by
  simp only [FuncEntry.typed, Bool.and_eq_true] at h
  simp [FuncEntry.typed, FuncEntry.unplaced, noPos, Pos.isOffset, h.1.2,
    holdsOf_map Body.typed_unplaced h.2]

/-- **A typed file is typed without its positions.** -/
theorem SourceFile.typed_unplaced {file : SourceFile} (h : file.typed = true) :
    file.unplaced.typed = true := by
  simp only [SourceFile.typed, Bool.and_eq_true] at h
  have globals : holdsOf (·.all (holdsOf GlobalEntry.typed)) (file.globals.map unplacedGlobals)
      = true :=
    holdsOf_map (fun _ => all_map_of_all fun _ => holdsOf_map fun _ => GlobalEntry.typed_unplaced)
      h.1.2
  have funcs : holdsOf (·.all (holdsOf FuncEntry.typed)) (file.funcs.map unplacedFuncs) = true :=
    holdsOf_map (fun _ => all_map_of_all fun _ => holdsOf_map fun _ => FuncEntry.typed_unplaced) h.2
  simp [SourceFile.typed, SourceFile.unplaced, noPos, Pos.isOffset, h.1.1.2, globals, funcs]

/-! ## §5. Checking. -/

namespace Check

variable (decl : Option Decl)

/-- To read what a map makes of a part is to read the part and map it, with the same violation. -/
theorem part_map {α β γ : Type} (f : α → β) (r : Reading α) (rest : β → Verdict γ) :
    (part (r.map f) >>= rest) = (part r >>= fun a => rest (f a)) := by
  cases r <;> rfl

/-- Without positions there are as many expressions, so counts are right or wrong as before. -/
theorem length_unplacedExprs : ∀ (es : List Expr), (unplacedExprs es).length = es.length
  | [] => rfl
  | _ :: rest => congrArg (· + 1) (length_unplacedExprs rest)

/-- The checker says the same of an expression without its positions, in every frame. -/
theorem checkExpr_unplaced (v : Visible) : ∀ (e : Expr),
    checkExpr decl v e.unplaced = checkExpr decl v e
  | .ident _ => rfl
  | .number _ _ => rfl
  -- an operator is refused before its operands are looked at
  | .binary _ (.unknown _) _ _ => rfl
  | .binary _ (.known _) left right => by
    simp only [Expr.unplaced, checkExpr, checkExpr_unplaced v left, checkExpr_unplaced v right]
  | .unary _ (.unknown _) _ => rfl
  | .unary _ (.known _) operand => checkExpr_unplaced v operand
  | .paren _ inner => checkExpr_unplaced v inner
  | .call _ (.error _) _ => by
    simp only [Expr.unplaced, checkExpr, Except.map, part, bind, Except.bind]
  | .call _ (.ok _) (.error _) => rfl
  | .call _ (.ok _) (.ok []) => rfl
  | .call _ (.ok id) (.ok [arg]) => by
    show (checkVisible decl (.text "func") v id.name >>= fun _ => checkExpr decl v arg.unplaced)
      = (checkVisible decl (.text "func") v id.name >>= fun _ => checkExpr decl v arg)
    rw [checkExpr_unplaced v arg]
  | .call _ (.ok id) (.ok (first :: second :: rest)) => by
    simp only [Expr.unplaced, unplacedExprItems, unplacedExprs, Except.map, checkExpr,
      List.length_cons, length_unplacedExprs]
    rfl
  | .foreign _ => rfl

/-- The first violation among expressions is the same without positions. -/
theorem checkExprs_unplaced (v : Visible) : ∀ (es : List Expr),
    checkExprs decl v (unplacedExprs es) = checkExprs decl v es
  | [] => rfl
  | e :: rest => by
    simp only [unplacedExprs, checkExprs, checkExpr_unplaced decl v e, checkExprs_unplaced v rest]

theorem checkExpr?_unplaced (v : Visible) (value : Option Expr) :
    checkExpr? decl v (unplacedExpr? value) = checkExpr? decl v value := by
  cases value with
  | none => rfl
  | some e => exact checkExpr_unplaced decl v e

/-- The targets of `:=` are bound by their names, so the same names are visible afterwards. -/
theorem bindTargets_unplaced : ∀ (targets : List (Reading Ident)) (v : Visible),
    bindTargets (unplacedTargets targets) v = bindTargets targets v
  | [], _ => rfl
  | target :: rest, v => by
    show (part (target.map Ident.unplaced) >>= _) = (part target >>= _)
    rw [part_map]
    refine bind_congr fun id => bind_congr fun w => ?_
    exact bindTargets_unplaced rest w

/-- The first target that is not visible is the same without positions. -/
theorem checkTargets_unplaced (v : Visible) : ∀ (targets : List (Reading Ident)),
    checkTargets decl v (unplacedTargets targets) = checkTargets decl v targets
  | [] => rfl
  | target :: rest => by
    show (part (target.map Ident.unplaced) >>= _) = (part target >>= _)
    rw [part_map]
    refine bind_congr fun id => bind_congr fun _ => ?_
    exact checkTargets_unplaced v rest

theorem prepareTargets_unplaced (op : AssignOp) (targets : List (Reading Ident)) (v : Visible) :
    prepareTargets op (unplacedTargets targets) v = prepareTargets op targets v := by
  cases op with
  | assign => rfl
  | define => exact bindTargets_unplaced targets v

/-- The checker says the same of an assignment without its positions: operator, counts, values,
targets. -/
theorem checkAssign_unplaced (v : Visible) (op : Operator AssignOp)
    (targets : Reading (List (Reading Ident))) (values : Reading (List Expr)) :
    checkAssign decl v op (targets.map unplacedTargets) (unplacedExprItems values)
      = checkAssign decl v op targets values := by
  cases op with
  | unknown shown => rfl
  | known op =>
    cases targets with
    | error fault => rfl
    | ok targets =>
      cases values with
      | error fault => rfl
      | ok values =>
        have lengths : (unplacedTargets targets).length = targets.length := List.length_map _
        simp only [checkAssign, Except.map, unplacedExprItems, part, lengths,
          length_unplacedExprs, checkExprs_unplaced, prepareTargets_unplaced,
          checkTargets_unplaced, bind, Except.bind]

mutual

/-- The checker says the same of a statement without its positions, and the same names are visible
after it. -/
theorem checkStmt_unplaced : ∀ (s : Stmt) (v : Visible),
    checkStmt decl s.unplaced v = checkStmt decl s v
  | .varDecl _ name value, v => by
    simp only [Stmt.unplaced, checkStmt, checkExpr?_unplaced]
  | .assign _ op targets values, v => checkAssign_unplaced decl v op targets values
  | .block _ stmts, v => by
    simp only [Stmt.unplaced, checkStmt, checkItems_unplaced stmts]
  | .loop _ body init cond post, v => by
    simp only [Stmt.unplaced, checkStmt, checkStmt?_unplaced init, checkExpr?_unplaced,
      checkStmt_unplaced body, checkStmt?_unplaced post]
  | .exprStmt _ expr, v => by
    simp only [Stmt.unplaced, checkStmt, checkExpr_unplaced]
  | .foreign _, _ => rfl

theorem checkStmt?_unplaced : ∀ (s : Option Stmt) (v : Visible),
    checkStmt? decl (unplacedStmt? s) v = checkStmt? decl s v
  | none, _ => rfl
  | some stmt, v => checkStmt_unplaced stmt v

/-- Statements that cannot be read are a violation with positions and without. -/
theorem checkItems_unplaced : ∀ (items : Except ReadFault (List Stmt)) (v : Visible),
    checkItems decl (unplacedItems items) v = checkItems decl items v
  | .error _, _ => rfl
  | .ok items, v => checkStmts_unplaced items v

/-- The first violation among statements is the same without positions. -/
theorem checkStmts_unplaced : ∀ (stmts : List Stmt) (v : Visible),
    checkStmts decl (unplacedStmts stmts) v = checkStmts decl stmts v
  | [], _ => rfl
  | stmt :: rest, v => by
    simp only [unplacedStmts, checkStmts, checkStmt_unplaced stmt, checkStmts_unplaced rest]

end

/-- A name of the package is bound twice, or is `init`, with positions and without. -/
theorem checkGlobals_unplaced : ∀ (globals : List (Reading GlobalEntry)) (v : Visible),
    checkGlobals (unplacedGlobals globals) v = checkGlobals globals v
  | [], _ => rfl
  | entry :: rest, v => by
    show (part (entry.map GlobalEntry.unplaced) >>= _) = (part entry >>= _)
    rw [part_map]
    refine bind_congr fun g => bind_congr fun w => ?_
    exact checkGlobals_unplaced rest w

theorem checkBody_unplaced (name : Name) (v : Visible) (body : Body) :
    checkBody name v body.unplaced = checkBody name v body := by
  cases body with
  | external => rfl
  | stmts items => simp only [Body.unplaced, checkBody, checkItems_unplaced]

/-- The checker says the same of functions without their positions, bodies included. -/
theorem checkFunctions_unplaced : ∀ (funcs : List (Reading FuncEntry)) (v : Visible),
    checkFunctions (unplacedFuncs funcs) v = checkFunctions funcs v
  | [], _ => rfl
  | entry :: rest, v => by
    show (part (entry.map FuncEntry.unplaced) >>= _) = (part entry >>= _)
    rw [part_map]
    refine bind_congr fun fn => bind_congr fun w => ?_
    show (part (fn.body.map Body.unplaced) >>= _) = (part fn.body >>= _)
    rw [part_map]
    refine bind_congr fun body => ?_
    rw [show fn.unplaced.name = fn.name from rfl, checkBody_unplaced]
    exact bind_congr fun _ => checkFunctions_unplaced rest w

/-- The first violation among initial values is the same without positions. -/
theorem checkInitials_unplaced (v : Visible) : ∀ (globals : List (Reading GlobalEntry)),
    checkInitials v (unplacedGlobals globals) = checkInitials v globals
  | [] => rfl
  | entry :: rest => by
    show (part (entry.map GlobalEntry.unplaced) >>= _) = (part entry >>= _)
    rw [part_map]
    refine bind_congr fun g => ?_
    show (part (g.value.map unplacedExpr?) >>= _) = (part g.value >>= _)
    rw [part_map]
    refine bind_congr fun initial => ?_
    rw [checkExpr?_unplaced]
    exact bind_congr fun _ => checkInitials_unplaced v rest

/-- **The checker says the same of a file without its positions.** -/
theorem checkFile_unplaced (file : SourceFile) : checkFile file.unplaced = checkFile file := by
  show (part (file.globals.map unplacedGlobals) >>= _) = (part file.globals >>= _)
  rw [part_map]
  refine bind_congr fun globals => ?_
  rw [checkGlobals_unplaced]
  refine bind_congr fun vars => ?_
  show (part (file.funcs.map unplacedFuncs) >>= _) = (part file.funcs >>= _)
  rw [part_map]
  refine bind_congr fun funcs => ?_
  rw [checkFunctions_unplaced]
  exact bind_congr fun all => checkInitials_unplaced all globals

end Check

end SlotIR
