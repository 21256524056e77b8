/-
  SlotIR.Proofs.Lowering.Transparent
  ──────────────────────────────────
  **PARENTHESES AND PLUS SIGNS LEAVE NO TRACE.**

  An expression in parentheses, or with a plus sign before it, is lowered
  as the expression is.  So a program can be STRIPPED of both, wherever
  they stand and however deep: what is left is BARE, and lowering takes
  the same steps on it, from every state, up to the same text or the same
  fault.  Main result:

    • `generate_stripped` — a file and the bare file that is left of it
      have the same outcome.
-/
import SlotIR.Lowering.File

namespace SlotIR

/-! ## §1. Expressions. -/

mutual

/-- The expression without parentheses and plus signs. -/
def Expr.stripped : Expr → Expr
  | .ident id => .ident id
  | .number pos value => .number pos value
  | .binary pos op left right => .binary pos op left.stripped right.stripped
  | .unary _ (.known .plus) operand => operand.stripped
  -- a sign that is not known stays, since it is refused with a message of its own
  | .unary pos op operand => .unary pos op operand.stripped
  | .paren _ inner => inner.stripped
  | .call pos callee args => .call pos callee (strippedExprItems args)
  | .foreign typeName => .foreign typeName
termination_by structural e => e

/-- The expressions of a list, which may be unreadable, without parentheses and plus signs. -/
def strippedExprItems : Except ReadFault (List Expr) → Except ReadFault (List Expr)
  | .ok items => .ok (strippedExprs items)
  | .error fault => .error fault
termination_by structural items => items

/-- The expressions without parentheses and plus signs. -/
def strippedExprs : List Expr → List Expr
  | [] => []
  | e :: rest => e.stripped :: strippedExprs rest
termination_by structural es => es

end

mutual

/-- The expression has no parentheses and no plus sign, at any depth. -/
def Expr.bare : Expr → Bool
  | .binary _ _ left right => left.bare && right.bare
  | .unary _ op operand => op != .known .plus && operand.bare
  | .paren _ _ => false
  | .call _ _ args => bareExprItems args
  | .ident _ | .number _ _ | .foreign _ => true
termination_by structural e => e

/-- The expressions of a list are bare, if it can be read. -/
def bareExprItems : Except ReadFault (List Expr) → Bool
  | .ok items => bareExprs items
  | .error _ => true
termination_by structural items => items

/-- All expressions are bare. -/
def bareExprs : List Expr → Bool
  | [] => true
  | e :: rest => e.bare && bareExprs rest
termination_by structural es => es

end

/-- Stripping keeps the number of expressions, on which counts of arguments and values depend. -/
theorem length_strippedExprs (es : List Expr) : (strippedExprs es).length = es.length := by
  induction es with
  | nil => rfl
  | cons _ _ ih => exact congrArg (· + 1) ih

mutual

/-- What is left of an expression is bare. -/
theorem Expr.bare_stripped : ∀ (e : Expr), e.stripped.bare = true
  | .ident _ => rfl
  | .number _ _ => rfl
  | .binary _ _ left right => by
    simp only [Expr.stripped, Expr.bare, left.bare_stripped, right.bare_stripped, Bool.and_self]
  | .unary _ (.known .plus) operand => operand.bare_stripped
  | .unary _ (.known .minus) operand => operand.bare_stripped
  | .unary _ (.unknown _) operand => operand.bare_stripped
  | .paren _ inner => inner.bare_stripped
  | .call _ _ args => bareExprItems_stripped args
  | .foreign _ => rfl

theorem bareExprItems_stripped : ∀ (items : Except ReadFault (List Expr)),
    bareExprItems (strippedExprItems items) = true
  | .ok items => bareExprs_stripped items
  | .error _ => rfl

/-- What is left of expressions is bare. -/
theorem bareExprs_stripped (es : List Expr) : bareExprs (strippedExprs es) = true := by
  cases es with
  | nil => rfl
  | cons e rest =>
    simp only [strippedExprs, bareExprs, e.bare_stripped, bareExprs_stripped rest, Bool.and_self]

end

/-- An expression and what is left of it are lowered by the same step, which reserves, draws, emits
and refuses the same. -/
theorem lowerExpr_stripped : ∀ (e : Expr), lowerExpr e.stripped = lowerExpr e
  | .ident _ => rfl
  | .number _ _ => rfl
  -- an operator is refused before its operands are looked at
  | .binary _ (.unknown _) _ _ => rfl
  | .binary _ (.known _) left right => by
    simp only [Expr.stripped, lowerExpr, lowerExpr_stripped left, lowerExpr_stripped right]
  | .unary _ (.unknown _) _ => rfl
  | .unary _ (.known .minus) operand => by
    simp only [Expr.stripped, lowerExpr, lowerExpr_stripped operand]
  | .unary _ (.known .plus) operand => lowerExpr_stripped operand
  | .paren _ inner => lowerExpr_stripped inner
  | .call _ _ (.error _) => rfl
  | .call _ _ (.ok []) => rfl
  | .call _ _ (.ok [arg]) => by
    simp only [Expr.stripped, strippedExprItems, strippedExprs, lowerExpr, lowerExpr_stripped arg]
  | .call _ _ (.ok (first :: second :: rest)) => by
    simp only [Expr.stripped, strippedExprItems, strippedExprs, lowerExpr, List.length_cons,
      length_strippedExprs]
  | .foreign _ => rfl

/-! ## §2. Statements. -/

/-- The expression, if there is one, without parentheses and plus signs. -/
def strippedExpr? : Option Expr → Option Expr
  | none => none
  | some e => some e.stripped

/-- An optional expression is bare, if there is one. -/
def bareExpr? : Option Expr → Bool
  | none => true
  | some e => e.bare

mutual

/-- The statement without parentheses and plus signs in its expressions. -/
def Stmt.stripped : Stmt → Stmt
  | .varDecl pos name value => .varDecl pos name (strippedExpr? value)
  | .assign pos op targets values => .assign pos op targets (strippedExprItems values)
  | .block pos stmts => .block pos (strippedItems stmts)
  | .loop pos body init cond post =>
    .loop pos body.stripped (strippedStmt? init) (strippedExpr? cond) (strippedStmt? post)
  | .exprStmt pos expr => .exprStmt pos expr.stripped
  | .foreign typeName => .foreign typeName
termination_by structural s => s

/-- The statement, if there is one, without parentheses and plus signs. -/
def strippedStmt? : Option Stmt → Option Stmt
  | none => none
  | some stmt => some stmt.stripped
termination_by structural s => s

/-- The statements of a block without parentheses and plus signs. -/
def strippedItems : Except ReadFault (List Stmt) → Except ReadFault (List Stmt)
  | .ok items => .ok (strippedStmts items)
  | .error fault => .error fault
termination_by structural items => items

/-- The statements without parentheses and plus signs. -/
def strippedStmts : List Stmt → List Stmt
  | [] => []
  | stmt :: rest => stmt.stripped :: strippedStmts rest
termination_by structural stmts => stmts

end

mutual

/-- All expressions of the statement are bare. -/
def Stmt.bare : Stmt → Bool
  | .varDecl _ _ value => bareExpr? value
  | .assign _ _ _ values => bareExprItems values
  | .block _ stmts => bareItems stmts
  | .loop _ body init cond post => body.bare && bareStmt? init && bareExpr? cond && bareStmt? post
  | .exprStmt _ expr => expr.bare
  | .foreign _ => true
termination_by structural s => s

/-- An optional statement is bare, if there is one. -/
def bareStmt? : Option Stmt → Bool
  | none => true
  | some stmt => stmt.bare
termination_by structural s => s

/-- The statements of a block are bare, if they can be read. -/
def bareItems : Except ReadFault (List Stmt) → Bool
  | .ok items => bareStmts items
  | .error _ => true
termination_by structural items => items

/-- All statements are bare. -/
def bareStmts : List Stmt → Bool
  | [] => true
  | stmt :: rest => stmt.bare && bareStmts rest
termination_by structural stmts => stmts

end

/-- What is left of an optional expression is bare. -/
theorem bareExpr?_stripped (value : Option Expr) : bareExpr? (strippedExpr? value) = true := by
  cases value with
  | none => rfl
  | some e => exact e.bare_stripped

mutual

/-- What is left of a statement is bare. -/
theorem Stmt.bare_stripped : ∀ (s : Stmt), s.stripped.bare = true
  | .varDecl _ _ value => bareExpr?_stripped value
  | .assign _ _ _ values => bareExprItems_stripped values
  | .block _ stmts => bareItems_stripped stmts
  | .loop _ body init cond post => by
    simp only [Stmt.stripped, Stmt.bare, body.bare_stripped, bareStmt?_stripped init,
      bareExpr?_stripped cond, bareStmt?_stripped post, Bool.and_self]
  | .exprStmt _ expr => expr.bare_stripped
  | .foreign _ => rfl

theorem bareStmt?_stripped : ∀ (s : Option Stmt), bareStmt? (strippedStmt? s) = true
  | none => rfl
  | some stmt => stmt.bare_stripped

theorem bareItems_stripped : ∀ (items : Except ReadFault (List Stmt)),
    bareItems (strippedItems items) = true
  | .ok items => bareStmts_stripped items
  | .error _ => rfl

/-- What is left of statements is bare. -/
theorem bareStmts_stripped : ∀ (stmts : List Stmt), bareStmts (strippedStmts stmts) = true
  | [] => rfl
  | stmt :: rest => by
    simp only [strippedStmts, bareStmts, stmt.bare_stripped, bareStmts_stripped rest,
      Bool.and_self]

end

theorem lowerExprs_stripped (es : List Expr) : lowerExprs (strippedExprs es) = lowerExprs es := by
  induction es with
  | nil => rfl
  | cons e rest ih => simp only [strippedExprs, lowerExprs, lowerExpr_stripped e, ih]

/-- An initial value is there after stripping if it was there before, so zero is stored as before.
-/
theorem lowerInitial_stripped (value : Option Expr) :
    lowerInitial (strippedExpr? value) = lowerInitial value := by
  cases value with
  | none => rfl
  | some e => simp only [strippedExpr?, lowerInitial, lowerExpr_stripped]

/-- Only the values of an assignment are stripped: its targets are names. -/
theorem lowerAssign_stripped (op : Operator AssignOp) (targets : Reading (List (Reading Ident)))
    (values : Reading (List Expr)) :
    lowerAssign op targets (strippedExprItems values) = lowerAssign op targets values := by
  cases op with
  | unknown shown => rfl
  | known op =>
    cases values with
    | error fault => rfl
    | ok values =>
      -- there are as many values as before, so the counts agree or not as before
      refine bind_congr fun ids => ?_
      show (if ids.length = (strippedExprs values).length then _ else _)
        = (if ids.length = values.length then _ else _)
      rw [length_strippedExprs, lowerExprs_stripped]

theorem lowerTest_stripped (labels : LoopLabels) (cond : Option Expr) :
    lowerTest labels (strippedExpr? cond) = lowerTest labels cond := by
  cases cond with
  | none => rfl
  | some e => simp only [strippedExpr?, lowerTest, lowerExpr_stripped]

mutual

/-- A statement and what is left of it are lowered by the same step. -/
theorem lowerStmt_stripped : ∀ (s : Stmt), lowerStmt s.stripped = lowerStmt s
  | .varDecl _ _ value => by
    simp only [Stmt.stripped, lowerStmt, lowerInitial_stripped]
  | .assign _ op targets values => lowerAssign_stripped op targets values
  | .block _ stmts => congrArg Lower.withFrame (lowerItems_stripped stmts)
  | .loop _ body init cond post => by
    simp only [Stmt.stripped, lowerStmt, lowerStmt_stripped body, lowerOptional_stripped init,
      lowerTest_stripped, lowerOptional_stripped post]
  | .exprStmt _ expr => by
    simp only [Stmt.stripped, lowerStmt, lowerExpr_stripped]
  | .foreign _ => rfl

/-- An optional part of a loop is there after stripping if it was there before. -/
theorem lowerOptional_stripped : ∀ (s : Option Stmt),
    lowerOptional (strippedStmt? s) = lowerOptional s
  | none => rfl
  | some stmt => lowerStmt_stripped stmt

theorem lowerItems_stripped : ∀ (items : Except ReadFault (List Stmt)),
    lowerItems (strippedItems items) = lowerItems items
  | .ok items => lowerStmts_stripped items
  | .error _ => rfl

/-- Statements in a row and what is left of them are lowered by the same step. -/
theorem lowerStmts_stripped : ∀ (stmts : List Stmt),
    lowerStmts (strippedStmts stmts) = lowerStmts stmts
  | [] => rfl
  | stmt :: rest => by
    simp only [strippedStmts, lowerStmts, lowerStmt_stripped stmt, lowerStmts_stripped rest]

end

/-! ## §3. Files. -/

/-- The package variable without parentheses and plus signs. -/
def GlobalEntry.stripped (g : GlobalEntry) : GlobalEntry :=
  { g with value := g.value.map strippedExpr? }

/-- What a function is made of, without parentheses and plus signs. -/
def Body.stripped : Body → Body
  | .external => .external
  | .stmts items => .stmts (strippedItems items)

/-- The function without parentheses and plus signs. -/
def FuncEntry.stripped (fn : FuncEntry) : FuncEntry :=
  { fn with body := fn.body.map Body.stripped }

/-- The package variables without parentheses and plus signs. -/
def strippedGlobals (globals : List (Reading GlobalEntry)) : List (Reading GlobalEntry) :=
  globals.map (Except.map GlobalEntry.stripped)

/-- The functions without parentheses and plus signs. -/
def strippedFuncs (funcs : List (Reading FuncEntry)) : List (Reading FuncEntry) :=
  funcs.map (Except.map FuncEntry.stripped)

/-- **The file without parentheses and plus signs.** -/
def SourceFile.stripped (file : SourceFile) : SourceFile :=
  { file with globals := file.globals.map strippedGlobals, funcs := file.funcs.map strippedFuncs }

/-- The condition holds of the part, if it can be read. -/
def holdsIfRead {α : Type} (p : α → Bool) : Reading α → Bool
  | .ok a => p a
  | .error _ => true

/-- The initial value of the package variable is bare. -/
def GlobalEntry.bare (g : GlobalEntry) : Bool := holdsIfRead bareExpr? g.value

/-- What a function is made of is bare. -/
def Body.bare : Body → Bool
  | .external => true
  | .stmts items => bareItems items

/-- The body of the function is bare. -/
def FuncEntry.bare (fn : FuncEntry) : Bool := holdsIfRead Body.bare fn.body

/-- All expressions of the file are bare. -/
def SourceFile.bare (file : SourceFile) : Bool :=
  holdsIfRead (·.all (holdsIfRead GlobalEntry.bare)) file.globals
    && holdsIfRead (·.all (holdsIfRead FuncEntry.bare)) file.funcs

/-- What a map brings about holds of its part, readable or not. -/
theorem holdsIfRead_map {α β : Type} {p : β → Bool} {f : α → β} (holds : ∀ a, p (f a) = true)
    (part : Reading α) : holdsIfRead p (part.map f) = true := by
  cases part with
  | ok a => exact holds a
  | error => rfl

theorem all_map_of_forall {α β : Type} {p : β → Bool} {f : α → β} (holds : ∀ a, p (f a) = true)
    (as : List α) : (as.map f).all p = true := by
  rw [List.all_map]
  exact List.all_eq_true.2 fun a _ => holds a

/-- What is left of a package variable is bare. -/
theorem GlobalEntry.bare_stripped (g : GlobalEntry) : g.stripped.bare = true :=
  holdsIfRead_map bareExpr?_stripped g.value

theorem Body.bare_stripped : ∀ (body : Body), body.stripped.bare = true
  | .external => rfl
  | .stmts items => bareItems_stripped items

/-- What is left of a function is bare. -/
theorem FuncEntry.bare_stripped (fn : FuncEntry) : fn.stripped.bare = true :=
  holdsIfRead_map Body.bare_stripped fn.body

/-- **What is left of a file is bare.** -/
theorem SourceFile.bare_stripped (file : SourceFile) : file.stripped.bare = true := by
  have globals : holdsIfRead (·.all (holdsIfRead GlobalEntry.bare))
      (file.globals.map strippedGlobals) = true :=
    holdsIfRead_map (all_map_of_forall (holdsIfRead_map GlobalEntry.bare_stripped)) file.globals
  have funcs : holdsIfRead (·.all (holdsIfRead FuncEntry.bare))
      (file.funcs.map strippedFuncs) = true :=
    holdsIfRead_map (all_map_of_forall (holdsIfRead_map FuncEntry.bare_stripped)) file.funcs
  exact Bool.and_eq_true_iff.2 ⟨globals, funcs⟩

section

open Lower (read)

/-- To read what a map makes of a part is to read the part and map it, with the same fault. -/
theorem read_map {α β γ : Type} (f : α → β) (part : Reading α) (rest : β → Lower γ) :
    (read (part.map f) >>= rest) = (read part >>= fun a => rest (f a)) := by
  cases part <;> rfl

/-- The lines of package variables show no initial value. -/
theorem lowerGlobals_stripped (options : Options) (package : String) :
    ∀ (globals : List (Reading GlobalEntry)),
      lowerGlobals options package (strippedGlobals globals) = lowerGlobals options package globals
  | [] => rfl
  | entry :: rest => by
    show (read (entry.map GlobalEntry.stripped) >>= _) = (read entry >>= _)
    rw [read_map]
    refine bind_congr fun g => bind_congr fun _ => bind_congr fun _ => ?_
    exact lowerGlobals_stripped options package rest

theorem endGlobals_stripped (globals : List (Reading GlobalEntry)) :
    endGlobals (strippedGlobals globals) = endGlobals globals := by
  cases globals <;> rfl

/-- The initial values are stored as before, each where it is met. -/
theorem storeInitials_stripped : ∀ (globals : List (Reading GlobalEntry)),
    storeInitials (strippedGlobals globals) = storeInitials globals
  | [] => rfl
  | entry :: rest => by
    show (read (entry.map GlobalEntry.stripped) >>= _) = (read entry >>= _)
    rw [read_map]
    refine bind_congr fun g => bind_congr fun _ => ?_
    show (read (g.value.map strippedExpr?) >>= _) = (read g.value >>= _)
    rw [read_map]
    refine bind_congr fun initial => ?_
    rw [lowerInitial_stripped]
    refine bind_congr fun value => bind_congr fun target => bind_congr fun _ => ?_
    exact storeInitials_stripped rest

/-- A body is lowered as before, in a frame of its own. -/
theorem lowerBody_stripped (name : Name) (symbol : String) (body : Body) :
    lowerBody name symbol body.stripped = lowerBody name symbol body := by
  cases body with
  | external => rfl
  | stmts items =>
    simp only [Body.stripped, lowerBody, lowerDefinition, lowerItems_stripped]

/-- Names and kinds of functions stay, so the same are declared, defined and refused. -/
theorem lowerFunctions_stripped (options : Options) (package : String) :
    ∀ (funcs : List (Reading FuncEntry)),
      lowerFunctions options package (strippedFuncs funcs) = lowerFunctions options package funcs
  | [] => rfl
  | entry :: rest => by
    show (read (entry.map FuncEntry.stripped) >>= _) = (read entry >>= _)
    rw [read_map]
    refine bind_congr fun fn => ?_
    have body : lowerFunction options package fn.stripped = lowerFunction options package fn := by
      refine bind_congr fun _ => ?_
      show (read (fn.body.map Body.stripped) >>= _) = (read fn.body >>= _)
      rw [read_map]
      exact bind_congr fun body => lowerBody_stripped fn.name _ body
    rw [body]
    exact bind_congr fun _ => lowerFunctions_stripped options package rest

/-- The initialiser of a file is lowered as before. -/
theorem lowerInitialiser_stripped (options : Options) (file : SourceFile) :
    lowerInitialiser options file.stripped = lowerInitialiser options file := by
  refine bind_congr fun _ => ?_
  show (read (file.globals.map strippedGlobals) >>= _) = (read file.globals >>= _)
  rw [read_map]
  refine bind_congr fun globals => ?_
  rw [storeInitials_stripped]

/-- A file and what is left of it are lowered by the same step. -/
theorem lowerFile_stripped (options : Options) (file : SourceFile) :
    lowerFile options file.stripped = lowerFile options file := by
  refine congrArg Lower.withFrame ?_
  show (read (file.globals.map strippedGlobals) >>= _) = (read file.globals >>= _)
  rw [read_map]
  refine bind_congr fun globals => ?_
  rw [endGlobals_stripped]
  show (lowerGlobals options file.package.text (strippedGlobals globals) >>= _) = _
  rw [lowerGlobals_stripped]
  refine bind_congr fun _ => bind_congr fun _ => ?_
  show (read (file.funcs.map strippedFuncs) >>= _) = (read file.funcs >>= _)
  rw [read_map]
  refine bind_congr fun funcs => ?_
  rw [lowerInitialiser_stripped]
  show (lowerFunctions options file.package.text (strippedFuncs funcs) >>= _) = _
  rw [lowerFunctions_stripped]

/-- Stripping keeps the names of functions. -/
theorem hasMain_stripped : ∀ (funcs : List (Reading FuncEntry)),
    hasMain (strippedFuncs funcs) = hasMain funcs
  | [] => rfl
  | .error _ :: _ => rfl
  | .ok fn :: rest => by
    show (if fn.name.same (.ofText "main") then _ else hasMain (strippedFuncs rest)) = _
    rw [hasMain_stripped rest]
    rfl

theorem emitEntry_stripped (options : Options) (file : SourceFile) :
    emitEntry options file.stripped = emitEntry options file := by
  unfold emitEntry
  show (if file.package.same options.mainPackage then _ else _) = _
  split
  · -- the entry point depends on the names of the functions alone
    show (read (file.funcs.map strippedFuncs) >>= _) = (read file.funcs >>= _)
    rw [read_map]
    refine bind_congr fun funcs => ?_
    rw [hasMain_stripped]
    rfl
  · rfl

end

/-- **Parentheses and plus signs leave no trace.**  Without them, wherever they stood, a file has
the same outcome from every state: the text and the state after it, or the fault. -/
theorem generate_stripped (file : SourceFile) :
    file.stripped.bare = true
      ∧ ∀ options s, generate options file.stripped s = generate options file s := by
  refine ⟨file.bare_stripped, fun options s => ?_⟩
  have same : generate options file.stripped = generate options file := by
    unfold generate
    rw [lowerFile_stripped, emitEntry_stripped]
    rfl
  rw [same]

/-- `+(f(-(7)))` is left as `f(-7)`. -/
example :
    (Expr.unary (.offset 1) (.known .plus) (.paren (.offset 2) (.call (.offset 3)
      (.ok ⟨.offset 3, .ofText "f"⟩) (.ok [.unary (.offset 4) (.known .minus)
        (.paren (.offset 5) (.number (.offset 6) (.ok 7)))])))).stripped
      = .call (.offset 3) (.ok ⟨.offset 3, .ofText "f"⟩)
          (.ok [.unary (.offset 4) (.known .minus) (.number (.offset 6) (.ok 7))]) :=
  rfl

end SlotIR
