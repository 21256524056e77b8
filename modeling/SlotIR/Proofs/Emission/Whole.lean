/-
  SlotIR.Proofs.Emission.Whole
  ────────────────────────────
  **LOWERING SUCCEEDS ON WHOLE FILES ONLY.**

  A file is WHOLE if all of its parts can be read and nothing foreign
  stands in it.  Lowering comes to every part of a file, dead code
  included, and so it leaves no fault of a tree unreported.  Main result:

    • `generate_whole` — a file that is lowered is whole.
-/
import SlotIR.Proofs.Emission.Assignment
import SlotIR.Proofs.Emission.Sound
import SlotIR.Proofs.Program.Typed

namespace SlotIR

/-! ## §1. Expressions. -/

mutual

/-- The expression is whole. -/
def Expr.whole : Expr → Bool
  | .ident _ => true
  | .number _ value => value.isOk
  | .binary _ _ left right => left.whole && right.whole
  | .unary _ _ operand => operand.whole
  | .paren _ inner => inner.whole
  | .call _ callee args => callee.isOk && wholeExprItems args
  | .foreign _ => false

/-- The list can be read, and its expressions are whole. -/
def wholeExprItems : Except ReadFault (List Expr) → Bool
  | .ok items => wholeExprs items
  | .error _ => false

/-- All expressions are whole. -/
def wholeExprs : List Expr → Bool
  | [] => true
  | e :: rest => e.whole && wholeExprs rest

end

/-- An optional expression is whole, if there is one. -/
def wholeExpr? : Option Expr → Bool
  | none => true
  | some e => e.whole

section

variable {scope : Chain Key Storage} {n m : Nat} {code : List Instr}

/-- An expression that has code is whole: no operand is skipped. -/
theorem ExprCode.whole {e : Expr} {d : Nat} (h : ExprCode scope n e code d m) :
    e.whole = true := by
  induction h with
  | ident => rfl
  | number => rfl
  | arith _ _ ihLeft ihRight => simp only [Expr.whole, ihLeft, ihRight, Bool.and_self]
  | compare _ _ ihLeft ihRight => simp only [Expr.whole, ihLeft, ihRight, Bool.and_self]
  | minus _ ih => exact ih
  | plus _ ih => exact ih
  | paren _ ih => exact ih
  | call _ _ ih =>
    simp only [Expr.whole, wholeExprItems, wholeExprs, ih, Bool.and_self]
    rfl

theorem ExprsCode.whole {es : List Expr} {ds : List Nat} (h : ExprsCode scope n es code ds m) :
    wholeExprs es = true := by
  induction h with
  | nil => rfl
  | cons first _ ih => simp only [wholeExprs, first.whole, ih, Bool.and_self]

theorem InitialCode.whole {value : Option Expr} {v : Operand}
    (h : InitialCode scope n value code v m) : wholeExpr? value = true := by
  cases h with
  | zero => rfl
  | value code => exact code.whole

theorem TestCode.whole {labels : LoopLabels} {cond : Option Expr}
    (h : TestCode scope labels n cond code m) : wholeExpr? cond = true := by
  cases h with
  | always => rfl
  | value code => exact code.whole

end

/-! ## §2. Statements. -/

mutual

/-- The statement is whole. -/
def Stmt.whole : Stmt → Bool
  | .varDecl _ _ value => wholeExpr? value
  | .assign _ _ targets values => holdsOf (·.all (·.isOk)) targets && wholeExprItems values
  | .block _ stmts => wholeItems stmts
  | .loop _ body init cond post =>
    body.whole && wholeStmt? init && wholeExpr? cond && wholeStmt? post
  | .exprStmt _ expr => expr.whole
  | .foreign _ => false

/-- An optional statement is whole, if there is one. -/
def wholeStmt? : Option Stmt → Bool
  | none => true
  | some stmt => stmt.whole

/-- The list can be read, and its statements are whole. -/
def wholeItems : Except ReadFault (List Stmt) → Bool
  | .ok items => wholeStmts items
  | .error _ => false

/-- All statements are whole. -/
def wholeStmts : List Stmt → Bool
  | [] => true
  | stmt :: rest => stmt.whole && wholeStmts rest

end

/-- The piece is whole. -/
def Piece.whole : Piece → Bool
  | .stmt s => s.whole
  | .optional s => wholeStmt? s
  | .sequence items => wholeStmts items

/-- Each target that is stored to can be read. -/
theorem Assigns.targets_isOk {op : AssignOp} {σ τ : Layout} {targets : List (Reading Ident)}
    {ds : List Nat} {code : List Instr} (h : Assigns op σ targets ds code τ) :
    targets.all (·.isOk) = true := by
  induction h with
  | nil => rfl
  | visible _ _ ih => exact ih
  | fresh _ _ _ ih => exact ih

/-- A piece that has code is whole, parts that no run comes to included. -/
theorem Code.whole {σ τ : Layout} {piece : Piece} {code : List Line} (h : Code σ piece code τ) :
    piece.whole = true := by
  induction h with
  | varDecl initial _ => exact initial.whole
  | assign lengths evaluates prepares stores =>
    have counts := evaluates.length_eq.trans lengths.symm
    exact Bool.and_eq_true_iff.2
      ⟨(prepares.assigns stores counts).targets_isOk, evaluates.whole⟩
  | block _ ih => exact ih
  | loop _ test _ _ ihInit ihBody ihPost =>
    simp only [Piece.whole] at ihInit ihBody ihPost ⊢
    simp only [Stmt.whole, ihBody, ihInit, test.whole, ihPost, Bool.and_self]
  | expr code => exact code.whole
  | absent => rfl
  | present _ ih => exact ih
  | nil => rfl
  | cons _ _ ihFirst ihOthers => exact Bool.and_eq_true_iff.2 ⟨ihFirst, ihOthers⟩

/-! ## §3. Files. -/

/-- The package variable is whole. -/
def GlobalEntry.whole (g : GlobalEntry) : Bool := holdsOf wholeExpr? g.value

/-- What a function is made of is whole. -/
def Body.whole : Body → Bool
  | .external => true
  | .stmts items => wholeItems items

/-- The function is whole. -/
def FuncEntry.whole (fn : FuncEntry) : Bool := holdsOf Body.whole fn.body

/-- All parts of the file are whole. -/
def SourceFile.whole (file : SourceFile) : Bool :=
  holdsOf (·.all (holdsOf GlobalEntry.whole)) file.globals
    && holdsOf (·.all (holdsOf FuncEntry.whole)) file.funcs

/-- Package variables whose initial values have code are whole. -/
theorem InitialsCode.whole {scope : Chain Key Storage} {n m : Nat}
    {globals : List (Reading GlobalEntry)} {code : List Instr}
    (h : InitialsCode scope n globals code m) :
    globals.all (holdsOf GlobalEntry.whole) = true := by
  induction h with
  | nil => rfl
  | cons valued initial _ _ ih =>
    refine Bool.and_eq_true_iff.2 ⟨?_, ih⟩
    rw [holdsOf, GlobalEntry.whole, valued]
    exact initial.whole

/-- Functions that have code are whole. -/
theorem FunctionsCode.whole {options : Options} {package : String} {σ τ : Layout}
    {funcs : List (Reading FuncEntry)} {code : List Line}
    (h : FunctionsCode options package σ funcs code τ) :
    funcs.all (holdsOf FuncEntry.whole) = true := by
  induction h with
  | nil => rfl
  | external _ body _ ih =>
    refine Bool.and_eq_true_iff.2 ⟨?_, ih⟩
    rw [holdsOf, FuncEntry.whole, body]
    rfl
  | defined _ body inner _ ih =>
    refine Bool.and_eq_true_iff.2 ⟨?_, ih⟩
    rw [holdsOf, FuncEntry.whole, body]
    exact inner.whole

/-- A file that has code is whole: each variable, function and initial value is come to. -/
theorem ModuleCode.whole {options : Options} {file : SourceFile} {slots : List Slot}
    {code : List Line} {n : Nat} (h : ModuleCode options file slots code n) :
    file.whole = true := by
  cases h with
  | intro globals_eq funcs_eq _ functions initialises _ =>
    unfold SourceFile.whole
    rw [globals_eq, funcs_eq]
    exact Bool.and_eq_true_iff.2 ⟨initialises.whole, functions.whole⟩

/-- **A file that is lowered is whole.** -/
theorem generate_whole {options : Options} {file : SourceFile} {s t : State} {text : String}
    (h : generate options file s = .ok text t) : file.whole = true :=
  (generate_sound h).2.whole

end SlotIR
