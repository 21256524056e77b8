/-
  SlotIR.Proofs.Program.Typed
  ───────────────────────────
  **TYPED FILES.**

  Reading accepts any tree and records what is wrong with it.  A file is
  TYPED if nothing is: every name is a text, every position an offset,
  and every part that is needed can be read.  Two things are left open,
  since a front end can get them wrong in a typed tree:

    • the spelling of an operator,
    • which node stands in the place of an expression or of a statement.
-/
import SlotIR.Program.Basic

namespace SlotIR

/-! ## §1. Names, positions and readings. -/

/-- The position is an offset. -/
def Pos.isOffset : Pos → Bool
  | .offset _ => true
  | .other _ => false

/-- The name is a text. -/
def Name.isText (name : Name) : Bool := name.value.text?.isSome

/-- The part can be read, and the condition holds of it. -/
def holdsOf {α : Type} (p : α → Bool) : Reading α → Bool
  | .ok a => p a
  | .error _ => false

/-- An identifier with a textual name at an offset. -/
def Ident.typed (id : Ident) : Bool := id.pos.isOffset && id.name.isText

theorem Name.exists_key {name : Name} (h : name.isText = true) : ∃ key, name.key = .ok key := by
  obtain ⟨value⟩ := name
  cases value with
  | atom a => exact ⟨a.key, rfl⟩
  | _ => cases h

/-- A typed name is its text. -/
theorem Name.eq_ofText {name : Name} (h : name.isText = true) : name = .ofText name.text := by
  obtain ⟨value⟩ := name
  cases value with
  | atom a =>
    cases a with
    | text s => rfl
    | _ => cases h
  | _ => cases h

/-- A textual name has the key of its text. -/
theorem Name.key_of_isText {name : Name} (text : name.isText = true) :
    name.key = .ok (.text name.text) := by
  rw [Name.eq_ofText text]
  rfl

/-- Textual names are the same if their texts are. -/
theorem Name.text_eq_iff {a b : Name} (text : a.isText = true) (text' : b.isText = true) :
    a.text = b.text ↔ a = b := by
  constructor
  · intro same
    rw [Name.eq_ofText text, Name.eq_ofText text', same]
  · intro same
    rw [same]

/-- A text is the same as one name only, the textual one. -/
theorem Name.eq_ofText_of_same {s : String} {other : Name}
    (h : (Name.ofText s).same other = true) : other = .ofText s := by
  obtain ⟨value⟩ := other
  cases value with
  | atom a =>
    cases a with
    | text t =>
      rw [Name.same_ofText, decide_eq_true_eq] at h
      rw [h]
    | _ => simp [Name.same, Datum.equalWhole, Datum.equal, Datum.alike, Atom.key] at h
  | _ => cases h

theorem Pos.exists_offset {pos : Pos} (h : pos.isOffset = true) : ∃ n, pos = .offset n := by
  cases pos with
  | offset n => exact ⟨n, rfl⟩
  | other => cases h

theorem exists_of_holdsOf {α : Type} {p : α → Bool} {part : Reading α}
    (h : holdsOf p part = true) : ∃ a, part = .ok a ∧ p a = true := by
  cases part with
  | ok a => exact ⟨a, rfl, h⟩
  | error => cases h

/-! ## §2. Expressions. -/

mutual

/-- The expression is typed. -/
def Expr.typed : Expr → Bool
  | .ident id => id.typed
  | .number pos value => pos.isOffset && holdsOf (fun _ => true) value
  | .binary pos _ left right => pos.isOffset && left.typed && right.typed
  | .unary pos _ operand => pos.isOffset && operand.typed
  | .paren pos inner => pos.isOffset && inner.typed
  | .call pos callee args => pos.isOffset && holdsOf Ident.typed callee && typedExprItems args
  | .foreign _ => true

/-- The expressions of a readable list are typed. -/
def typedExprItems : Except ReadFault (List Expr) → Bool
  | .ok items => typedExprs items
  | .error _ => false

/-- All expressions are typed. -/
def typedExprs : List Expr → Bool
  | [] => true
  | e :: rest => e.typed && typedExprs rest

end

/-- An optional expression is typed, if there is one. -/
def typedExpr? : Option Expr → Bool
  | none => true
  | some e => e.typed

/-! ## §3. Statements. -/

mutual

/-- The statement is typed. -/
def Stmt.typed : Stmt → Bool
  | .varDecl pos name value => pos.isOffset && name.isText && typedExpr? value
  | .assign pos _ targets values =>
    pos.isOffset && holdsOf (·.all (holdsOf Ident.typed)) targets && holdsOf typedExprs values
  | .block pos stmts => pos.isOffset && typedItems stmts
  | .loop pos body init cond post =>
    pos.isOffset && body.typed && typedStmt? init && typedExpr? cond && typedStmt? post
  | .exprStmt pos expr => pos.isOffset && expr.typed
  | .foreign _ => true

/-- An optional statement is typed, if there is one. -/
def typedStmt? : Option Stmt → Bool
  | none => true
  | some stmt => stmt.typed

/-- The statements of a readable list are typed. -/
def typedItems : Except ReadFault (List Stmt) → Bool
  | .ok items => typedStmts items
  | .error _ => false

/-- All statements are typed. -/
def typedStmts : List Stmt → Bool
  | [] => true
  | stmt :: rest => stmt.typed && typedStmts rest

end

/-! ## §4. Files. -/

/-- A package variable is typed. -/
def GlobalEntry.typed (g : GlobalEntry) : Bool :=
  g.pos.isOffset && g.name.isText && holdsOf typedExpr? g.value

/-- What a function is made of is typed. -/
def Body.typed : Body → Bool
  | .external => true
  | .stmts items => typedItems items

/-- A function is typed. -/
def FuncEntry.typed (fn : FuncEntry) : Bool :=
  fn.pos.isOffset && fn.name.isText && holdsOf Body.typed fn.body

/-- A file is typed. -/
def SourceFile.typed (file : SourceFile) : Bool :=
  file.pos.isOffset && file.package.isText
    && holdsOf (·.all (holdsOf GlobalEntry.typed)) file.globals
    && holdsOf (·.all (holdsOf FuncEntry.typed)) file.funcs

end SlotIR
