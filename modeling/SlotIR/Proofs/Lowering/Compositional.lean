/-
  SlotIR.Proofs.Lowering.Compositional
  ────────────────────────────────────
  **PROPERTIES OF STEPS THAT COMPOSITION KEEPS.**

  Some things hold of a step for no other reason than that they hold of
  its elementary steps, in whatever order these are taken and wherever
  they fail.  For such a property (`Compositional`) the functions of the
  lowering are walked through once, here:

    • by itself it holds of expressions, of stores and of the initialiser
    • if declaring a name has it, it holds of package variables, and if
      bodies have it, of functions
    • what it becomes in a frame, it is of files (`lowerFile`)
    • if reserving a slot has it too, and a step in a frame has it again,
      it holds of statements (`Contextual`)
-/
import SlotIR.Lowering.File

namespace SlotIR

/-- The property holds of the elementary steps that reserve no slot and bind no name, and of two
steps in a row if it holds of both. -/
structure Compositional (P : (α : Type) → Lower α → Prop) : Prop where
  pure {α : Type} (a : α) : P α (Pure.pure a)
  bind {α β : Type} {x : Lower α} {f : α → Lower β} (first : P α x) (next : ∀ a, P β (f a)) :
    P β (x >>= f)
  fail {α : Type} (fault : Fault) : P α (Lower.fail fault)
  unsupported {α : Type} (typeName detail : String) : P α (Lower.unsupported typeName detail)
  unresolved {α : Type} (kind : Datum) (name : Name) : P α (Lower.unresolved kind name)
  emit (line : Line) : P Unit (Lower.emit line)
  draw : P Nat Lower.draw
  setDecl (decl : Option Decl) : P Unit (Lower.setDecl decl)
  lookup (name : Name) : P (Option Storage) (Lower.lookup name)

namespace Compositional

variable {P : (α : Type) → Lower α → Prop} (h : Compositional P)

include h

/-! ## §1. Composed elementary steps. -/

/-- A part that can be read is no step at all, and one that cannot is a failure. -/
theorem read {α : Type} (part : Reading α) : P α (Lower.read part) := by
  cases part with
  | ok a => exact h.pure a
  | error fault => exact h.fail (.unreadable fault)

/-- To define a temporary is to draw its number and to emit the instruction. -/
theorem define (instr : Nat → Instr) : P Nat (Lower.define instr) :=
  h.bind h.draw fun dst => h.bind (h.emit _) fun _ => h.pure dst

/-- A label takes a number and nothing else. -/
theorem newLabel (tag : String) : P Label (Lower.newLabel tag) :=
  h.bind h.draw fun _ => h.pure _

/-- To resolve a name is to look it up, and to refuse it if nothing is found. -/
theorem resolve (kind : Datum) (name : Name) : P Storage (Lower.resolve kind name) := by
  refine h.bind (h.lookup name) fun found => ?_
  cases found with
  | none => exact h.unresolved kind name
  | some storage => exact h.pure storage

/-! ## §2. Expressions and stores. -/

/-- By the syntax of the expression; each refusal has its own case, since it comes at its own point.
-/
theorem lowerExpr : (e : Expr) → P Nat (SlotIR.lowerExpr e)
  | .ident _ => h.bind (h.resolve _ _) fun _ => h.define _
  | .number _ _ =>
    h.bind h.draw fun dst => h.bind (h.read _) fun _ => h.bind (h.emit _) fun _ => h.pure dst
  | .binary _ (.unknown _) _ _ => h.unsupported _ _
  | .binary _ (.known (.arith _)) left right =>
    h.bind (lowerExpr left) fun _ => h.bind (lowerExpr right) fun _ => h.define _
  | .binary _ (.known (.compare _)) left right =>
    h.bind (lowerExpr left) fun _ => h.bind (lowerExpr right) fun _ =>
      h.bind (h.define _) fun _ => h.define _
  | .unary _ (.unknown _) _ => h.unsupported _ _
  | .unary _ (.known .minus) operand => h.bind (lowerExpr operand) fun _ => h.define _
  | .unary _ (.known .plus) operand => lowerExpr operand
  | .paren _ inner => lowerExpr inner
  | .call _ _ (.error fault) =>
    h.bind (h.read _) fun _ => h.bind (h.resolve _ _) fun _ => h.fail (.unreadable fault)
  | .call _ _ (.ok []) =>
    h.bind (h.read _) fun _ => h.bind (h.resolve _ _) fun _ => h.unsupported _ _
  | .call _ _ (.ok [arg]) =>
    h.bind (h.read _) fun _ => h.bind (h.resolve _ _) fun _ =>
      h.bind (lowerExpr arg) fun _ => h.define _
  | .call _ _ (.ok (_ :: _ :: _)) =>
    h.bind (h.read _) fun _ => h.bind (h.resolve _ _) fun _ => h.unsupported _ _
  | .foreign typeName => h.unsupported typeName ""

theorem lowerExprs (es : List Expr) : P (List Nat) (SlotIR.lowerExprs es) := by
  induction es with
  | nil => exact h.pure []
  | cons e rest ih => exact h.bind (h.lowerExpr e) fun _ => h.bind ih fun _ => h.pure _

/-- An initial value that is absent takes no step. -/
theorem lowerInitial : (value : Option Expr) → P Operand (SlotIR.lowerInitial value)
  | none => h.pure _
  | some e => h.bind (h.lowerExpr e) fun _ => h.pure _

/-- By induction on the targets, each of which is resolved just before its store. -/
theorem storeTargets (pairs : List (Reading Ident × Nat)) :
    P Unit (SlotIR.storeTargets pairs) := by
  induction pairs with
  | nil => exact h.pure ()
  | cons pair rest ih =>
    exact h.bind (h.read pair.1) fun _ => h.bind (h.resolve _ _) fun _ =>
      h.bind (h.emit _) fun _ => ih

/-! ## §3. Loops. -/

/-- Four labels are drawn, one after another. -/
theorem newLoopLabels (pos : Pos) : P LoopLabels (SlotIR.newLoopLabels pos) :=
  h.bind (h.newLabel _) fun _ => h.bind (h.newLabel _) fun _ => h.bind (h.newLabel _) fun _ =>
    h.bind (h.newLabel _) fun _ => h.pure _

theorem openBlock (label : Label) : P Unit (SlotIR.openBlock label) :=
  h.bind (h.emit _) fun _ => h.emit _

theorem jumpTo (label : Label) : P Unit (SlotIR.jumpTo label) := h.emit _

/-- Without a condition the test is a jump. -/
theorem lowerTest (labels : LoopLabels) :
    (cond : Option Expr) → P Unit (SlotIR.lowerTest labels cond)
  | none => h.jumpTo _
  | some e => h.bind (h.lowerExpr e) fun _ => h.bind (h.define _) fun _ => h.emit _

/-! ## §4. Package variables and functions. -/

theorem endGlobals :
    (globals : List (Reading GlobalEntry)) → P Unit (SlotIR.endGlobals globals)
  | [] => h.pure ()
  | _ :: _ => h.emit _

/-- By induction on the variables; the declaration at work is noted before each initial value. -/
theorem storeInitials (globals : List (Reading GlobalEntry)) :
    P Unit (SlotIR.storeInitials globals) := by
  induction globals with
  | nil => exact h.pure ()
  | cons entry rest ih =>
    exact h.bind (h.read entry) fun _ => h.bind (h.setDecl _) fun _ => h.bind (h.read _) fun _ =>
      h.bind (h.lowerInitial _) fun _ => h.bind (h.resolve _ _) fun _ =>
        h.bind (h.emit _) fun _ => ih

/-- The initialiser declares no name, so the elementary steps are enough. -/
theorem lowerInitialiser (options : Options) (file : SourceFile) :
    P Unit (SlotIR.lowerInitialiser options file) :=
  h.bind (h.emit _) fun _ => h.bind (h.read _) fun globals =>
    h.bind (h.storeInitials globals) fun _ => h.bind (h.setDecl none) fun _ =>
      h.bind (h.emit _) fun _ => h.emit _

section

variable (declares : ∀ name storage, P (Option Storage) (Lower.declare name storage))

include declares

/-- A name of the package is refused if it is `init`, or if the frame has it, which is known only
once it is declared. -/
theorem declareGlobal (typeName : String) (name : Name) (storage : Storage) :
    P Unit (Lower.declareGlobal typeName name storage) := by
  unfold Lower.declareGlobal
  split
  · exact h.unsupported _ _
  · refine h.bind (declares name storage) fun bound => ?_
    cases bound with
    | none => exact h.pure ()
    | some _ => exact h.unsupported _ _

theorem lowerGlobals (options : Options) (package : String)
    (globals : List (Reading GlobalEntry)) :
    P Unit (SlotIR.lowerGlobals options package globals) := by
  induction globals with
  | nil => exact h.pure ()
  | cons entry rest ih =>
    exact h.bind (h.read entry) fun _ => h.bind (h.declareGlobal declares _ _ _) fun _ =>
      h.bind (h.emit _) fun _ => ih

variable (bodies : ∀ name symbol body, P Unit (lowerBody name symbol body))

include bodies

/-- The name is declared before the body is looked at. -/
theorem lowerFunction (options : Options) (package : String) (fn : FuncEntry) :
    P Unit (SlotIR.lowerFunction options package fn) :=
  h.bind (h.declareGlobal declares _ _ _) fun _ => h.bind (h.read _) fun _ => bodies _ _ _

theorem lowerFunctions (options : Options) (package : String)
    (funcs : List (Reading FuncEntry)) :
    P Unit (SlotIR.lowerFunctions options package funcs) := by
  induction funcs with
  | nil => exact h.pure ()
  | cons entry rest ih =>
    exact h.bind (h.read entry) fun _ => h.bind (h.lowerFunction declares bodies _ _ _) fun _ => ih

/-! ## §5. Files. -/

/-- A file is lowered in a frame of its own. -/
theorem lowerFile {Q : Lower Unit → Prop} (framed : ∀ {x}, P Unit x → Q (Lower.withFrame x))
    (options : Options) (file : SourceFile) : Q (SlotIR.lowerFile options file) :=
  framed <| h.bind (h.read _) fun globals =>
    h.bind (h.lowerGlobals declares options _ globals) fun _ =>
    h.bind (h.endGlobals globals) fun _ => h.bind (h.read _) fun funcs =>
    h.bind (h.lowerFunctions declares bodies options _ funcs) fun _ =>
    h.lowerInitialiser options file

end

theorem emitHeader (package : String) : P Unit (SlotIR.emitHeader package) :=
  h.bind (h.emit _) fun _ => h.bind (h.emit _) fun _ => h.emit _

/-- Whether there is an entry point depends on the package and the functions; the property holds
either way. -/
theorem emitEntry (options : Options) (file : SourceFile) :
    P Unit (SlotIR.emitEntry options file) := by
  unfold SlotIR.emitEntry
  split
  · refine h.bind (h.read _) fun funcs => h.bind (h.read _) fun due => ?_
    split
    · exact h.emit _
    · exact h.pure ()
  · exact h.pure ()

end Compositional

/-! ## §6. Statements. -/

/-- The property holds of all elementary steps, and a step in a frame of its own has another one,
which is not weaker. -/
structure Contextual (P : (α : Type) → Lower α → Prop) (Q : Lower Unit → Prop) : Prop
    extends Compositional P where
  newSlot (name : String) (pos : Pos) : P Slot (Lower.newSlot name pos)
  declare (name : Name) (storage : Storage) : P (Option Storage) (Lower.declare name storage)
  framed {x : Lower Unit} (inside : P Unit x) : Q (Lower.withFrame x)
  ofFramed {x : Lower Unit} (inFrame : Q x) : P Unit x

namespace Contextual

variable {P : (α : Type) → Lower α → Prop} {Q : Lower Unit → Prop}

/-- A slot is reserved before the name is bound, so it stays reserved if the name is refused. -/
theorem declareLocal (h : Contextual P Q) (name : Name) (pos : Pos) :
    P Slot (SlotIR.declareLocal name pos) :=
  h.bind (h.newSlot _ _) fun slot => h.bind (h.declare _ _) fun _ => h.pure slot

/-- A target of `:=` is declared only if nothing visible has its name. -/
theorem declareIfNew (h : Contextual P Q) (id : Ident) : P Unit (SlotIR.declareIfNew id) := by
  refine h.bind (h.lookup id.name) fun found => ?_
  cases found with
  | none => exact h.bind (h.declareLocal _ _) fun _ => h.pure ()
  | some _ => exact h.pure ()

theorem defineTargets (h : Contextual P Q) (targets : List (Reading Ident)) :
    P Unit (SlotIR.defineTargets targets) := by
  induction targets with
  | nil => exact h.pure ()
  | cons target rest ih =>
    exact h.bind (h.read target) fun _ => h.bind (h.declareIfNew _) fun _ => ih

/-- The operator is refused first, then the counts; the stores are the last part. -/
theorem lowerAssign (h : Contextual P Q) (op : Operator AssignOp)
    (targets : Reading (List (Reading Ident))) (values : Reading (List Expr)) :
    P Unit (SlotIR.lowerAssign op targets values) := by
  cases op with
  | unknown shown => exact h.unsupported _ _
  | known op =>
    refine h.bind (h.read targets) fun targets => h.bind (h.read values) fun values => ?_
    split
    · refine h.bind (h.lowerExprs values) fun numbers => h.bind ?_ fun _ => h.storeTargets _
      cases op with
      | assign => exact h.pure ()
      | define => exact h.defineTargets targets
    · exact h.unsupported _ _

/-- A loop is lowered in a frame of its own, and so is its body. -/
theorem lowerLoop (h : Contextual P Q) (pos : Pos) {body : Stmt} {init post : Option Stmt}
    (cond : Option Expr) (runs : P Unit (lowerStmt body)) (starts : P Unit (lowerOptional init))
    (ends : P Unit (lowerOptional post)) : Q (lowerStmt (.loop pos body init cond post)) :=
  h.framed <| h.bind (h.newLoopLabels pos) fun labels =>
    h.bind (h.jumpTo _) fun _ => h.bind (h.openBlock _) fun _ =>
    h.bind starts fun _ =>
    h.bind (h.jumpTo _) fun _ => h.bind (h.openBlock _) fun _ =>
    h.bind (h.lowerTest labels cond) fun _ =>
    h.bind (h.openBlock _) fun _ => h.bind (h.ofFramed (h.framed runs)) fun _ =>
    h.bind ends fun _ =>
    h.bind (h.jumpTo _) fun _ => h.openBlock _

mutual

/-- By the syntax of the statement.  A block and a loop have it because their step in a frame has
the other property, which gives it back (`ofFramed`). -/
theorem lowerStmt (h : Contextual P Q) : (stmt : Stmt) → P Unit (SlotIR.lowerStmt stmt)
  | .varDecl _ _ _ =>
    h.bind (h.lowerInitial _) fun _ => h.bind (h.declareLocal _ _) fun _ => h.emit _
  | .assign _ op targets values => h.lowerAssign op targets values
  | .block _ stmts => h.ofFramed (h.framed (lowerItems h stmts))
  | .loop pos body init cond post =>
    h.ofFramed (h.lowerLoop pos cond (lowerStmt h body) (lowerOptional h init)
      (lowerOptional h post))
  | .exprStmt _ e => h.bind (h.lowerExpr e) fun _ => h.pure ()
  | .foreign typeName => h.unsupported typeName ""
termination_by structural stmt => stmt

theorem lowerOptional (h : Contextual P Q) :
    (part : Option Stmt) → P Unit (SlotIR.lowerOptional part)
  | none => h.pure ()
  | some stmt => lowerStmt h stmt
termination_by structural part => part

theorem lowerItems (h : Contextual P Q) :
    (items : Except ReadFault (List Stmt)) → P Unit (SlotIR.lowerItems items)
  | .error _ => h.fail _
  | .ok items => lowerStmts h items
termination_by structural items => items

theorem lowerStmts (h : Contextual P Q) :
    (stmts : List Stmt) → P Unit (SlotIR.lowerStmts stmts)
  | [] => h.pure ()
  | stmt :: rest => h.bind (lowerStmt h stmt) fun _ => lowerStmts h rest
termination_by structural stmts => stmts

end

end Contextual

end SlotIR
