/-
  SlotIR.Proofs.Checking.Agreement
  ────────────────────────────────
  **LOWERING SUCCEEDS EXACTLY ON WHAT THE CHECKER ACCEPTS.**

  A step of lowering AGREES with a step of checking if both succeed or
  both stop at the same fault.  What carries the agreement through is the
  relation `Sees` between a state and the checker's names: some scope is
  open, its frames bind the checker's names, and the declaration at work
  is the checker's.  The proofs follow the syntax, one lemma for each
  function:

    • expressions     `lowerExpr_agrees`
    • assignments     `lowerAssign_agrees`
    • statements      `lowerStmt_agrees`
-/
import SlotIR.Proofs.Checking.Checker

namespace SlotIR.Check

open Lower (resolve lookup declare emit draw define read newSlot newLabel withFrame)

/-! ## §1. Agreement of steps. -/

/-- The state shows the checker's names and its declaration. -/
structure Sees (s : State) (decl : Option Decl) (v : Visible) : Prop where
  decl_eq : s.decl = decl
  open_scope : s.scope ≠ []
  visible_eq : visible s.scope = v

/-- Both succeed, with related results, or both stop at the same fault. -/
def Agrees {α γ : Type} (result : EStateM.Result Fault State α) (check : Verdict γ)
    (post : α → State → γ → Prop) : Prop :=
  match result, check with
  | .ok a t, .ok g => post a t g
  | .error fault _, .error fault' => fault = fault'
  | _, _ => False

section

variable {α β γ δ : Type} {s t : State} {decl : Option Decl} {v : Visible}

/-- Sequential composition; the rest may use what the first step of the checker returned. -/
theorem Agrees.bind_of_ok {x : Lower α} {f : α → Lower β} {c : Verdict γ} {k : γ → Verdict δ}
    {post : α → State → γ → Prop} {post' : β → State → δ → Prop}
    (first : Agrees (x s) c post)
    (rest : ∀ a t g, c = .ok g → post a t g → Agrees (f a t) (k g) post') :
    Agrees ((x >>= f) s) (c >>= k) post' := by
  show Agrees (EStateM.bind x f s) (Except.bind c k) post'
  unfold EStateM.bind Except.bind
  cases hx : x s <;> cases hc : c <;> rw [hx, hc] at first
  · exact first.elim
  · exact rest _ _ _ hc first
  · exact first
  · exact first.elim

theorem Agrees.bind {x : Lower α} {f : α → Lower β} {c : Verdict γ} {k : γ → Verdict δ}
    {post : α → State → γ → Prop} {post' : β → State → δ → Prop}
    (first : Agrees (x s) c post)
    (rest : ∀ a t g, post a t g → Agrees (f a t) (k g) post') :
    Agrees ((x >>= f) s) (c >>= k) post' :=
  first.bind_of_ok fun a t g _ => rest a t g

/-- A step that succeeds has no counterpart in the checker. -/
theorem Agrees.skip {x : Lower α} {f : α → Lower β} {c : Verdict δ} {a : α}
    {post : β → State → δ → Prop} (first : x s = .ok a t) (rest : Agrees (f a t) c post) :
    Agrees ((x >>= f) s) c post := by
  show Agrees (EStateM.bind x f s) c post
  unfold EStateM.bind
  rw [first]
  exact rest

theorem Agrees.mono {result : EStateM.Result Fault State α} {c : Verdict γ}
    {post post' : α → State → γ → Prop} (h : Agrees result c post)
    (weaker : ∀ a t g, post a t g → post' a t g) : Agrees result c post' := by
  unfold Agrees at h ⊢
  split
  · exact weaker _ _ _ h
  · exact h
  · simp_all

theorem Agrees.read {part : Reading α} :
    Agrees (Lower.read part s) (Check.part part) (fun a t b => a = b ∧ t = s) := by
  cases part with
  | ok a => exact ⟨rfl, rfl⟩
  | error fault => exact (rfl : Fault.unreadable fault = .unreadable fault)

/-- Both read a part that is readable. -/
theorem Agrees.readBoth {f : α → Lower β} {k : α → Verdict δ} {post : β → State → δ → Prop} (a : α)
    (rest : Agrees (f a s) (k a) post) :
    Agrees ((do let b ← Lower.read (.ok a); f b) s) (do let b ← Check.part (.ok a); k b) post :=
  rest

theorem Agrees.unsupported (sees : Sees s decl v) (typeName detail : String)
    (post : α → State → γ → Prop) :
    Agrees (Lower.unsupported typeName detail s) (Check.unsupported decl typeName detail)
      post := by
  show Fault.unsupported typeName detail s.decl = .unsupported typeName detail decl
  rw [sees.decl_eq]

/-! ## §2. Names. -/

/-- Lines, numbers and slots are not seen. -/
theorem Sees.of_eq (sees : Sees s decl v) (scope : t.scope = s.scope) (same : t.decl = s.decl) :
    Sees t decl v :=
  ⟨same.trans sees.decl_eq, scope ▸ sees.open_scope, scope ▸ sees.visible_eq⟩

theorem Sees.enter (sees : Sees s decl v) :
    Sees { s with scope := Frame.empty :: s.scope } decl (Frame.empty :: v) :=
  ⟨sees.decl_eq, by simp, by rw [← sees.visible_eq]; rfl⟩

/-- The scopes and the declaration are those of an earlier state. -/
def Keeps (s t : State) : Prop := t.scope = s.scope ∧ t.decl = s.decl

theorem Keeps.sees (keeps : Keeps s t) (sees : Sees s decl v) : Sees t decl v :=
  sees.of_eq keeps.1 keeps.2

theorem Keeps.trans {u : State} (first : Keeps s t) (second : Keeps t u) : Keeps s u :=
  ⟨second.1.trans first.1, second.2.trans first.2⟩

/-- What a statement leaves: it may have bound names in the innermost frame. -/
def Leaves (s : State) (decl : Option Decl) (t : State) (w : Visible) : Prop :=
  Sees t decl w ∧ t.scope.tail = s.scope.tail

/-- Looking a name up: the checker needs to know whether there is a binding. -/
theorem lookup_agrees (sees : Sees s decl v) (name : Name) :
    Agrees (lookup name s) (part name.key) (fun found t key =>
      t = s ∧ name.key = .ok key ∧ (Chain.find? v key).isSome = found.isSome) := by
  obtain ⟨-, nonempty, rfl⟩ := sees
  unfold Lower.lookup
  cases hs : s.scope with
  | nil => exact absurd hs nonempty
  | cons frame outer =>
    cases name.key with
    | error fault => exact (rfl : Fault.unreadable fault = .unreadable fault)
    | ok key => exact ⟨rfl, rfl, by rw [visible, Chain.find?_map, Option.isSome_map]⟩

theorem resolve_agrees (sees : Sees s decl v) (kind : Datum) (name : Name) :
    Agrees (resolve kind name s) (checkVisible decl kind v name) (fun _ t _ => t = s) := by
  unfold Lower.resolve checkVisible
  refine (lookup_agrees sees name).bind fun found t key ⟨same, _, isSome⟩ => ?_
  subst same
  rw [isSome]
  cases found with
  | some storage => exact rfl
  | none =>
    show Fault.unresolved kind name t.decl = .unresolved kind name decl
    rw [sees.decl_eq]

/-- Binding a name in the innermost frame. -/
theorem declare_agrees (sees : Sees s decl v) (name : Name) (storage : Storage) :
    Agrees (declare name storage s) (part name.key) (fun bound t key =>
      Leaves s decl t (bindKey key v) ∧ boundHere key v = bound.isSome) := by
  obtain ⟨same, nonempty, rfl⟩ := sees
  unfold Lower.declare
  cases hs : s.scope with
  | nil => exact absurd hs nonempty
  | cons frame outer =>
    cases name.key with
    | error fault => exact (rfl : Fault.unreadable fault = .unreadable fault)
    | ok key =>
      refine ⟨⟨⟨same, by simp, ?_⟩, by rw [hs]; rfl⟩, ?_⟩
      · show Chain.map _ (frame.declare key storage :: outer) = _
        rw [Chain.map_cons, Frame.map_declare]
        rfl
      · show (frame.map _).contains key = _
        rw [Frame.contains_map]
        rfl

/-- What a step inside a frame of its own has to leave. -/
theorem Leaves.within {w : Visible} (sees : Sees s decl v)
    (left : Leaves { s with scope := Frame.empty :: s.scope } decl t w) :
    t.scope.tail = s.scope ∧ t.decl = s.decl :=
  ⟨left.2, left.1.decl_eq.trans sees.decl_eq.symm⟩

/-- A step in a frame of its own leaves the names as they were. -/
theorem withFrame_agrees {step : Lower Unit} {c : Verdict δ}
    (body : Agrees (step { s with scope := Frame.empty :: s.scope }) c
      (fun _ t _ => t.scope.tail = s.scope ∧ t.decl = s.decl)) :
    Agrees (withFrame step s) c (fun _ t _ => Keeps s t) := by
  -- both accept the step or both refuse it; the frame is dropped in either case
  unfold Lower.withFrame
  cases hstep : step { s with scope := Frame.empty :: s.scope } <;> cases c <;>
    rw [hstep] at body
  · exact body.elim
  · exact body
  · exact body
  · exact body.elim

/-! ## §3. Expressions. -/

/-- An expression is lowered exactly if the checker accepts it, and the scopes stay. -/
theorem lowerExpr_agrees : ∀ (e : Expr) {s : State}, Sees s decl v →
    Agrees (lowerExpr e s) (checkExpr decl v e) (fun _ t _ => Keeps s t)
  | .ident id, s, sees => by
    simp only [lowerExpr, checkExpr]
    rw [← bind_pure (checkVisible _ _ _ _)]
    refine (resolve_agrees sees _ _).bind fun storage t _ same => ?_
    subst same
    exact ⟨rfl, rfl⟩
  | .number _ value, s, sees => by
    simp only [lowerExpr, checkExpr]
    -- lowering draws a number before it reads the value; the checker sees no numbers
    refine Agrees.skip (rfl : draw s = .ok s.nextId _) ?_
    refine Agrees.read.bind fun n t _ same => ?_
    obtain ⟨-, rfl⟩ := same
    exact ⟨rfl, rfl⟩
  | .binary _ (.unknown shown) _ _, s, sees => by
    simp only [lowerExpr, checkExpr]
    exact .unsupported sees _ _ _
  | .binary _ (.known op) left right, s, sees => by
    simp only [lowerExpr, checkExpr]
    -- the temporaries of the operands make no difference to the checker
    refine (lowerExpr_agrees left sees).bind fun l t _ keeps => ?_
    rw [← bind_pure (checkExpr _ _ right)]
    refine (lowerExpr_agrees right (keeps.sees sees)).bind fun r u _ keeps' => ?_
    cases op with
    | arith op => exact keeps.trans keeps'
    | compare op => exact keeps.trans keeps'
  | .unary _ (.unknown shown) _, s, sees => by
    simp only [lowerExpr, checkExpr]
    exact .unsupported sees _ _ _
  | .unary _ (.known .minus) operand, s, sees => by
    simp only [lowerExpr, checkExpr]
    rw [← bind_pure (checkExpr _ _ operand)]
    refine (lowerExpr_agrees operand sees).bind fun n t _ keeps => ?_
    exact keeps
  | .unary _ (.known .plus) operand, s, sees => by
    simp only [lowerExpr, checkExpr]
    exact lowerExpr_agrees operand sees
  | .paren _ inner, s, sees => by
    simp only [lowerExpr, checkExpr]
    exact lowerExpr_agrees inner sees
  | .call _ callee args, s, sees => by
    simp only [lowerExpr, checkExpr]
    refine Agrees.read.bind fun id t _ same => ?_
    obtain ⟨rfl, rfl⟩ := same
    refine (resolve_agrees sees _ _).bind fun storage t _ same => ?_
    subst same
    -- the callee is resolved on both sides before the arguments are looked at
    match args with
    | .error fault => exact (rfl : Fault.unreadable fault = .unreadable fault)
    | .ok [] => exact .unsupported sees _ _ _
    | .ok [arg] =>
      show Agrees ((lowerExpr arg >>= fun a => define _) t) (checkExpr decl v arg) _
      rw [← bind_pure (checkExpr _ _ arg)]
      refine (lowerExpr_agrees arg sees).bind fun a u _ keeps => ?_
      exact keeps
    | .ok (_ :: _ :: _) => exact .unsupported sees _ _ _
  | .foreign typeName, s, sees => by
    simp only [lowerExpr, checkExpr]
    exact .unsupported sees _ _ _

theorem lowerExprs_agrees : ∀ (es : List Expr) {s : State}, Sees s decl v →
    Agrees (lowerExprs es s) (checkExprs decl v es)
      (fun numbers t _ => Keeps s t ∧ numbers.length = es.length)
  | [], s, _ => ⟨⟨rfl, rfl⟩, rfl⟩
  | e :: rest, s, sees => by
    simp only [lowerExprs, checkExprs]
    refine (lowerExpr_agrees e sees).bind fun n t _ keeps => ?_
    rw [← bind_pure (checkExprs _ _ rest)]
    refine (lowerExprs_agrees rest (keeps.sees sees)).bind fun numbers u _ done => ?_
    obtain ⟨keeps', length⟩ := done
    exact ⟨keeps.trans keeps', by simp [length]⟩

theorem lowerInitial_agrees (value : Option Expr) (sees : Sees s decl v) :
    Agrees (lowerInitial value s) (checkExpr? decl v value) (fun _ t _ => Keeps s t) := by
  cases value with
  | none => exact ⟨rfl, rfl⟩
  | some e =>
    simp only [lowerInitial, checkExpr?]
    rw [← bind_pure (checkExpr _ _ e)]
    refine (lowerExpr_agrees e sees).bind fun n t _ keeps => ?_
    exact keeps

/-! ## §4. Assignments. -/

/-- Reserving a slot always succeeds. -/
theorem newSlot_keeps (name : String) (pos : Pos) (s : State) :
    ∃ slot t, newSlot name pos s = .ok slot t ∧ Keeps s t := by
  unfold Lower.newSlot
  dsimp only
  split
  · exact ⟨_, _, rfl, rfl, rfl⟩
  · exact ⟨_, _, rfl, rfl, rfl⟩

theorem declareLocal_agrees (sees : Sees s decl v) (name : Name) (pos : Pos) :
    Agrees (declareLocal name pos s) (bindName v name) (fun _ t w => Leaves s decl t w) := by
  obtain ⟨slot, t, reserved, keeps⟩ := newSlot_keeps name.text pos s
  unfold declareLocal bindName
  refine Agrees.skip reserved ?_
  refine (declare_agrees (keeps.sees sees) name _).bind fun bound u key left => ?_
  exact ⟨left.1.1, left.1.2.trans (congrArg List.tail keeps.1)⟩

theorem declareIfNew_agrees (sees : Sees s decl v) (id : Ident) :
    Agrees (declareIfNew id s) (bindIfNew v id.name) (fun _ t w => Leaves s decl t w) := by
  have declared := declareLocal_agrees sees id.name id.pos
  unfold declareIfNew bindIfNew
  refine (lookup_agrees sees id.name).bind fun found t key ⟨same, readable, isSome⟩ => ?_
  subst same
  rw [isSome]
  cases found with
  | some storage => exact ⟨sees, rfl⟩
  | none =>
    -- the checker has read the name already
    rw [bindName, readable] at declared
    exact declared.bind (k := pure) fun _ _ _ left => left

theorem defineTargets_agrees : ∀ (targets : List (Reading Ident)) {s : State} {v : Visible},
    Sees s decl v → Agrees (defineTargets targets s) (bindTargets targets v)
      (fun _ t w => Leaves s decl t w)
  | [], s, v, sees => ⟨sees, rfl⟩
  | target :: rest, s, v, sees => by
    simp only [defineTargets, bindTargets]
    refine Agrees.read.bind fun id t _ same => ?_
    obtain ⟨rfl, rfl⟩ := same
    refine (declareIfNew_agrees sees id).bind fun _ u w left => ?_
    refine (defineTargets_agrees rest left.1).mono fun _ _ _ after => ?_
    exact ⟨after.1, after.2.trans left.2⟩

theorem prepareTargets_agrees (op : AssignOp) (targets : List (Reading Ident))
    (sees : Sees s decl v) :
    Agrees (SlotIR.prepareTargets op targets s) (prepareTargets op targets v)
      (fun _ t w => Leaves s decl t w) := by
  cases op with
  | assign => exact ⟨sees, rfl⟩
  | define => exact defineTargets_agrees targets sees

/-- The stores of an assignment fail exactly where a target is not visible. -/
theorem storeTargets_agrees : ∀ (targets : List (Reading Ident)) (numbers : List Nat)
    {s : State}, numbers.length = targets.length → Sees s decl v →
    Agrees (storeTargets (targets.zip numbers) s) (checkTargets decl v targets)
      (fun _ t _ => Keeps s t)
  | [], _, s, _, _ => ⟨rfl, rfl⟩
  | target :: rest, number :: numbers, s, length, sees => by
    simp only [List.zip_cons_cons, storeTargets, checkTargets]
    refine Agrees.read.bind fun id t _ same => ?_
    obtain ⟨rfl, rfl⟩ := same
    refine (resolve_agrees sees _ _).bind fun storage t _ same => ?_
    subst same
    refine Agrees.skip (rfl : emit _ t = .ok () _) ?_
    exact storeTargets_agrees rest numbers (by simpa using length) (sees.of_eq rfl rfl)

theorem lowerAssign_agrees (op : Operator AssignOp) (targets : Reading (List (Reading Ident)))
    (values : Reading (List Expr)) (sees : Sees s decl v) :
    Agrees (lowerAssign op targets values s) (checkAssign decl v op targets values)
      (fun _ t w => Leaves s decl t w) := by
  cases op with
  | unknown shown => exact .unsupported sees _ _ _
  | known op =>
    simp only [lowerAssign, checkAssign]
    refine Agrees.read.bind fun targets t _ same => ?_
    obtain ⟨rfl, rfl⟩ := same
    refine Agrees.read.bind fun values t _ same => ?_
    obtain ⟨rfl, rfl⟩ := same
    by_cases count : targets.length = values.length
    · rw [if_pos count, if_pos count]
      refine (lowerExprs_agrees values sees).bind fun numbers u _ evaluated => ?_
      obtain ⟨keeps, length⟩ := evaluated
      refine (prepareTargets_agrees op targets (keeps.sees sees)).bind fun _ w after left => ?_
      rw [← bind_pure (storeTargets _)]
      refine (storeTargets_agrees targets numbers (length.trans count.symm) left.1).bind
        fun _ x _ keeps' => ?_
      refine ⟨keeps'.sees left.1, ?_⟩
      rw [keeps'.1, left.2, keeps.1]
    · rw [if_neg count, if_neg count]
      exact .unsupported sees _ _ _

/-! ## §5. Statements. -/

theorem lowerTest_agrees (labels : LoopLabels) (cond : Option Expr) (sees : Sees s decl v) :
    Agrees (lowerTest labels cond s) (checkExpr? decl v cond) (fun _ t _ => Keeps s t) := by
  cases cond with
  | none => exact ⟨rfl, rfl⟩
  | some e =>
    simp only [lowerTest, checkExpr?]
    rw [← bind_pure (checkExpr _ _ e)]
    exact (lowerExpr_agrees e sees).bind fun n t _ keeps => keeps

theorem newLoopLabels_keeps (pos : Pos) (s : State) :
    ∃ labels t, newLoopLabels pos s = .ok labels t ∧ Keeps s t :=
  ⟨_, _, rfl, rfl, rfl⟩

/-- Adding a line has no counterpart in the checker. -/
theorem Agrees.emit {x : Lower α} {c : Verdict γ} {post : α → State → γ → Prop} (line : Line)
    (rest : ∀ t, Keeps s t → Agrees (x t) c post) : Agrees ((do Lower.emit line; x) s) c post :=
  rest _ ⟨rfl, rfl⟩

/-- Opening a block has no counterpart in the checker. -/
theorem Agrees.openBlock {x : Lower α} {c : Verdict γ} {post : α → State → γ → Prop}
    (label : Label) (rest : ∀ t, Keeps s t → Agrees (x t) c post) :
    Agrees ((do SlotIR.openBlock label; x) s) c post :=
  rest _ ⟨rfl, rfl⟩

/-- Closing one block and opening the next has no counterpart in the checker. -/
theorem Agrees.enterBlock {x : Lower α} {c : Verdict γ} {post : α → State → γ → Prop}
    (label : Label) (rest : ∀ t, Keeps s t → Agrees (x t) c post) :
    Agrees ((do jumpTo label; SlotIR.openBlock label; x) s) c post :=
  rest _ ⟨rfl, rfl⟩

mutual

/-- A statement is lowered exactly if the checker accepts it, and both bind the same names. -/
theorem lowerStmt_agrees : ∀ (stmt : Stmt) {s : State} {v : Visible}, Sees s decl v →
    Agrees (lowerStmt stmt s) (checkStmt decl stmt v) (fun _ t w => Leaves s decl t w)
  | .varDecl pos name value, s, v, sees => by
    simp only [lowerStmt, checkStmt]
    refine (lowerInitial_agrees value sees).bind fun operand t _ keeps => ?_
    rw [← bind_pure (bindName v name)]
    refine (declareLocal_agrees (keeps.sees sees) name pos).bind fun slot u w left => ?_
    exact ⟨left.1.of_eq rfl rfl, left.2.trans (congrArg List.tail keeps.1)⟩
  | .assign _ op targets values, s, v, sees => by
    simp only [lowerStmt, checkStmt]
    exact lowerAssign_agrees op targets values sees
  | .block _ stmts, s, v, sees => by
    simp only [lowerStmt, checkStmt]
    have body := withFrame_agrees
      ((lowerItems_agrees stmts sees.enter).mono fun _ _ _ left => left.within sees)
    rw [← bind_pure (withFrame _)]
    exact body.bind fun _ t _ keeps => ⟨keeps.sees sees, congrArg List.tail keeps.1⟩
  | .loop pos body init cond post, s, v, sees => by
    simp only [lowerStmt, checkStmt]
    rw [← bind_pure (withFrame _)]
    -- the checker forgets what the loop binds only at the end, as the frame is left
    have forgets : (do
        let inner ← checkStmt? decl init (Frame.empty :: v)
        checkExpr? decl inner cond
        let _ ← checkStmt decl body (Frame.empty :: inner)
        let _ ← checkStmt? decl post inner
        return v) = (do
        let inner ← checkStmt? decl init (Frame.empty :: v)
        checkExpr? decl inner cond
        let _ ← checkStmt decl body (Frame.empty :: inner)
        checkStmt? decl post inner) >>= fun _ => pure v := by simp only [bind_assoc]
    rw [forgets]
    refine (withFrame_agrees ?_).bind fun _ t _ keeps =>
      ⟨keeps.sees sees, congrArg List.tail keeps.1⟩
    obtain ⟨labels, s₁, drawn, keeps₁⟩ :=
      newLoopLabels_keeps pos { s with scope := Frame.empty :: s.scope }
    refine Agrees.skip drawn ?_
    refine Agrees.enterBlock labels.init fun s₂ keeps₂ => ?_
    have keepsInit := keeps₁.trans keeps₂
    refine (lowerOptional_agrees init (keepsInit.sees sees.enter)).bind fun _ s₃ inner left => ?_
    refine Agrees.enterBlock labels.cond fun s₄ keeps₄ => ?_
    refine (lowerTest_agrees labels cond (keeps₄.sees left.1)).bind fun _ s₅ _ keeps₅ => ?_
    refine Agrees.openBlock labels.body fun s₆ keeps₆ => ?_
    have keepsBody := (keeps₄.trans keeps₅).trans keeps₆
    have seen := keepsBody.sees left.1
    refine (withFrame_agrees ((lowerStmt_agrees body seen.enter).mono
      fun _ _ _ left => left.within seen)).bind fun _ s₇ _ keeps₇ => ?_
    rw [← bind_pure (checkStmt? _ _ _)]
    refine (lowerOptional_agrees post (keeps₇.sees seen)).bind fun _ s₈ w after => ?_
    refine ⟨after.2.trans ?_, after.1.decl_eq.trans sees.decl_eq.symm⟩
    rw [(keepsBody.trans keeps₇).1, left.2, keepsInit.1]
    rfl
  | .exprStmt _ expr, s, v, sees => by
    simp only [lowerStmt, checkStmt]
    refine (lowerExpr_agrees expr sees).bind fun n t _ keeps => ?_
    exact ⟨keeps.sees sees, congrArg List.tail keeps.1⟩
  | .foreign typeName, s, v, sees => by
    simp only [lowerStmt, checkStmt]
    exact .unsupported sees _ _ _

theorem lowerOptional_agrees : ∀ (part : Option Stmt) {s : State} {v : Visible},
    Sees s decl v →
    Agrees (lowerOptional part s) (checkStmt? decl part v) (fun _ t w => Leaves s decl t w)
  | none, s, v, sees => by
    simp only [lowerOptional, checkStmt?]
    exact ⟨sees, rfl⟩
  | some stmt, s, v, sees => by
    simp only [lowerOptional, checkStmt?]
    exact lowerStmt_agrees stmt sees

theorem lowerItems_agrees : ∀ (items : Except ReadFault (List Stmt)) {s : State} {v : Visible},
    Sees s decl v →
    Agrees (lowerItems items s) (checkItems decl items v) (fun _ t w => Leaves s decl t w)
  | .error fault, s, v, _ => by
    simp only [lowerItems, checkItems]
    exact (rfl : Fault.unreadable fault = .unreadable fault)
  | .ok items, s, v, sees => by
    simp only [lowerItems, checkItems]
    exact lowerStmts_agrees items sees

theorem lowerStmts_agrees : ∀ (stmts : List Stmt) {s : State} {v : Visible}, Sees s decl v →
    Agrees (lowerStmts stmts s) (checkStmts decl stmts v) (fun _ t w => Leaves s decl t w)
  | [], s, v, sees => by
    simp only [lowerStmts, checkStmts]
    exact ⟨sees, rfl⟩
  | stmt :: rest, s, v, sees => by
    simp only [lowerStmts, checkStmts]
    refine (lowerStmt_agrees stmt sees).bind fun _ t w left => ?_
    refine (lowerStmts_agrees rest left.1).mono fun _ _ _ after => ?_
    exact ⟨after.1, after.2.trans left.2⟩

end

end

end SlotIR.Check
