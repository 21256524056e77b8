/-
  SlotIR.Proofs.Emission.Sound
  ────────────────────────────
  **LOWERING EMITS CODE OF WHAT IT LOWERS.**

  If a step of lowering succeeds, the state it reaches is the first one
  extended by code of the syntax, and by nothing else.  One lemma for each
  function of the lowering, in the same order:

    • expressions     `lowerExpr_sound`
    • statements      `lowerStmt_sound`
    • functions       `lowerFunctions_sound`
    • modules         `generate_sound`
-/
import SlotIR.Proofs.Emission.Code

namespace SlotIR

open Lower (resolve lookup declare emit draw define read newSlot newLabel withFrame)
open Lower (bind_eq_ok pure_eq_ok read_eq_ok emit_eq_ok draw_eq_ok define_eq_ok newLabel_eq_ok
  resolve_eq_ok fail_ne_ok unsupported_ne_ok)

variable {s t : State}

/-! ## §1. Expressions. -/

/-- An expression is lowered to straight code of it.  Numbers are drawn; nothing is reserved or
bound. -/
theorem lowerExpr_sound : ∀ (e : Expr) {s t : State} {d : Nat}, lowerExpr e s = .ok d t →
    ∃ c n, ExprCode s.scope s.nextId e c d n ∧ t = s.extend (straight c) (s.layout.drawTo n)
  | .ident id, s, t, d, h => by
    simp only [lowerExpr, bind_eq_ok, resolve_eq_ok, define_eq_ok] at h
    obtain ⟨source, _, ⟨means, rfl⟩, rfl, rfl⟩ := h
    exact ⟨_, _, .ident means, by simp⟩
  | .number pos value, s, t, d, h => by
    simp only [lowerExpr, bind_eq_ok, draw_eq_ok, read_eq_ok, emit_eq_ok, pure_eq_ok] at h
    obtain ⟨_, _, ⟨rfl, rfl⟩, n, _, ⟨rfl, rfl⟩, _, _, rfl, rfl, rfl⟩ := h
    exact ⟨_, _, .number, by simp⟩
  | .binary _ (.unknown _) _ _, s, t, d, h => by simp [lowerExpr] at h
  | .binary pos (.known op) left right, s, t, d, h => by
    simp only [lowerExpr, bind_eq_ok] at h
    obtain ⟨l, u, first, r, v, second, rest⟩ := h
    obtain ⟨c, m, cCode, rfl⟩ := lowerExpr_sound left first
    obtain ⟨c', k, dCode, rfl⟩ := lowerExpr_sound right second
    cases op with
    | arith op =>
      simp only [define_eq_ok] at rest
      obtain ⟨rfl, rfl⟩ := rest
      exact ⟨_, _, .arith cCode dCode, by simp⟩
    | compare op =>
      simp only [bind_eq_ok, define_eq_ok] at rest
      obtain ⟨_, _, ⟨rfl, rfl⟩, rfl, rfl⟩ := rest
      exact ⟨_, _, .compare cCode dCode, by simp⟩
  | .unary _ (.unknown _) _, s, t, d, h => by simp [lowerExpr] at h
  | .unary pos (.known .minus) operand, s, t, d, h => by
    simp only [lowerExpr, bind_eq_ok, define_eq_ok] at h
    obtain ⟨l, u, first, rfl, rfl⟩ := h
    obtain ⟨c, m, code, rfl⟩ := lowerExpr_sound operand first
    exact ⟨_, _, .minus code, by simp⟩
  | .unary pos (.known .plus) operand, s, t, d, h => by
    simp only [lowerExpr] at h
    obtain ⟨c, m, code, rfl⟩ := lowerExpr_sound operand h
    exact ⟨_, _, .plus code, rfl⟩
  | .paren pos inner, s, t, d, h => by
    simp only [lowerExpr] at h
    obtain ⟨c, m, code, rfl⟩ := lowerExpr_sound inner h
    exact ⟨_, _, .paren code, rfl⟩
  | .call pos callee args, s, t, d, h => by
    -- the callee is resolved first, then the number of arguments is checked
    simp only [lowerExpr, bind_eq_ok, read_eq_ok, resolve_eq_ok] at h
    obtain ⟨id, _, ⟨rfl, rfl⟩, fn, _, ⟨means, rfl⟩, rest⟩ := h
    cases args with
    | error fault => simp at rest
    | ok items =>
      rcases items with _ | ⟨arg, _ | ⟨second, more⟩⟩
      · simp at rest
      · simp only [bind_eq_ok, define_eq_ok] at rest
        obtain ⟨a, u, first, rfl, rfl⟩ := rest
        obtain ⟨c, m, code, rfl⟩ := lowerExpr_sound arg first
        exact ⟨_, _, .call means code, by simp⟩
      · simp at rest
  | .foreign _, s, t, d, h => by simp [lowerExpr] at h
termination_by structural e => e

/-- Expressions are lowered one after another, and so their codes follow one another. -/
theorem lowerExprs_sound : ∀ (es : List Expr) {s t : State} {ds : List Nat},
    lowerExprs es s = .ok ds t →
    ∃ c n, ExprsCode s.scope s.nextId es c ds n ∧ t = s.extend (straight c) (s.layout.drawTo n)
  | [], s, t, ds, h => by
    obtain ⟨rfl, rfl⟩ := pure_eq_ok.1 h
    exact ⟨_, _, .nil, by simp⟩
  | e :: rest, s, t, ds, h => by
    simp only [lowerExprs, bind_eq_ok, pure_eq_ok] at h
    obtain ⟨d, u, first, ds, v, others, rfl, rfl⟩ := h
    obtain ⟨c, m, code, rfl⟩ := lowerExpr_sound e first
    obtain ⟨c', n, codes, rfl⟩ := lowerExprs_sound rest others
    exact ⟨_, _, .cons code codes, by simp⟩

/-- Where there is no initial value, there is no code, and the value is zero. -/
theorem lowerInitial_sound {value : Option Expr} {v : Operand}
    (h : lowerInitial value s = .ok v t) :
    ∃ c n, InitialCode s.scope s.nextId value c v n
      ∧ t = s.extend (straight c) (s.layout.drawTo n) := by
  cases value with
  | none =>
    obtain ⟨rfl, rfl⟩ := pure_eq_ok.1 h
    exact ⟨_, _, .zero, by simp⟩
  | some e =>
    simp only [lowerInitial, bind_eq_ok, pure_eq_ok] at h
    obtain ⟨d, u, first, rfl, rfl⟩ := h
    obtain ⟨c, n, code, rfl⟩ := lowerExpr_sound e first
    exact ⟨_, _, .value code, rfl⟩

/-! ## §2. Assignments. -/

/-- A slot is reserved without a line: the lines that reserve slots are put in at the end of the
function. -/
theorem newSlot_sound {name : String} {pos : Pos} {slot : Slot}
    (h : newSlot name pos s = .ok slot t) :
    ∃ n, NewSlot s.nextId s.slots name pos slot n
      ∧ t = s.extend [] { s.layout with nextId := n, slots := s.slots ++ [slot] } := by
  unfold newSlot at h
  -- a number is drawn only if the plain text is taken
  by_cases used : (⟨name, pos, none⟩ : Slot).text ∈ s.reserved.taken
  · simp only [used, if_true] at h
    cases h
    exact ⟨_, .numbered (Reserved.mem_taken.1 used),
      State.eq_extend (List.append_nil s.lines).symm rfl⟩
  · simp only [used, if_false] at h
    cases h
    exact ⟨_, .plain (mt Reserved.mem_taken.2 used),
      State.eq_extend (List.append_nil s.lines).symm rfl⟩

/-- To declare a local variable is to reserve a slot and to bind the name to it, unless the frame
binds the name already. -/
theorem declareLocal_sound {name : Name} {pos : Pos} {slot : Slot}
    (h : declareLocal name pos s = .ok slot t) :
    ∃ τ, Local s.layout name pos slot τ ∧ t = s.extend [] τ := by
  simp only [declareLocal, bind_eq_ok, pure_eq_ok] at h
  obtain ⟨slot', u, reserved, found, v, declared, rfl, rfl⟩ := h
  obtain ⟨n, new, rfl⟩ := newSlot_sound reserved
  obtain ⟨key, keyed, opened, -, rfl⟩ := Lower.declare_eq_ok declared
  exact ⟨_, .intro keyed opened new, by simp [Layout.bind]⟩

/-- The targets of `:=` are settled before any store, so this part emits nothing. -/
theorem defineTargets_sound : ∀ (targets : List (Reading Ident)) {s t : State} {u : Unit},
    defineTargets targets s = .ok u t →
    ∃ τ, Defines s.layout targets τ ∧ t = s.extend [] τ
  | [], s, t, u, h => by
    obtain ⟨-, rfl⟩ := pure_eq_ok.1 h
    exact ⟨_, .nil, by simp⟩
  | target :: rest, s, t, u, h => by
    simp only [defineTargets, declareIfNew, bind_eq_ok, read_eq_ok] at h
    obtain ⟨id, _, ⟨rfl, rfl⟩, _, v, ⟨found, w, looked, bound⟩, others⟩ := h
    obtain ⟨τ, defines, rfl⟩ := defineTargets_sound rest others
    cases found with
    | some storage =>
      obtain ⟨means, rfl⟩ := Lower.lookup_eq_some.1 looked
      obtain ⟨-, rfl⟩ := pure_eq_ok.1 bound
      exact ⟨τ, .visible means defines, rfl⟩
    | none =>
      -- the look-up found nothing, so the declaration is not refused
      obtain ⟨unbound, -, rfl⟩ := Lower.lookup_eq_none looked
      simp only [bind_eq_ok, pure_eq_ok] at bound
      obtain ⟨slot, x, declared, -, rfl⟩ := bound
      obtain ⟨ρ, new, rfl⟩ := declareLocal_sound declared
      exact ⟨τ, .fresh unbound new defines, by simp⟩

theorem prepareTargets_sound {op : AssignOp} {targets : List (Reading Ident)} {u : Unit}
    (h : prepareTargets op targets s = .ok u t) :
    ∃ τ, Prepares s.layout op targets τ ∧ t = s.extend [] τ := by
  cases op with
  | assign =>
    obtain ⟨-, rfl⟩ := pure_eq_ok.1 h
    exact ⟨_, .assign, by simp⟩
  | define =>
    obtain ⟨τ, defines, rfl⟩ := defineTargets_sound targets h
    exact ⟨τ, .define defines, rfl⟩

/-- Every target is looked up again when its turn to be stored comes. -/
theorem storeTargets_sound : ∀ (pairs : List (Reading Ident × Nat)) {s t : State} {u : Unit},
    storeTargets pairs s = .ok u t →
    ∃ c, Stores s.scope pairs c ∧ t = s.extend (straight c) s.layout
  | [], s, t, u, h => by
    obtain ⟨-, rfl⟩ := pure_eq_ok.1 h
    exact ⟨_, .nil, by simp⟩
  | (target, value) :: rest, s, t, u, h => by
    simp only [storeTargets, bind_eq_ok, read_eq_ok, resolve_eq_ok, emit_eq_ok] at h
    obtain ⟨id, _, ⟨rfl, rfl⟩, storage, _, ⟨means, rfl⟩, _, _, rfl, others⟩ := h
    obtain ⟨c, stores, rfl⟩ := storeTargets_sound rest others
    exact ⟨_, .cons means stores, by simp⟩

/-- The three parts of an assignment, in order: values, new names, stores. -/
theorem lowerAssign_sound {pos : Pos} {op : Operator AssignOp}
    {targets : Reading (List (Reading Ident))} {values : Reading (List Expr)} {u : Unit}
    (h : lowerAssign op targets values s = .ok u t) :
    ∃ c τ, Code s.layout (.stmt (.assign pos op targets values)) c τ ∧ t = s.extend c τ := by
  cases op with
  | unknown shown => simp [lowerAssign] at h
  | known op =>
    simp only [lowerAssign, bind_eq_ok, read_eq_ok] at h
    obtain ⟨ids, _, ⟨rfl, rfl⟩, es, _, ⟨rfl, rfl⟩, rest⟩ := h
    by_cases lengths : ids.length = es.length
    · simp only [lengths, if_true, bind_eq_ok] at rest
      obtain ⟨numbers, v, evaluated, _, w, prepared, stored⟩ := rest
      obtain ⟨c, n, evaluates, rfl⟩ := lowerExprs_sound es evaluated
      obtain ⟨τ, prepares, rfl⟩ := prepareTargets_sound prepared
      obtain ⟨c', stores, rfl⟩ := storeTargets_sound _ stored
      exact ⟨_, _, .assign lengths evaluates prepares stores, by simp⟩
    · simp [lengths] at rest

/-! ## §3. Loops. -/

/-- The labels of a loop take four numbers in a row. -/
theorem newLoopLabels_sound {pos : Pos} {labels : LoopLabels}
    (h : newLoopLabels pos s = .ok labels t) :
    labels = loopLabels pos s.nextId
      ∧ t = s.extend [] (s.layout.drawTo (s.nextId + 4)) := by
  simp only [newLoopLabels, bind_eq_ok, newLabel_eq_ok, pure_eq_ok] at h
  obtain ⟨_, _, ⟨rfl, rfl⟩, _, _, ⟨rfl, rfl⟩, _, _, ⟨rfl, rfl⟩, _, _, ⟨rfl, rfl⟩, rfl, rfl⟩ := h
  exact ⟨rfl, by simp⟩

@[simp] theorem openBlock_eq_ok {label : Label} {u : Unit} :
    openBlock label s = .ok u t ↔ t = s.extend [.blank, .label label] s.layout := by
  simp only [openBlock, bind_eq_ok, emit_eq_ok]
  constructor
  · rintro ⟨_, _, rfl, rfl⟩
    simp
  · rintro rfl
    exact ⟨(), _, rfl, by simp⟩

@[simp] theorem jumpTo_eq_ok {label : Label} {u : Unit} :
    jumpTo label s = .ok u t ↔ t = s.extend [.instr (.jump label)] s.layout :=
  emit_eq_ok

/-- The test of a loop ends its block, with a branch on the condition or a jump if there is none. -/
theorem lowerTest_sound {labels : LoopLabels} {cond : Option Expr} {u : Unit}
    (h : lowerTest labels cond s = .ok u t) :
    ∃ c n, TestCode s.scope labels s.nextId cond c n
      ∧ t = s.extend (straight c) (s.layout.drawTo n) := by
  cases cond with
  | none =>
    simp only [lowerTest, jumpTo_eq_ok] at h
    subst h
    exact ⟨_, _, .always, by simp⟩
  | some e =>
    simp only [lowerTest, bind_eq_ok, define_eq_ok, emit_eq_ok] at h
    obtain ⟨d, u, first, _, _, ⟨rfl, rfl⟩, rfl⟩ := h
    obtain ⟨c, m, code, rfl⟩ := lowerExpr_sound e first
    exact ⟨_, _, .value code, by simp⟩

/-! ## §4. Statements. -/

mutual

/-- A statement is lowered to code of it, which takes the layout before it to the layout after it.
-/
theorem lowerStmt_sound : ∀ (stmt : Stmt) {s t : State} {u : Unit}, lowerStmt stmt s = .ok u t →
    ∃ c τ, Code s.layout (.stmt stmt) c τ ∧ t = s.extend c τ
  | .varDecl pos name value, s, t, u, h => by
    simp only [lowerStmt, bind_eq_ok, emit_eq_ok] at h
    obtain ⟨v, w, valued, slot, x, declared, rfl⟩ := h
    obtain ⟨c, n, initial, rfl⟩ := lowerInitial_sound valued
    obtain ⟨τ, new, rfl⟩ := declareLocal_sound declared
    exact ⟨_, _, .varDecl initial new, by simp⟩
  | .assign pos op targets values, s, t, u, h => by
    simp only [lowerStmt] at h
    exact lowerAssign_sound h
  | .block pos stmts, s, t, u, h => by
    simp only [lowerStmt] at h
    obtain ⟨w, inner, rfl⟩ := Lower.withFrame_eq_ok h
    obtain ⟨items, c, τ, rfl, code, rfl⟩ := lowerItems_sound stmts inner
    exact ⟨_, _, .block code, by simp⟩
  | .loop pos body init cond post, s, t, u, h => by
    simp only [lowerStmt] at h
    obtain ⟨w, framed, rfl⟩ := Lower.withFrame_eq_ok h
    simp only [bind_eq_ok, jumpTo_eq_ok, openBlock_eq_ok] at framed
    -- one step for each line and part of the loop, in the order of emission
    obtain ⟨labels, _, drawn, _, _, rfl, _, _, rfl, _, _, initialised, _, _, rfl, _, _, rfl,
      _, _, tested, _, _, rfl, _, _, ran, _, _, finished, _, _, rfl, rfl⟩ := framed
    obtain ⟨rfl, rfl⟩ := newLoopLabels_sound drawn
    obtain ⟨cInit, ρ, initial, rfl⟩ := lowerOptional_sound init initialised
    obtain ⟨cTest, n, test, rfl⟩ := lowerTest_sound tested
    obtain ⟨x, inside, rfl⟩ := Lower.withFrame_eq_ok ran
    obtain ⟨cBody, ω, inner, rfl⟩ := lowerStmt_sound body inside
    obtain ⟨cPost, τ, final, rfl⟩ := lowerOptional_sound post finished
    exact ⟨_, _, .loop initial test inner final, by simp [loopLines, seam]⟩
  | .exprStmt pos e, s, t, u, h => by
    simp only [lowerStmt, bind_eq_ok, pure_eq_ok] at h
    obtain ⟨d, w, evaluated, -, rfl⟩ := h
    obtain ⟨c, n, code, rfl⟩ := lowerExpr_sound e evaluated
    exact ⟨_, _, .expr code, rfl⟩
  | .foreign _, s, t, u, h => by simp [lowerStmt] at h
termination_by structural stmt => stmt

theorem lowerOptional_sound : ∀ (part : Option Stmt) {s t : State} {u : Unit},
    lowerOptional part s = .ok u t →
    ∃ c τ, Code s.layout (.optional part) c τ ∧ t = s.extend c τ
  | none, s, t, u, h => by
    simp only [lowerOptional, pure_eq_ok] at h
    obtain ⟨-, rfl⟩ := h
    exact ⟨_, _, .absent, by simp⟩
  | some stmt, s, t, u, h => by
    simp only [lowerOptional] at h
    obtain ⟨c, τ, code, rfl⟩ := lowerStmt_sound stmt h
    exact ⟨c, τ, .present code, rfl⟩
termination_by structural part => part

/-- Statements that cannot be read are not lowered; if lowering succeeds, they could be. -/
theorem lowerItems_sound : ∀ (stmts : Except ReadFault (List Stmt)) {s t : State} {u : Unit},
    lowerItems stmts s = .ok u t →
    ∃ items c τ, stmts = .ok items ∧ Code s.layout (.sequence items) c τ ∧ t = s.extend c τ
  | .error _, s, t, u, h => by simp [lowerItems] at h
  | .ok items, s, t, u, h => by
    simp only [lowerItems] at h
    obtain ⟨c, τ, code, rfl⟩ := lowerStmts_sound items h
    exact ⟨items, c, τ, rfl, code, rfl⟩
termination_by structural stmts => stmts

/-- Of statements in a row, each starts in the layout that the one before it left. -/
theorem lowerStmts_sound : ∀ (items : List Stmt) {s t : State} {u : Unit},
    lowerStmts items s = .ok u t →
    ∃ c τ, Code s.layout (.sequence items) c τ ∧ t = s.extend c τ
  | [], s, t, u, h => by
    simp only [lowerStmts, pure_eq_ok] at h
    obtain ⟨-, rfl⟩ := h
    exact ⟨_, _, .nil, by simp⟩
  | stmt :: rest, s, t, u, h => by
    simp only [lowerStmts, bind_eq_ok] at h
    obtain ⟨_, w, ran, others⟩ := h
    obtain ⟨c, ρ, first, rfl⟩ := lowerStmt_sound stmt ran
    obtain ⟨c', τ, codes, rfl⟩ := lowerStmts_sound rest others
    exact ⟨_, _, .cons first codes, by simp⟩
termination_by structural items => items

end

/-! ## §5. Functions. -/

/-- The state adds lines to an earlier one and has a layout; the declaration at work is left
open. -/
def Reaches (s : State) (code : List Line) (τ : Layout) (t : State) : Prop :=
  t.lines = s.lines ++ code ∧ t.layout = τ

theorem reaches_extend (s : State) (code : List Line) (τ : Layout) :
    Reaches s code τ (s.extend code τ) := ⟨rfl, rfl⟩

/-- Code that follows code, from a state to a state and on to a third. -/
theorem Reaches.trans {u : State} {c d : List Line} {σ τ : Layout} (first : Reaches s c σ t)
    (second : Reaches t d τ u) : Reaches s (c ++ d) τ u := by
  obtain ⟨lines, rfl⟩ := first
  obtain ⟨lines', rfl⟩ := second
  exact ⟨by rw [lines', lines, List.append_assoc], rfl⟩

/-- A name of the package is declared if it is not `init` and new to the frame. -/
theorem declareGlobal_sound {typeName : String} {name : Name} {symbol : String} {u : Unit}
    (h : Lower.declareGlobal typeName name (.symbol symbol) s = .ok u t) :
    ∃ τ, Binds s.layout name symbol τ ∧ t = s.extend [] τ := by
  unfold Lower.declareGlobal at h
  split at h
  · simp at h
  · rename_i allowed
    simp only [bind_eq_ok] at h
    obtain ⟨found, v, declared, rest⟩ := h
    obtain ⟨key, keyed, opened, rfl, rfl⟩ := Lower.declare_eq_ok declared
    obtain ⟨frame, outer, scope⟩ := List.exists_cons_of_ne_nil opened
    have head : s.scope.head?.bind (·.find? key) = frame.find? key := by rw [scope]; rfl
    rw [head] at rest
    cases free : frame.find? key with
    | some storage =>
      rw [free] at rest
      simp at rest
    | none =>
      rw [free] at rest
      obtain ⟨-, rfl⟩ := pure_eq_ok.1 rest
      exact ⟨_, .intro keyed scope free (by simpa using allowed), rfl⟩

/-- The slots of a definition are reserved at its start, also those that only its last statement
needed. -/
theorem lowerDefinition_sound {symbol : String} {stmts : Reading (List Stmt)} {u : Unit}
    (h : lowerDefinition symbol stmts s = .ok u t) :
    ∃ items c τ, stmts = .ok items ∧ Code s.layout (.sequence items) c τ
      ∧ Reaches s (definitionLines symbol τ.slots c) τ t := by
  simp only [lowerDefinition, bind_eq_ok, emit_eq_ok] at h
  obtain ⟨_, _, rfl, place, v, counted, _, w, ran, _, x, inserted, _, _, rfl, _, _, rfl, rfl⟩ := h
  cases counted
  obtain ⟨items, c, τ, rfl, code, rfl⟩ := lowerItems_sound stmts ran
  cases inserted
  -- the allocas are spliced in after the lines that stood before the body
  refine ⟨items, c, τ, rfl, code, ?_, rfl⟩
  have before : (s.lines ++ [Line.define symbol] ++ c).take
      (s.lines ++ [Line.define symbol]).length = s.lines ++ [Line.define symbol] := List.take_left
  have after : (s.lines ++ [Line.define symbol] ++ c).drop
      (s.lines ++ [Line.define symbol]).length = c := List.drop_left
  show List.take _ (s.lines ++ [Line.define symbol] ++ c) ++ _
    ++ List.drop _ (s.lines ++ [Line.define symbol] ++ c) ++ [_] ++ [_] ++ [_] = _
  rw [State.lines_extend, before, after]
  simp [definitionLines, straight, Function.comp_def]

/-- A function without a body is declared.  One with a body has a frame of its own, which is gone
after it, and starts without slots. -/
theorem lowerBody_sound {name : Name} {symbol : String} {body : Body} {u : Unit}
    (h : lowerBody name symbol body s = .ok u t) :
    (body = .external ∧ Reaches s [.declare symbol, .blank] s.layout t)
      ∨ ∃ items c τ, body = .stmts (.ok items)
          ∧ Code { s.layout.enter with slots := [] } (.sequence items) c τ
          ∧ Reaches s (definitionLines symbol τ.slots c) τ.leave t := by
  cases body with
  | external =>
    simp only [lowerBody, bind_eq_ok, emit_eq_ok] at h
    obtain ⟨_, _, rfl, rfl⟩ := h
    exact .inl ⟨rfl, by simp [State.extend], rfl⟩
  | stmts stmts =>
    simp only [lowerBody, bind_eq_ok] at h
    obtain ⟨_, v, started, _, w, framed, finished⟩ := h
    cases started
    cases finished
    obtain ⟨x, inside, rfl⟩ := Lower.withFrame_eq_ok framed
    obtain ⟨items, c, τ, rfl, code, lines, rfl⟩ := lowerDefinition_sound inside
    refine .inr ⟨items, c, _, rfl, code, ?_, rfl⟩
    show x.lines ++ [] = _
    rw [List.append_nil, lines]
    simp [State.extend]

/-- Functions follow one another in the order of the file, each bound before its body is lowered. -/
theorem lowerFunctions_sound (options : Options) (package : String) :
    ∀ (funcs : List (Reading FuncEntry)) {s t : State} {u : Unit},
    lowerFunctions options package funcs s = .ok u t →
    ∃ c τ, FunctionsCode options package s.layout funcs c τ ∧ Reaches s c τ t
  | [], s, t, u, h => by
    obtain ⟨-, rfl⟩ := pure_eq_ok.1 h
    exact ⟨_, _, .nil, by simp, rfl⟩
  | entry :: rest, s, t, u, h => by
    simp only [lowerFunctions, lowerFunction, bind_eq_ok, read_eq_ok] at h
    obtain ⟨fn, _, ⟨rfl, rfl⟩, _, v, ⟨_, w, declared, body, _, ⟨readable, rfl⟩, lowered⟩,
      others⟩ := h
    obtain ⟨ρ, binds, rfl⟩ := declareGlobal_sound declared
    obtain ⟨c, τ, codes, reaches⟩ := lowerFunctions_sound options package rest others
    have bound := reaches_extend s [] ρ
    rcases lowerBody_sound lowered with ⟨rfl, here⟩ | ⟨items, code, ω, rfl, inner, here⟩
    · rw [here.2] at codes
      exact ⟨_, τ, .external binds readable codes, (bound.trans here).trans reaches⟩
    · rw [here.2] at codes
      exact ⟨_, τ, .defined binds readable inner codes, (bound.trans here).trans reaches⟩

/-! ## §6. Package variables. -/

/-- The package variables, one line for each, bound in the order of the file. -/
theorem lowerGlobals_sound (options : Options) (package : String) :
    ∀ (globals : List (Reading GlobalEntry)) {s t : State} {u : Unit},
    lowerGlobals options package globals s = .ok u t →
    ∃ c τ, GlobalsCode options package s.layout globals c τ ∧ Reaches s c τ t
  | [], s, t, u, h => by
    obtain ⟨-, rfl⟩ := pure_eq_ok.1 h
    exact ⟨_, _, .nil, by simp, rfl⟩
  | entry :: rest, s, t, u, h => by
    simp only [lowerGlobals, bind_eq_ok, read_eq_ok, emit_eq_ok] at h
    obtain ⟨g, _, ⟨rfl, rfl⟩, _, v, declared, _, _, rfl, others⟩ := h
    obtain ⟨ρ, binds, rfl⟩ := declareGlobal_sound declared
    obtain ⟨c, τ, codes, reaches⟩ := lowerGlobals_sound options package rest others
    refine ⟨_, τ, .cons binds codes, ?_, reaches.2⟩
    rw [reaches.1]
    simp

theorem endGlobals_sound {globals : List (Reading GlobalEntry)} {u : Unit}
    (h : endGlobals globals s = .ok u t) : Reaches s (globalsEnd globals) s.layout t := by
  cases globals with
  | nil =>
    obtain ⟨-, rfl⟩ := pure_eq_ok.1 h
    exact ⟨(List.append_nil _).symm, rfl⟩
  | cons entry rest =>
    obtain rfl := emit_eq_ok.1 h
    exact reaches_extend s _ _

/-- Initial values are stored in the order of the file. -/
theorem storeInitials_sound : ∀ (globals : List (Reading GlobalEntry)) {s t : State} {u : Unit},
    storeInitials globals s = .ok u t →
    ∃ c n, InitialsCode s.scope s.nextId globals c n
      ∧ Reaches s (straight c) (s.layout.drawTo n) t
  | [], s, t, u, h => by
    obtain ⟨-, rfl⟩ := pure_eq_ok.1 h
    exact ⟨_, _, .nil, by simp, rfl⟩
  | entry :: rest, s, t, u, h => by
    simp only [storeInitials, bind_eq_ok, read_eq_ok, resolve_eq_ok, emit_eq_ok] at h
    obtain ⟨g, _, ⟨rfl, rfl⟩, _, v, noted, initial, _, ⟨readable, rfl⟩, value, w, valued,
      storage, _, ⟨means, rfl⟩, _, _, rfl, others⟩ := h
    cases noted
    obtain ⟨c, n, code, rfl⟩ := lowerInitial_sound valued
    obtain ⟨c', k, codes, reaches⟩ := storeInitials_sound rest others
    refine ⟨_, k, .cons readable code means codes, ?_, reaches.2⟩
    rw [reaches.1]
    simp [State.extend]

/-- The initialiser is a definition with one block and without slots. -/
theorem lowerInitialiser_sound {options : Options} {file : SourceFile}
    {globals : List (Reading GlobalEntry)} {u : Unit} (readable : file.globals = .ok globals)
    (h : lowerInitialiser options file s = .ok u t) :
    ∃ c n, InitialsCode s.scope s.nextId globals c n
      ∧ Reaches s (initialiserLines (options.symbol file.package.text "init") c)
          (s.layout.drawTo n) t := by
  simp only [lowerInitialiser, bind_eq_ok, read_eq_ok, emit_eq_ok, readable] at h
  obtain ⟨_, _, rfl, _, _, ⟨same, rfl⟩, _, v, stored, _, w, noted, _, _, rfl, rfl⟩ := h
  cases same
  cases noted
  obtain ⟨c, n, codes, lines, layout⟩ := storeInitials_sound globals stored
  refine ⟨c, n, codes, ?_, layout⟩
  show (v.lines ++ [_]) ++ [_] = _
  rw [lines]
  simp [initialiserLines]

/-! ## §7. Modules. -/

/-- The entry point is there exactly if it is due, and then it is one line. -/
theorem emitEntry_sound {options : Options} {file : SourceFile}
    {funcs : List (Reading FuncEntry)} {u : Unit} (readable : file.funcs = .ok funcs)
    (h : emitEntry options file s = .ok u t) :
    ∃ due, EntryDue options file funcs due ∧ Reaches s (entryLine options file due) s.layout t := by
  unfold emitEntry at h
  unfold EntryDue
  by_cases main : file.package.same options.mainPackage = true
  · simp only [main, if_true, bind_eq_ok, read_eq_ok, readable] at h ⊢
    obtain ⟨_, _, ⟨same, rfl⟩, due, _, ⟨found, rfl⟩, rest⟩ := h
    cases same
    refine ⟨due, found, ?_⟩
    cases due with
    | true =>
      obtain rfl := emit_eq_ok.1 rest
      exact reaches_extend s _ _
    | false =>
      obtain ⟨-, rfl⟩ := pure_eq_ok.1 rest
      exact ⟨(List.append_nil _).symm, rfl⟩
  · simp only [main] at h ⊢
    obtain ⟨-, rfl⟩ := pure_eq_ok.1 h
    exact ⟨false, rfl, (List.append_nil _).symm, rfl⟩

/-- **A module is the text of code of its file.** -/
theorem generate_sound {options : Options} {file : SourceFile} {text : String}
    (h : generate options file s = .ok text t) :
    text = moduleText t.lines ∧ ModuleCode options file s.slots t.lines t.nextId := by
  simp only [generate, emitHeader, bind_eq_ok, emit_eq_ok] at h
  obtain ⟨_, _, started, _, _, ⟨_, _, rfl, _, _, rfl, rfl⟩, _, v, lowered, _, w, ended, shown⟩ := h
  cases started
  cases shown
  refine ⟨rfl, ?_⟩
  obtain ⟨x, framed, rfl⟩ := Lower.withFrame_eq_ok lowered
  simp only [bind_eq_ok, read_eq_ok] at framed
  obtain ⟨globals, _, ⟨readable, rfl⟩, _, v1, declared, _, v2, separated, funcs, _,
    ⟨readable', rfl⟩, _, v3, functions, initialised⟩ := framed
  obtain ⟨vars, ρ, varsCode, lines1, rfl⟩ := lowerGlobals_sound _ _ globals declared
  obtain ⟨lines2, layout2⟩ := endGlobals_sound separated
  obtain ⟨routines, τ, routinesCode, lines3, rfl⟩ := lowerFunctions_sound _ _ funcs functions
  obtain ⟨initials, n, initialsCode, lines4, layout4⟩ :=
    lowerInitialiser_sound readable initialised
  obtain ⟨due, entry, lines5, layout5⟩ := emitEntry_sound readable' ended
  rw [layout2] at routinesCode
  have lines : t.lines = [.package file.package.text, .builtins, .blank] ++ vars
      ++ globalsEnd globals ++ routines
      ++ initialiserLines (options.symbol file.package.text "init") initials
      ++ entryLine options file due := by
    rw [lines5]
    show x.lines ++ [] ++ _ = _
    rw [lines4, lines3, lines2, lines1]
    simp [State.extend, List.append_assoc]
  -- the entry point draws nothing
  have counter : t.nextId = n :=
    (congrArg Layout.nextId layout5).trans (congrArg Layout.nextId layout4)
  rw [lines, counter]
  exact .intro readable readable' varsCode routinesCode initialsCode entry

end SlotIR
