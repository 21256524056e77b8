/-
  SlotIR.Proofs.Meaning.Simulation
  ────────────────────────────────
  **CODE OF STATEMENTS DOES WHAT THEY SAY.**

  One induction on the code of a piece (`Code.simulated`).  Between two
  statements the slots of visible names hold their variables; how a piece
  changes that is bounded by `Continues`: which variables are held by the
  slots that were there before it stays the same, so the names that are
  visible around a block agree again when it is left, and those of a loop
  each time its condition is tested.

  The code stands in the body of a function, where the label of a loop
  stands once: that is what makes a jump to it go on with the lines of
  this loop.
-/
import SlotIR.Proofs.Emission.Assignment
import SlotIR.Proofs.Meaning.Expressions

namespace SlotIR

section

variable {handler : Handler} {body k : List Line} {rounds n m d : Nat} {holds : String → Nat}
  {reserved : List String} {scope : Chain Key Storage} {env : Env} {w : World} {c : Config}

/-! ## §1. Assignments. -/

/-- What follows lines: the machine is after them, and names agree.  The slots that were there before
hold the variables that they held. -/
structure Continues (holds : String → Nat) (reserved : List String) (slots : List Slot)
    (scope : Chain Key Storage) (k : List Line) (env : Env) (w : World) (c : Config) : Prop where
  rest : c.rest = k
  agree : ∃ later, (∀ slot ∈ slots, later slot.text = holds slot.text)
    ∧ Agree later reserved scope env w c

theorem Continues.shows {slots : List Slot} (h : Continues holds reserved slots scope k env w c) :
    Shows w c := by
  obtain ⟨_, _, agree⟩ := h.agree
  exact agree.shows

/-- Seen from before an earlier piece. -/
theorem Continues.since {later : String → Nat} {slots more : List Slot}
    (h : Continues later reserved more scope k env w c)
    (same : ∀ slot ∈ slots, later slot.text = holds slot.text)
    (subset : ∀ slot ∈ slots, slot ∈ more) : Continues holds reserved slots scope k env w c := by
  obtain ⟨last, kept, agree⟩ := h.agree
  refine ⟨h.rest, last, fun slot member => ?_, agree⟩
  exact (kept slot (subset slot member)).trans (same slot member)

/-- Back to the names that were visible before. -/
theorem Continues.back {slots : List Slot} {inner : Chain Key Storage} {env' : Env}
    (h : Continues holds reserved slots inner k env' w c)
    (names : env = Chain.map (bindingOf holds) scope)
    (subset : ∀ place ∈ Chain.values scope, place ∈ Chain.values inner)
    (owned : ∀ slot, .slot slot ∈ Chain.values scope → slot ∈ slots) :
    Continues holds reserved slots scope k env w c := by
  obtain ⟨last, kept, agree⟩ := h.agree
  exact ⟨h.rest, last, kept, agree.restrict subset (fun slot bound => kept slot (owned slot bound))
    names⟩

theorem bind_of_ok {α β : Type} {x : Run α} {f : α → Run β} {w w' : World} {a : α}
    (h : x w = .ok a w') : (x >>= f) w = f a w' := by
  show EStateM.bind x f w = f a w'
  unfold EStateM.bind
  rw [h]

theorem assignTarget_some {op : AssignOp} {id : Ident} {binding : Binding}
    (meaning : env.meaning id.name = some binding) (v : Word) :
    assignTarget op env (.ok id) v = writeVariable v binding >>= fun _ => pure env := by
  unfold assignTarget
  simp only [readable, Run.require, pure_bind, meaning]

theorem assignTarget_none {id : Ident} (meaning : env.meaning id.name = none) (v : Word) :
    assignTarget .define env (.ok id) v = declareName env id.name v := by
  unfold assignTarget
  simp only [readable, Run.require, pure_bind, meaning]

/-- A store into a visible variable assigns to it. -/
theorem Agree.assignTarget (agree : Agree holds reserved scope env w c) {op : AssignOp} {id : Ident}
    {place : Storage} (means : Means scope id.name place) (v : Word) :
    ∃ w' c', SlotIR.assignTarget op env (.ok id) v w = .ok env w' ∧ c.write v place = some c'
      ∧ Agree holds reserved scope env w' c' ∧ c'.rest = c.rest ∧ c'.temps = c.temps := by
  obtain ⟨w', c', assigned, written, after⟩ := agree.assign means.mem_values v
  refine ⟨w', c', ?_, written, after⟩
  rw [assignTarget_some (agree.meaning means)]
  exact bind_of_ok assigned

/-- A store into a new slot declares its variable. -/
theorem Local.store {symbols : List String} {σ τ : Layout} {name : Name} {pos : Pos} {slot : Slot}
    (h : Local σ name pos slot τ) (proper : Proper symbols σ) (offset : pos.isOffset = true)
    (reserves : slot.text ∈ reserved) (agree : Agree holds reserved σ.scope env w c) (v : Word) :
    ∃ env' w' c', declareName env name v w = .ok env' w' ∧ c.write v (.slot slot) = some c'
      ∧ c'.temps = c.temps ∧ Continues holds reserved σ.slots τ.scope c.rest env' w' c' := by
  obtain ⟨later, env', w', declared, same, after⟩ := h.agree proper offset agree v
  have written : c.write v (.slot slot) = some (c.setSlot slot.text (some v)) := by
    unfold Config.write
    cases old : c.slots slot.text with
    | none => exact absurd old (agree.stands _ reserves)
    | some value => simp only [old]
  exact ⟨env', w', _, declared, written, rfl, rfl, later, same, after⟩

/-- **Stores into targets assign to them in order.** -/
theorem Assigns.follows {symbols : List String} {op : AssignOp} {σ τ : Layout}
    {targets : List (Reading Ident)} {ds : List Nat} {code : List Instr} {vs : List Word}
    (h : Assigns op σ targets ds code τ) (proper : Proper symbols σ)
    (typed : typedTargets targets = true) (reserves : ∀ slot ∈ τ.slots, slot.text ∈ reserved)
    (agree : Agree holds reserved σ.scope env w c) (rest : c.rest = straight code ++ k)
    (results : ds.map c.temps = vs.map fun v => some (.i32 v)) :
    Follows handler body rounds c (Continues holds reserved σ.slots τ.scope k)
      (assignTargets op env targets vs w) := by
  -- on the targets: each store leads to names that agree for the others
  induction h generalizing vs env w c holds with
  | nil =>
    obtain rfl : vs = [] := List.map_eq_nil_iff.1 results.symm
    exact .here ⟨rest, holds, fun _ _ => rfl, agree⟩
  | @visible op σ τ id targets ds code d place means others ih =>
    obtain ⟨v, vs, rfl, found, results⟩ := List.map_eq_cons_iff.1 results.symm
    simp only [typedTargets, List.all_cons, Bool.and_eq_true] at typed
    obtain ⟨w', c', assigned, written, agree', rest', temps⟩ :=
      (agree.goOn (straight code ++ k)).assignTarget means v
    rw [assignTargets, bind_of_ok assigned]
    refine .step (step_store rest (value_temp found.symm) written) ?_
    refine ih proper typed.2 reserves agree' rest' ?_
    rw [temps, results]
  | @fresh σ ρ τ id targets ds code d slot unbound new others ih =>
    obtain ⟨v, vs, rfl, found, results⟩ := List.map_eq_cons_iff.1 results.symm
    simp only [typedTargets, List.all_cons, holdsOf, Ident.typed, Bool.and_eq_true] at typed
    have slots : ρ.slots = σ.slots ++ [slot] := new.draws.1
    have listed : slot ∈ τ.slots := others.slots_subset slot (by simp [slots])
    -- the store is the declaration; until then no name means the slot
    obtain ⟨env', w', c', declared, written, temps, ⟨rest', later, same, agree'⟩⟩ :=
      new.store proper typed.1.1 (reserves slot listed) (agree.goOn (straight code ++ k)) v
    rw [assignTargets, assignTarget_none (agree.meaning_none unbound), bind_of_ok declared]
    refine .step (step_store rest (value_temp found.symm) written) ?_
    have further := ih (new.proper proper typed.1.1) typed.2 reserves agree' rest'
      (by rw [temps, results])
    refine further.imp fun env'' w'' c'' continues => continues.since same fun s member => ?_
    rw [slots]
    exact List.mem_append_left _ member

/-! ## §2. Loops. -/

/-- What follows lines stands where they stand. -/
theorem stands_append {before after : List Line} (h : (before ++ after) <:+ body) : after <:+ body :=
  (List.suffix_append _ _).trans h

theorem stands_cons {line : Line} {after : List Line} (h : (line :: after) <:+ body) :
    after <:+ body :=
  (List.suffix_cons _ _).trans h

/-- The code of the parts of a loop, and the lines after the loop. -/
structure LoopParts where
  labels : LoopLabels
  init : List Line
  test : List Instr
  inner : List Line
  post : List Line
  after : List Line

namespace LoopParts

variable (l : LoopParts)

/-- The lines from the end of a round on. -/
def fromEnd : List Line :=
  .instr (.jump l.labels.cond) :: .blank :: .label l.labels.done :: l.after

/-- The lines from the body on. -/
def fromBody : List Line := l.inner ++ (l.post ++ l.fromEnd)

/-- The lines from the test on. -/
def fromTest : List Line := straight l.test ++ .blank :: .label l.labels.body :: l.fromBody

/-- The lines from the initial statement on. -/
def fromInit : List Line :=
  l.init ++ .instr (.jump l.labels.cond) :: .blank :: .label l.labels.cond :: l.fromTest

theorem loopLines_append : loopLines l.labels l.init l.test l.inner l.post ++ l.after
    = .instr (.jump l.labels.init) :: .blank :: .label l.labels.init :: l.fromInit := by
  simp [loopLines, seam, fromInit, fromTest, fromBody, fromEnd]

/-- The labels of a loop, before the lines that they lead to. -/
structure Stands (body : List Line) : Prop where
  init : (.label l.labels.init :: l.fromInit) <:+ body
  cond : (.label l.labels.cond :: l.fromTest) <:+ body
  inner : (.label l.labels.body :: l.fromBody) <:+ body
  done : (.label l.labels.done :: l.after) <:+ body

variable {l}

theorem stands (h : (loopLines l.labels l.init l.test l.inner l.post ++ l.after) <:+ body) :
    l.Stands body := by
  rw [loopLines_append] at h
  have atInit := stands_cons (stands_cons h)
  have atCond := stands_cons (stands_cons (stands_append (stands_cons atInit)))
  have atBody := stands_cons (stands_append (stands_cons atCond))
  have atDone := stands_append (stands_append (stands_cons atBody))
  exact ⟨atInit, atCond, atBody, stands_cons (stands_cons atDone)⟩

/-- **The rounds of a loop are followed.**  The names of the loop's own frame agree before its test,
its body and its post statement, whatever these do in between. -/
theorem Stands.follows {slots : List Slot} {test : Run Bool} {one two : Run Env}
    (places : l.Stands body) (once : ∀ i, (drawn body).count i ≤ 1)
    (tests : ∀ w c, Continues holds reserved slots scope l.fromTest env w c →
      Follows handler body rounds c (fun goesOn => Continues holds reserved slots scope
        (if goesOn = true then l.fromBody else l.after) env) (test w))
    (first : ∀ w c, Continues holds reserved slots scope l.fromBody env w c →
      Follows handler body rounds c
        (fun _ => Continues holds reserved slots scope (l.post ++ l.fromEnd) env) (one w))
    (second : ∀ w c, Continues holds reserved slots scope (l.post ++ l.fromEnd) env w c →
      Follows handler body rounds c
        (fun _ => Continues holds reserved slots scope l.fromEnd env) (two w))
    (start : Continues holds reserved slots scope l.fromTest env w c) :
    Follows handler body rounds c (fun _ => Continues holds reserved slots scope l.after env)
      (repeatRounds rounds (roundOf test one two) w) := by
  refine Follows.repeatRounds (fun w c head => head.shows) (fun w c head => ?_) (Nat.le_refl _) start
  refine Follows.roundOf ((tests w c head).imp fun goesOn w' c' tested => ?_) first
    fun w c between => (second w c between).imp fun _ w' c' last => ?_
  · cases goesOn with
    | true => exact tested
    | false => exact tested
  · -- the jump back to the test is the step that each round takes
    obtain ⟨now, same, agree⟩ := last.agree
    exact ⟨_, step_jump once places.cond last.rest, rfl, now, same, agree.goOn _⟩

end LoopParts

/-! ## §3. Statements. -/

/-- Run a piece. -/
def Piece.exec (handler : Handler) (rounds : Nat) : Piece → Env → Run Env
  | .stmt s => execStmt handler rounds s
  | .optional s => execOptional handler rounds s
  | .sequence items => execStmts handler rounds items

/-- Wherever it stands in the body, the code does what the piece says. -/
def Simulated (handler : Handler) (body : List Line) (rounds : Nat) (reserved : List String)
    (σ : Layout) (piece : Piece) (code : List Line) (τ : Layout) : Prop :=
  ∀ ⦃holds : String → Nat⦄ ⦃env : Env⦄ ⦃w : World⦄ ⦃c : Config⦄ ⦃k : List Line⦄,
    (code ++ k) <:+ body → Agree holds reserved σ.scope env w c → c.rest = code ++ k →
      Follows handler body rounds c (Continues holds reserved σ.slots τ.scope k)
        (piece.exec handler rounds env w)

variable {symbols : List String} {σ ρ ω τ : Layout} {pos : Pos}

theorem simulated_varDecl {name : Name} {value : Option Expr} {code : List Instr}
    {operand : Operand} {slot : Slot}
    (initial : InitialCode σ.scope σ.nextId value code operand n)
    (new : Local (σ.drawTo n) name pos slot τ) (proper : Proper symbols σ)
    (offset : pos.isOffset = true) (reserves : slot.text ∈ reserved) :
    Simulated handler body rounds reserved σ (.stmt (.varDecl pos name value))
      (straight (code ++ [.store operand (.slot slot)])) τ := by
  intro holds env w c k stands agree rest
  rw [straight_append, List.append_assoc] at rest
  refine (initial.follows agree rest).bind fun v w₁ c₁ prepared => ?_
  obtain ⟨rest₁, found, agree₁⟩ := prepared
  obtain ⟨env', w', c', declared, written, -, continues⟩ :=
    new.store (proper.drawTo initial.draws.le) offset reserves (agree₁.goOn k) v
  rw [declared]
  exact .step (step_store rest₁ found written) (.here continues)

theorem simulated_assign {op : AssignOp} {targets : List (Reading Ident)} {values : List Expr}
    {code stores : List Instr} {ds : List Nat}
    (evaluates : ExprsCode σ.scope σ.nextId values code ds n)
    (assigns : Assigns op (σ.drawTo n) targets ds stores τ) (proper : Proper symbols σ)
    (typed : typedTargets targets = true) (reserves : ∀ slot ∈ τ.slots, slot.text ∈ reserved) :
    Simulated handler body rounds reserved σ
      (.stmt (.assign pos (.known op) (.ok targets) (.ok values))) (straight (code ++ stores)) τ := by
  intro holds env w c k stands agree rest
  rw [straight_append, List.append_assoc] at rest
  have drawn := proper.drawTo evaluates.draws.le
  refine (evaluates.follows agree rest).bind fun vs w₁ c₁ all => ?_
  exact assigns.follows drawn typed reserves all.agree all.rest all.results

/-- When a block is left, the names around it agree again. -/
theorem simulated_block {items : List Stmt} {code : List Line}
    (inner : Code σ.enter (.sequence items) code τ) (proper : Proper symbols σ)
    (ih : Simulated handler body rounds reserved σ.enter (.sequence items) code τ) :
    Simulated handler body rounds reserved σ (.stmt (.block pos (.ok items))) code τ.leave := by
  intro holds env w c k stands agree rest
  refine (ih stands agree.enter rest).bind fun env' w' c' continues => .here ?_
  rw [inner.scope_leave]
  exact continues.back agree.names (fun place bound => inner.values_subset place bound) proper.owned

theorem simulated_cons {s : Stmt} {items : List Stmt} {code rest : List Line}
    (first : Code σ (.stmt s) code ρ)
    (ihFirst : Simulated handler body rounds reserved σ (.stmt s) code ρ)
    (ihOthers : Simulated handler body rounds reserved ρ (.sequence items) rest τ) :
    Simulated handler body rounds reserved σ (.sequence (s :: items)) (code ++ rest) τ := by
  intro holds env w c k stands agree next
  rw [List.append_assoc] at next stands
  refine (ihFirst stands agree next).bind fun env' w' c' one => ?_
  obtain ⟨next', held, same, agree'⟩ := one
  refine (ihOthers (stands_append stands) agree' next').imp fun _ _ _ continues => ?_
  exact continues.since same first.slots_subset

/-- **A loop is simulated if its parts are.**  Its body and its post statement may move slots on to
other variables, but not those of the names that its test sees. -/
theorem simulated_loop {s : Stmt} {init post : Option Stmt} {cond : Option Expr}
    {cInit cBody cPost : List Line} {cTest : List Instr}
    (initial : Code (σ.enter.drawTo (σ.nextId + 4)) (.optional init) cInit ρ)
    (test : TestCode ρ.scope (loopLabels pos σ.nextId) ρ.nextId cond cTest n)
    (inner : Code (ρ.drawTo n).enter (.stmt s) cBody ω)
    (final : Code ω.leave (.optional post) cPost τ) (once : ∀ i, (drawn body).count i ≤ 1)
    (proper : Proper symbols σ) (opened : Proper symbols ρ)
    (ihInit : Simulated handler body rounds reserved (σ.enter.drawTo (σ.nextId + 4))
      (.optional init) cInit ρ)
    (ihBody : Simulated handler body rounds reserved (ρ.drawTo n).enter (.stmt s) cBody ω)
    (ihPost : Simulated handler body rounds reserved ω.leave (.optional post) cPost τ) :
    Simulated handler body rounds reserved σ (.stmt (.loop pos s init cond post))
      (loopLines (loopLabels pos σ.nextId) cInit cTest cBody cPost) τ.leave := by
  intro holds env w c k stands agree rest
  let l : LoopParts := ⟨loopLabels pos σ.nextId, cInit, cTest, cBody, cPost, k⟩
  have places : l.Stands body := LoopParts.stands stands
  replace rest := rest.trans l.loopLines_append
  have around : ω.leave.scope = ρ.scope := inner.scope_leave
  refine .step (step_jump once places.init rest) ?_
  refine (ihInit (stands_cons places.init) (agree.enter.goOn _) rfl).bind
    fun visible w₁ c₁ initialised => ?_
  obtain ⟨rest₁, held, same, agree₁⟩ := initialised
  refine .step (step_jump once places.cond rest₁) ?_
  have loops : Follows handler body rounds { c₁ with rest := l.fromTest }
      (fun _ => Continues held reserved ρ.slots ρ.scope k visible)
      (repeatRounds rounds (roundOf (evalTest handler visible cond)
        (execStmt handler rounds s (Frame.empty :: visible))
        (execOptional handler rounds post visible)) w₁) := by
    -- the test, the body and the post statement of a round, in this order
    refine places.follows once (fun w c head => ?_) (fun w c head => ?_) (fun w c head => ?_)
      ⟨rfl, held, fun _ _ => rfl, agree₁.goOn _⟩
    · obtain ⟨now, sameNow, agreeNow⟩ := head.agree
      refine (test.follows agreeNow head.rest once places.inner places.done).imp
        fun goesOn w' c' tested => ?_
      exact ⟨tested.1, now, sameNow, tested.2⟩
    · obtain ⟨now, sameNow, agreeNow⟩ := head.agree
      refine (ihBody (stands_cons places.inner) agreeNow.enter head.rest).imp
        fun env' w' c' one => ?_
      have outside : Continues now reserved ρ.slots ρ.scope _ visible w' c' :=
        one.back agreeNow.names (fun place bound => inner.values_subset place bound) opened.owned
      exact outside.since sameNow fun _ member => member
    · obtain ⟨now, sameNow, agreeNow⟩ := head.agree
      refine (ihPost (stands_append (stands_cons places.inner)) (around ▸ agreeNow) head.rest).imp
        fun env' w' c' one => ?_
      have since : Continues now reserved ρ.slots τ.scope _ env' w' c' :=
        one.since (fun _ _ => rfl) inner.slots_subset
      have outside : Continues now reserved ρ.slots ρ.scope _ visible w' c' :=
        since.back agreeNow.names
          (fun place bound => final.values_subset place (around ▸ bound)) opened.owned
      exact outside.since sameNow fun _ member => member
  refine loops.bind fun _ w₂ c₂ finished => .here ?_
  rw [Code.scope_loop initial inner final]
  have outside := finished.since same initial.slots_subset
  exact outside.back agree.names (fun place bound => initial.values_subset place bound) proper.owned

/-- **Code of a piece does what the piece says.** -/
theorem Code.simulated {piece : Piece} {code : List Line} (h : Code σ piece code τ)
    (once : ∀ i, (drawn body).count i ≤ 1) (proper : Proper symbols σ)
    (typed : piece.typed = true) (reserves : ∀ slot ∈ τ.slots, slot.text ∈ reserved) :
    Simulated handler body rounds reserved σ piece code τ := by
  induction h with
  | @varDecl σ τ pos name value code operand n slot initial new =>
    simp only [Piece.typed, Stmt.typed, Bool.and_eq_true] at typed
    have listed : slot ∈ τ.slots := by
      rw [new.draws.1]
      exact List.mem_append_right _ (List.mem_singleton.2 rfl)
    exact simulated_varDecl initial new proper typed.1.1 (reserves slot listed)
  | assign lengths evaluates prepares stores =>
    simp only [Piece.typed, Stmt.typed, holdsOf, Bool.and_eq_true] at typed
    have assigns := prepares.assigns stores (evaluates.length_eq.trans lengths.symm)
    exact simulated_assign evaluates assigns proper typed.1.2 reserves
  | block inner ih =>
    simp only [Piece.typed, Stmt.typed, typedItems, Bool.and_eq_true] at typed
    exact simulated_block inner proper (ih proper.enter typed.2 reserves)
  | @loop σ ρ ω τ _ _ _ _ _ _ _ _ _ n initial test inner final ihInit ihBody ihPost =>
    simp only [Piece.typed, Stmt.typed, Bool.and_eq_true] at typed
    obtain ⟨⟨⟨⟨-, typedBody⟩, typedInit⟩, -⟩, typedPost⟩ := typed
    -- the layouts between the parts, from the first to the last
    have entered : Proper symbols (σ.enter.drawTo (σ.nextId + 4)) :=
      proper.enter.drawTo (Nat.le_add_right _ 4)
    have opened := initial.proper entered typedInit
    have inside : Proper symbols (ρ.drawTo n).enter := (opened.drawTo test.draws.le).enter
    have left := (inner.proper inside typedBody).leave
    -- slots are reserved at the start of the function for all parts
    have reservesBody : ∀ slot ∈ ω.slots, slot.text ∈ reserved := fun slot member =>
      reserves slot (final.slots_subset slot member)
    have reservesInit : ∀ slot ∈ ρ.slots, slot.text ∈ reserved := fun slot member =>
      reservesBody slot (inner.slots_subset slot member)
    exact simulated_loop initial test inner final once proper opened
      (ihInit entered typedInit reservesInit) (ihBody inside typedBody reservesBody)
      (ihPost left typedPost reserves)
  | expr code =>
    intro holds env w c k stands agree rest
    refine (code.follows agree rest).bind fun v w₁ c₁ one => .here ?_
    exact ⟨one.rest, holds, fun _ _ => rfl, one.agree⟩
  | absent =>
    intro holds env w c k stands agree rest
    exact .here ⟨rest, holds, fun _ _ => rfl, agree⟩
  | present _ ih => exact ih proper typed reserves
  | nil =>
    intro holds env w c k stands agree rest
    exact .here ⟨rest, holds, fun _ _ => rfl, agree⟩
  | cons first others ihFirst ihOthers =>
    simp only [Piece.typed, typedStmts, Bool.and_eq_true] at typed
    have reservesFirst : _ := fun slot member => reserves slot (others.slots_subset slot member)
    exact simulated_cons first (ihFirst proper typed.1 reservesFirst)
      (ihOthers (first.proper proper typed.1) typed.2 reserves)

end

end SlotIR
