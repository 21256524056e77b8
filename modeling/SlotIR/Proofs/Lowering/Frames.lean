/-
  SlotIR.Proofs.Lowering.Frames
  ─────────────────────────────
  **WHAT LOWERING LEAVES AS IT WAS, ALSO WHEN IT FAILS.**

  A fault takes nothing back, so whatever a step has done to the state is
  there for the next one.  But a step only ever ADDS (`Adds`):

      lines     after those that are there
      numbers   from the next one on
      names     to the current frame, after those that it binds

  What is added to a frame of its own is gone with the frame, whether the
  step in it succeeds or fails.  So an expression, a block, a loop and a
  file are QUIET: they add no name that is still seen after them.  A
  declaration or `:=` names its variables last, when nothing can fail any
  more, and a function is bound before its body.  Main result:

    • `lowering_adds` — for each kind of construct and both outcomes, the
      names that the current frame binds in addition.
-/
import SlotIR.Proofs.Emission.Assignment
import SlotIR.Proofs.Emission.Slots
import SlotIR.Proofs.Emission.Sound
import SlotIR.Proofs.Lowering.Compositional

namespace SlotIR

/-! ## §1. Adding to the current frame. -/

namespace Chain

variable {κ β : Type}

/-- The chain with bindings after those of its innermost frame, if it has one. -/
def extend : Chain κ β → List (κ × β) → Chain κ β
  | [], _ => []
  | frame :: outer, added => ⟨frame.entries ++ added⟩ :: outer

@[simp] theorem extend_nil (chain : Chain κ β) : chain.extend [] = chain := by
  cases chain with
  | nil => rfl
  | cons frame outer => simp [extend]

@[simp] theorem extend_extend (chain : Chain κ β) (first second : List (κ × β)) :
    (chain.extend first).extend second = chain.extend (first ++ second) := by
  cases chain with
  | nil => rfl
  | cons frame outer => simp [extend]

@[simp] theorem tail_extend (chain : Chain κ β) (added : List (κ × β)) :
    (chain.extend added).tail = chain.tail := by
  cases chain <;> rfl

variable [DecidableEq κ]

/-- The innermost frame binds the name. -/
def bindsHere (chain : Chain κ β) (name : κ) : Bool := chain.head?.any (·.contains name)

/-- A name that no frame binds is not bound by the innermost one. -/
theorem bindsHere_of_find?_none {chain : Chain κ β} {name : κ} (h : find? chain name = none) :
    chain.bindsHere name = false := by
  cases chain with
  | nil => rfl
  | cons frame outer =>
    rw [find?, Option.or_eq_none_iff] at h
    simp [bindsHere, Frame.contains, h.1]

/-- A declaration adds a binding, unless the innermost frame binds the name. -/
theorem declare_eq_extend (chain : Chain κ β) (name : κ) (value : β) :
    chain.declare name value
      = chain.extend (if chain.bindsHere name then [] else [(name, value)]) := by
  cases chain with
  | nil => rfl
  | cons frame outer =>
    by_cases bound : frame.contains name = true
    · simp [bindsHere, bound, Frame.declare_of_contains bound]
    · simp [bindsHere, bound, extend, Frame.declare]

end Chain

/-! ## §2. Steps that only add. -/

/-- The state that a step reached, with a value or a fault. -/
def Lower.reached {α : Type} : EStateM.Result Fault State α → State
  | .ok _ t => t
  | .error _ t => t

open Lower (reached)

/-- From one state to another lines were added, numbers drawn and the bindings added to the current
frame, and no frame was left or entered. -/
structure Adds (added : List (Key × Storage)) (s t : State) : Prop where
  lines : s.lines <+: t.lines
  nextId : s.nextId ≤ t.nextId
  scope : t.scope = s.scope.extend added

theorem Adds.refl (s : State) : Adds [] s s := ⟨List.prefix_refl _, Nat.le_refl _, by simp⟩

theorem Adds.trans {a b : List (Key × Storage)} {s t u : State} (first : Adds a s t)
    (second : Adds b t u) : Adds (a ++ b) s u where
  lines := first.lines.trans second.lines
  nextId := Nat.le_trans first.nextId second.nextId
  scope := by rw [second.scope, first.scope, Chain.extend_extend]

/-- Where no frame is open, no name is added. -/
theorem Adds.of_nil {added : List (Key × Storage)} {s t : State} (h : Adds added s t)
    (closed : s.scope = []) : Adds [] s t where
  lines := h.lines
  nextId := h.nextId
  scope := by rw [h.scope, closed]; rfl

/-- The step adds no names, whether it succeeds or fails. -/
def Quiet {α : Type} (x : Lower α) : Prop := ∀ s, Adds [] s (reached (x s))

/-- The step adds names to no other frame than the current one, whether it succeeds or fails. -/
def Contained {α : Type} (x : Lower α) : Prop := ∀ s, ∃ added, Adds added s (reached (x s))

/-- The step adds no names if it fails. -/
def FailsQuietly {α : Type} (x : Lower α) : Prop :=
  ∀ ⦃s t fault⦄, x s = .error fault t → Adds [] s t

section

variable {α β : Type}

theorem reached_bind {x : Lower α} {f : α → Lower β} {s : State} :
    reached ((x >>= f) s)
      = match x s with
        | .ok a t => reached (f a t)
        | .error _ t => t := by
  show reached (EStateM.bind x f s) = _
  unfold EStateM.bind
  cases x s <;> rfl

/-- What holds where the first step ends, and is kept by the second, holds where both end. -/
theorem reached_bind_induction {p : State → Prop} {x : Lower α} {f : α → Lower β} {s : State}
    (first : p (reached (x s))) (next : ∀ a t, p t → p (reached (f a t))) :
    p (reached ((x >>= f) s)) := by
  rw [reached_bind]
  cases result : x s with
  | ok a t =>
    rw [result] at first
    exact next a t first
  -- the second step is not reached
  | error fault t =>
    rw [result] at first
    exact first

/-- A step in a frame of its own ends where the step does, without its frame. -/
theorem reached_withFrame (x : Lower α) (s : State) :
    reached (Lower.withFrame x s)
      = { reached (x { s with scope := Frame.empty :: s.scope }) with
          scope := (reached (x { s with scope := Frame.empty :: s.scope })).scope.tail } := by
  unfold Lower.withFrame
  cases x { s with scope := Frame.empty :: s.scope } <;> rfl

theorem Quiet.contained {x : Lower α} (quiet : Quiet x) : Contained x := fun s => ⟨[], quiet s⟩

theorem Quiet.failsQuietly {x : Lower α} (quiet : Quiet x) : FailsQuietly x := by
  intro s t fault failed
  have adds := quiet s
  rwa [failed] at adds

/-- A quiet step after another adds nothing to what that one added. -/
theorem Adds.bind {x : Lower α} {f : α → Lower β} {added : List (Key × Storage)} {s : State}
    (first : Adds added s (reached (x s))) (next : ∀ a, Quiet (f a)) :
    Adds added s (reached ((x >>= f) s)) := by
  refine reached_bind_induction first fun a t adds => ?_
  simpa using adds.trans (next a t)

theorem Quiet.bind {x : Lower α} {f : α → Lower β} (first : Quiet x) (next : ∀ a, Quiet (f a)) :
    Quiet (x >>= f) := fun s => (first s).bind next

theorem Contained.bind {x : Lower α} {f : α → Lower β} (first : Contained x)
    (next : ∀ a, Contained (f a)) : Contained (x >>= f) := by
  intro s
  refine reached_bind_induction (p := fun t => ∃ added, Adds added s t) (first s) ?_
  rintro a t ⟨added, adds⟩
  obtain ⟨more, adds'⟩ := next a t
  exact ⟨added ++ more, adds.trans adds'⟩

/-- What follows a quiet step fails quietly if it does by itself. -/
theorem Quiet.bind_failsQuietly {x : Lower α} {f : α → Lower β} (first : Quiet x)
    (next : ∀ a, FailsQuietly (f a)) : FailsQuietly (x >>= f) := by
  intro s t fault failed
  rcases Lower.bind_eq_error.1 failed with stopped | ⟨a, u, ran, stopped⟩
  · exact first.failsQuietly stopped
  · have adds := first s
    rw [ran] at adds
    exact adds.trans (next a stopped)

/-- Names may be added by a step after which nothing fails. -/
theorem FailsQuietly.bind {x : Lower α} {f : α → Lower β} (first : FailsQuietly x)
    (total : ∀ a s, ∃ b t, f a s = .ok b t) : FailsQuietly (x >>= f) := by
  intro s t fault failed
  rcases Lower.bind_eq_error.1 failed with stopped | ⟨a, u, -, stopped⟩
  · exact first stopped
  · obtain ⟨b, v, succeeded⟩ := total a u
    rw [succeeded] at stopped
    cases stopped

/-- What a step adds to a frame of its own is gone with the frame. -/
theorem Contained.withFrame {x : Lower α} (inside : Contained x) : Quiet (Lower.withFrame x) := by
  intro s
  obtain ⟨added, adds⟩ := inside { s with scope := Frame.empty :: s.scope }
  rw [reached_withFrame]
  exact ⟨adds.lines, adds.nextId, by simp [adds.scope]⟩

/-! ## §3. Elementary steps. -/

/-- No elementary step but a declaration adds names. -/
theorem Quiet.compositional : Compositional @Quiet where
  pure _ s := .refl s
  bind first next := first.bind next
  fail _ s := .refl s
  unsupported _ _ s := .refl s
  unresolved _ _ s := .refl s
  emit line s := ⟨List.prefix_append s.lines [line], Nat.le_refl _, (Chain.extend_nil _).symm⟩
  draw s := ⟨List.prefix_refl _, Nat.le_succ s.nextId, (Chain.extend_nil _).symm⟩
  setDecl _ s := ⟨List.prefix_refl _, Nat.le_refl _, (Chain.extend_nil s.scope).symm⟩
  lookup name s := by
    unfold Lower.lookup
    split <;> exact .refl s

theorem Contained.compositional : Compositional @Contained where
  pure a := (Quiet.compositional.pure a).contained
  bind first next := first.bind next
  fail fault := (Quiet.compositional.fail fault).contained
  unsupported typeName detail := (Quiet.compositional.unsupported typeName detail).contained
  unresolved kind name := (Quiet.compositional.unresolved kind name).contained
  emit line := (Quiet.compositional.emit line).contained
  draw := Quiet.compositional.draw.contained
  setDecl decl := (Quiet.compositional.setDecl decl).contained
  lookup name := (Quiet.compositional.lookup name).contained

theorem Quiet.newSlot (name : String) (pos : Pos) : Quiet (Lower.newSlot name pos) := by
  intro s
  unfold Lower.newSlot
  dsimp only
  split
  · exact ⟨List.prefix_refl _, Nat.le_succ s.nextId, (Chain.extend_nil _).symm⟩
  · exact ⟨List.prefix_refl _, Nat.le_refl _, (Chain.extend_nil _).symm⟩

/-- A declaration that fails changes nothing. -/
theorem declare_eq_error {name : Name} {storage : Storage} {fault : Fault} {s t : State}
    (h : Lower.declare name storage s = .error fault t) : t = s := by
  unfold Lower.declare at h
  split at h <;> cases h
  all_goals rfl

theorem Contained.declare (name : Name) (storage : Storage) :
    Contained (Lower.declare name storage) := by
  intro s
  cases result : Lower.declare name storage s with
  | ok found t =>
    obtain ⟨key, -, -, -, rfl⟩ := Lower.declare_eq_ok result
    exact ⟨_, by simp [reached], Nat.le_refl _, Chain.declare_eq_extend s.scope key storage⟩
  | error fault t =>
    obtain rfl := declare_eq_error result
    exact ⟨[], .refl t⟩

theorem FailsQuietly.declare (name : Name) (storage : Storage) :
    FailsQuietly (Lower.declare name storage) := by
  intro s t fault failed
  obtain rfl := declare_eq_error failed
  exact .refl t

end

/-! ## §4. Statements. -/

/-- Whatever the parts of a block or a loop add, they add it to frames that are left. -/
theorem Contained.contextual : Contextual @Contained Quiet where
  toCompositional := compositional
  newSlot name pos := (Quiet.newSlot name pos).contained
  declare := declare
  framed inside := inside.withFrame
  ofFramed := Quiet.contained

/-! ## §5. What a statement declares. -/

/-- The names of targets, in order. -/
def targetKeys (targets : List (Reading Ident)) : List Key :=
  targets.filterMap fun
    | .ok id => id.name.key.toOption
    | .error _ => none

/-- The names that a statement adds to the current frame if it succeeds: a declaration its own
unless the frame binds it, and `:=` those of its targets that no frame binds, each once. -/
def Stmt.declares (scope : Chain Key Storage) : Stmt → List Key
  | .varDecl _ name _ => name.key.toOption.toList.filter fun key => !scope.bindsHere key
  | .assign _ (.known .define) (.ok targets) _ =>
    ((targetKeys targets).filter fun key => (Chain.find? scope key).isNone).eraseDups
  | _ => []

/-- No binding of the current frame is replaced. -/
theorem Stmt.bindsHere_of_mem_declares {scope : Chain Key Storage} {stmt : Stmt} {key : Key}
    (member : key ∈ stmt.declares scope) : scope.bindsHere key = false := by
  unfold declares at member
  split at member
  · simpa using (List.mem_filter.1 member).2
  · rw [List.mem_eraseDups, List.mem_filter, Option.isNone_iff_eq_none] at member
    exact Chain.bindsHere_of_find?_none member.2
  · cases member

/-- A declaration of a name that nothing binds hides no other name. -/
theorem Chain.isNone_find?_declare {κ β : Type} [DecidableEq κ] {frame : Frame κ β}
    {outer : Chain κ β} {name : κ} (unbound : Chain.find? (frame :: outer) name = none)
    (value : β) (other : κ) :
    (Chain.find? (Chain.declare (frame :: outer) name value) other).isNone
      = (!(other == name) && (Chain.find? (frame :: outer) other).isNone) := by
  by_cases same : other = name
  · subst same
    rw [Chain.declare_cons, Chain.find?_declare_self unbound]
    simp
  · have free : frame.contains name = false := by
      simpa [bindsHere] using bindsHere_of_find?_none unbound
    simp [Chain.find?, Frame.find?, Frame.entries_declare_of_not_contains free,
      List.lookup_append, List.lookup_cons, beq_false_of_ne same]

theorem Local.extend {σ τ : Layout} {name : Name} {pos : Pos} {slot : Slot}
    (h : Local σ name pos slot τ) :
    ∃ key, name.key = .ok key
      ∧ τ.scope = σ.scope.extend (if σ.scope.bindsHere key then [] else [(key, .slot slot)]) := by
  cases h with
  | intro keyed _ _ => exact ⟨_, keyed, Chain.declare_eq_extend _ _ _⟩

theorem Defines.extend {σ τ : Layout} {targets : List (Reading Ident)}
    (h : Defines σ targets τ) :
    ∃ added, τ.scope = σ.scope.extend added ∧ added.map Prod.fst
      = ((targetKeys targets).filter fun key => (Chain.find? σ.scope key).isNone).eraseDups := by
  induction h with
  | nil => exact ⟨[], by simp, rfl⟩
  | visible means _ ih =>
    obtain ⟨added, scope, keys⟩ := ih
    obtain ⟨key, keyed, found⟩ := means
    refine ⟨added, scope, ?_⟩
    simpa [targetKeys, keyed, Except.toOption, found] using keys
  | @fresh σ ρ τ id rest slot unbound new _ ih =>
    obtain ⟨added, scope, keys⟩ := ih
    obtain ⟨key, keyed, free⟩ := unbound
    cases new with
    | intro keyed' opened _ =>
      rw [keyed] at keyed'
      cases keyed'
      refine ⟨(key, .slot slot) :: added, ?_, ?_⟩
      · rw [scope, Chain.declare_eq_extend, Chain.bindsHere_of_find?_none free]
        simp
      · -- the targets that are new after this one are the others that were new before it
        obtain ⟨frame, outer, frames⟩ := List.exists_cons_of_ne_nil opened
        rw [frames] at keys free ⊢
        simp only [Chain.isNone_find?_declare free, ← List.filter_filter] at keys
        simpa [targetKeys, keyed, Except.toOption, free, List.eraseDups_cons] using keys

/-- The layout after a statement binds what the statement declares. -/
theorem Code.extend {σ τ : Layout} {stmt : Stmt} {code : List Line}
    (h : Code σ (.stmt stmt) code τ) :
    ∃ added, τ.scope = σ.scope.extend added ∧ added.map Prod.fst = stmt.declares σ.scope := by
  cases h with
  | varDecl _ new =>
    obtain ⟨key, keyed, scope⟩ := new.extend
    refine ⟨_, scope, ?_⟩
    by_cases bound : σ.scope.bindsHere key = true <;>
      simp [Stmt.declares, keyed, Except.toOption, bound]
  | assign _ _ prepares _ =>
    cases prepares with
    | assign => exact ⟨[], by simp, rfl⟩
    | define defines => exact defines.extend
  | block inner => exact ⟨[], by simpa using inner.scope_leave, rfl⟩
  | loop initial _ inner final =>
    exact ⟨[], by simpa using Code.scope_loop initial inner final, rfl⟩
  | expr _ => exact ⟨[], by simp, rfl⟩

/-! ## §6. Statements that fail. -/

theorem newSlot_ok (name : String) (pos : Pos) (s : State) :
    ∃ slot t, Lower.newSlot name pos s = .ok slot t ∧ t.scope = s.scope := by
  unfold Lower.newSlot
  dsimp only
  split <;> exact ⟨_, _, rfl, rfl⟩

theorem declareLocal_ok {name : Name} (text : name.isText = true) (pos : Pos) {s : State}
    (opened : s.scope ≠ []) : ∃ slot t, declareLocal name pos s = .ok slot t ∧ t.scope ≠ [] := by
  obtain ⟨key, keyed⟩ := Name.exists_key text
  obtain ⟨frame, outer, frames⟩ := List.exists_cons_of_ne_nil opened
  obtain ⟨slot, u, reserved, same⟩ := newSlot_ok name.text pos s
  have declared : Lower.declare name (.slot slot) u
      = .ok (frame.find? key) { u with scope := frame.declare key (.slot slot) :: outer } := by
    simp [Lower.declare, same, frames, keyed]
  refine ⟨slot, _, Lower.bind_eq_ok.2 ⟨slot, u, reserved, Lower.bind_eq_ok.2
    ⟨_, _, declared, rfl⟩⟩, List.cons_ne_nil _ _⟩

/-- While a frame is open, typed targets are always declared. -/
theorem defineTargets_ok : ∀ (targets : List (Reading Ident)) {s : State},
    typedTargets targets = true → s.scope ≠ [] → ∃ t, defineTargets targets s = .ok () t
  | [], s, _, _ => ⟨s, rfl⟩
  | target :: rest, s, typed, opened => by
    simp only [typedTargets, List.all_cons, Bool.and_eq_true] at typed
    obtain ⟨id, rfl, good⟩ := exists_of_holdsOf typed.1
    simp only [Ident.typed, Bool.and_eq_true] at good
    have looked : ∃ found, Lower.lookup id.name s = .ok found s := by
      obtain ⟨key, keyed⟩ := Name.exists_key good.2
      obtain ⟨frame, outer, frames⟩ := List.exists_cons_of_ne_nil opened
      exact ⟨Chain.find? s.scope key, by simp [Lower.lookup, keyed, frames]⟩
    obtain ⟨found, looked⟩ := looked
    have declared : ∃ u, declareIfNew id s = .ok () u ∧ u.scope ≠ [] := by
      cases found with
      | some place => exact ⟨s, Lower.bind_eq_ok.2 ⟨_, s, looked, rfl⟩, opened⟩
      | none =>
        obtain ⟨slot, u, reserved, still⟩ := declareLocal_ok good.2 id.pos opened
        exact ⟨u, Lower.bind_eq_ok.2 ⟨_, s, looked,
          Lower.bind_eq_ok.2 ⟨slot, u, reserved, rfl⟩⟩, still⟩
    obtain ⟨u, declared, still⟩ := declared
    obtain ⟨t, others⟩ := defineTargets_ok rest typed.2 still
    exact ⟨t, Lower.bind_eq_ok.2 ⟨id, s, rfl, Lower.bind_eq_ok.2 ⟨(), u, declared, others⟩⟩⟩

/-- All targets have a meaning once they are declared. -/
theorem Defines.meant {σ τ : Layout} {targets : List (Reading Ident)} (h : Defines σ targets τ) :
    ∀ target ∈ targets, ∃ id place, target = .ok id ∧ Means τ.scope id.name place := by
  induction h with
  | nil => exact fun _ member => absurd member List.not_mem_nil
  | visible means others ih =>
    intro target member
    rcases List.mem_cons.1 member with rfl | later
    · exact ⟨_, _, rfl, others.means means⟩
    · exact ih target later
  | fresh unbound new others ih =>
    intro target member
    rcases List.mem_cons.1 member with rfl | later
    · exact ⟨_, _, rfl, others.means (new.means_self unbound)⟩
    · exact ih target later

/-- Targets that have a meaning are always stored into. -/
theorem storeTargets_ok : ∀ (pairs : List (Reading Ident × Nat)) {s : State},
    (∀ pair ∈ pairs, ∃ id place, pair.1 = .ok id ∧ Means s.scope id.name place) →
    ∃ t, storeTargets pairs s = .ok () t
  | [], s, _ => ⟨s, rfl⟩
  | (_, value) :: rest, s, meant => by
    obtain ⟨id, place, rfl, means⟩ := meant _ List.mem_cons_self
    have later : ∀ pair ∈ rest, ∃ id place, pair.1 = .ok id
        ∧ Means (s.extend [.instr (.store (.temp value) place)] s.layout).scope id.name place :=
      fun pair member => meant pair (List.mem_cons_of_mem _ member)
    obtain ⟨t, others⟩ := storeTargets_ok rest (s := s.extend _ s.layout) later
    exact ⟨t, Lower.bind_eq_ok.2 ⟨id, s, rfl, Lower.bind_eq_ok.2
      ⟨place, s, Lower.resolve_eq_ok.2 ⟨means, rfl⟩,
        Lower.bind_eq_ok.2 ⟨(), _, Lower.emit_eq_ok.2 rfl, others⟩⟩⟩⟩

/-- Once the values of `:=` are computed, only a state without frames makes it fail. -/
theorem FailsQuietly.define {targets : List (Reading Ident)} (typed : typedTargets targets = true)
    (numbers : List Nat) :
    FailsQuietly (do defineTargets targets; storeTargets (targets.zip numbers)) := by
  intro s t fault failed
  by_cases closed : s.scope = []
  · obtain ⟨added, adds⟩ := (Contained.contextual.defineTargets targets).bind
      (fun _ => Contained.compositional.storeTargets (targets.zip numbers)) s
    rw [failed] at adds
    exact adds.of_nil closed
  · obtain ⟨u, defined⟩ := defineTargets_ok targets typed closed
    obtain ⟨τ, defines, rfl⟩ := defineTargets_sound targets defined
    obtain ⟨v, stored⟩ := storeTargets_ok (targets.zip numbers) (s := s.extend [] τ)
      fun pair member => defines.meant pair.1 (List.of_mem_zip member).1
    exact absurd ((Lower.bind_eq_ok.2 ⟨(), _, defined, stored⟩).symm.trans failed) (by simp)

/-- A part that cannot be read fails before anything else. -/
theorem FailsQuietly.read {α β : Type} {part : Reading α} {f : α → Lower β}
    (next : ∀ a, part = .ok a → FailsQuietly (f a)) : FailsQuietly (Lower.read part >>= f) := by
  cases part with
  | ok a => exact next a rfl
  | error fault =>
    intro s t other failed
    rcases Lower.bind_eq_error.1 failed with stopped | ⟨a, u, ran, -⟩
    · exact (Quiet.compositional.fail _).failsQuietly stopped
    · cases ran

theorem FailsQuietly.lowerAssign (op : Operator AssignOp)
    {targets : Reading (List (Reading Ident))} (values : Reading (List Expr))
    (typed : holdsOf typedTargets targets = true) :
    FailsQuietly (SlotIR.lowerAssign op targets values) := by
  have quiet := Quiet.compositional
  cases op with
  | unknown shown => exact (quiet.unsupported _ _).failsQuietly
  | known op =>
    refine FailsQuietly.read fun ids same => FailsQuietly.read fun es _ => ?_
    subst same
    split
    · refine (quiet.lowerExprs es).bind_failsQuietly fun numbers => ?_
      cases op with
      | assign => exact (quiet.storeTargets _).failsQuietly
      | define => exact FailsQuietly.define typed numbers
    · exact (quiet.unsupported _ _).failsQuietly

/-- **A statement that fails declares nothing.** -/
theorem FailsQuietly.lowerStmt {stmt : Stmt} (typed : stmt.typed = true) :
    FailsQuietly (SlotIR.lowerStmt stmt) := by
  have quiet := Quiet.compositional
  cases stmt with
  | varDecl pos name value =>
    refine (quiet.lowerInitial value).bind_failsQuietly fun v => ?_
    refine FailsQuietly.bind ?_ fun slot s => ⟨(), _, rfl⟩
    exact (Quiet.newSlot _ _).bind_failsQuietly fun slot =>
      (FailsQuietly.declare _ _).bind fun _ s => ⟨slot, s, rfl⟩
  | assign pos op targets values =>
    simp only [Stmt.typed, Bool.and_eq_true] at typed
    exact FailsQuietly.lowerAssign op values typed.1.2
  | block pos stmts => exact (Contained.contextual.lowerItems stmts).withFrame.failsQuietly
  | loop pos body init cond post =>
    have parts := Contained.contextual
    exact (parts.lowerLoop pos cond (parts.lowerStmt body) (parts.lowerOptional init)
      (parts.lowerOptional post)).failsQuietly
  | exprStmt pos e => exact ((quiet.lowerExpr e).bind fun _ => quiet.pure ()).failsQuietly
  | «foreign» typeName => exact (quiet.unsupported typeName "").failsQuietly

/-! ## §7. Functions and files. -/

/-- Slots are reserved between lines, none of which was there before the place was noted. -/
theorem Contained.reserving {α : Type} {x : Lower Unit} {rest : Lower α} (body : Contained x)
    (ending : Contained rest) :
    Contained (do let place ← lineCount; x; insertAllocas place; rest) := by
  intro s
  obtain ⟨added, adds⟩ := body s
  show ∃ added, Adds added s
    (reached ((x >>= fun _ => insertAllocas s.lines.length >>= fun _ => rest) s))
  rw [reached_bind]
  cases result : x s with
  | error fault t =>
    rw [result] at adds
    exact ⟨added, adds⟩
  | ok _ t =>
    rw [result] at adds
    obtain ⟨code, lines⟩ := adds.lines
    have reserved : Adds added s (reached (insertAllocas s.lines.length t)) := by
      refine ⟨?_, adds.nextId, adds.scope⟩
      show s.lines <+: t.lines.take s.lines.length ++ _ ++ _
      rw [show t.lines = s.lines ++ code from lines.symm, List.take_left, List.append_assoc]
      exact List.prefix_append _ _
    obtain ⟨more, adds'⟩ := ending (reached (insertAllocas s.lines.length t))
    exact ⟨added ++ more, reserved.trans adds'⟩

theorem Contained.lowerDefinition (symbol : String) (items : Reading (List Stmt)) :
    Contained (SlotIR.lowerDefinition symbol items) :=
  (compositional.emit _).bind fun _ => (contextual.lowerItems items).reserving <|
    (compositional.emit _).bind fun _ => (compositional.emit _).bind fun _ =>
      compositional.emit _

theorem Quiet.lowerBody (name : Name) (symbol : String) :
    (body : Body) → Quiet (SlotIR.lowerBody name symbol body)
  | .external => (compositional.emit _).bind fun _ => compositional.emit _
  | .stmts items =>
    have started : Quiet (startFunction name.text) := fun s =>
      ⟨List.prefix_refl _, Nat.le_refl _, (Chain.extend_nil s.scope).symm⟩
    started.bind fun _ => (Contained.lowerDefinition symbol items).withFrame.bind fun _ =>
      compositional.setDecl none

/-- All names of a file are bound in a frame of its own. -/
theorem Quiet.lowerFile (options : Options) (file : SourceFile) :
    Quiet (SlotIR.lowerFile options file) :=
  Contained.compositional.lowerFile .declare (fun _ _ body => (lowerBody _ _ body).contained)
    Contained.withFrame options file

/-- A package's name is refused where the current frame binds it, and if it is that of the
initialiser. -/
def Refused (scope : Chain Key Storage) (name : Name) : Prop :=
  name.same (.ofText "init") = true ∨ ∃ key, name.key = .ok key ∧ scope.bindsHere key = true

theorem declareGlobal_refused (typeName : String) {name : Name} (storage : Storage) {s : State}
    (refused : Refused s.scope name) :
    ∃ fault, Lower.declareGlobal typeName name storage s = .error fault s := by
  unfold Lower.declareGlobal
  by_cases reserved : name.same (.ofText "init") = true
  · rw [if_pos reserved]
    exact ⟨_, rfl⟩
  · rw [if_neg reserved]
    obtain ⟨key, keyed, bound⟩ := refused.resolve_left reserved
    cases frames : s.scope with
    | nil =>
      rw [frames] at bound
      cases bound
    | cons frame outer =>
      rw [frames] at bound
      replace bound : frame.contains key = true := bound
      obtain ⟨place, found⟩ := Option.isSome_iff_exists.1 bound
      -- the declaration of a name that is bound leaves the frame as it is
      have declared : Lower.declare name storage s = .ok (some place) s := by
        unfold Lower.declare
        rw [frames, keyed]
        show EStateM.Result.ok (frame.find? key)
          { s with scope := frame.declare key storage :: outer } = _
        rw [found, Frame.declare_of_contains bound, ← frames]
      refine ⟨.unsupported typeName (name.text ++ " redeclared in package") s.decl, ?_⟩
      exact Lower.bind_eq_error.2 (.inr ⟨some place, _, declared, rfl⟩)

theorem declareGlobal_accepted (typeName : String) {name : Name} (storage : Storage) {s : State}
    {key : Key} (keyed : name.key = .ok key) (accepted : ¬ Refused s.scope name) :
    Adds [(key, storage)] s (reached (Lower.declareGlobal typeName name storage s)) := by
  unfold Refused at accepted
  simp only [not_or, not_exists, not_and] at accepted
  have free : s.scope.bindsHere key = false := by simpa using accepted.2 key keyed
  unfold Lower.declareGlobal
  rw [if_neg accepted.1]
  refine Adds.bind ?_ fun bound => ?_
  · unfold Lower.declare
    cases frames : s.scope with
    | nil => exact ⟨List.prefix_refl _, Nat.le_refl _, by simp [frames, reached, Chain.extend]⟩
    | cons frame outer =>
      have declared := Chain.declare_eq_extend s.scope key storage
      rw [free, frames] at declared
      exact ⟨by simp [keyed, reached], by simp [keyed, reached],
        by simpa [keyed, reached, frames] using declared⟩
  · cases bound with
    | none => exact Quiet.compositional.pure ()
    | some _ => exact Quiet.compositional.unsupported _ _

/-- A function whose name is refused changes nothing. -/
theorem lowerFunction_refused (options : Options) (package : String) {fn : FuncEntry} {s : State}
    (refused : Refused s.scope fn.name) :
    ∃ fault, lowerFunction options package fn s = .error fault s := by
  obtain ⟨fault, stopped⟩ := declareGlobal_refused fn.typeName
    (.symbol (options.symbol package fn.name.text)) refused
  exact ⟨fault, Lower.bind_eq_error.2 (.inl stopped)⟩

/-- A function whose name is not refused adds it, wherever its body fails. -/
theorem lowerFunction_accepted (options : Options) (package : String) {fn : FuncEntry} {s : State}
    {key : Key} (keyed : fn.name.key = .ok key) (accepted : ¬ Refused s.scope fn.name) :
    Adds [(key, .symbol (options.symbol package fn.name.text))] s
      (reached (lowerFunction options package fn s)) :=
  (declareGlobal_accepted fn.typeName _ keyed accepted).bind fun _ =>
    (Quiet.compositional.read fn.body).bind fun body => Quiet.lowerBody fn.name _ body

/-! ## §8. All constructs. -/

/-- A typed statement adds what it declares if it succeeds, and nothing otherwise. -/
theorem lowerStmt_adds {stmt : Stmt} (typed : stmt.typed = true) (s : State) :
    ∃ added, Adds added s (reached (lowerStmt stmt s))
      ∧ added.map Prod.fst
          = if Lower.succeeds (lowerStmt stmt s) then stmt.declares s.scope else [] := by
  cases result : lowerStmt stmt s with
  | error fault t =>
    exact ⟨[], FailsQuietly.lowerStmt typed result, rfl⟩
  | ok u t =>
    obtain ⟨added, adds⟩ := Contained.contextual.lowerStmt stmt s
    rw [result] at adds
    obtain ⟨code, τ, emitted, rfl⟩ := lowerStmt_sound stmt result
    obtain ⟨more, scope, keys⟩ := emitted.extend
    exact ⟨more, ⟨adds.lines, adds.nextId, scope⟩, keys⟩

/-- **Lowering only adds, whether it succeeds or fails.**  From any state, an expression and a file
add no names to the current frame.  A typed statement adds what it declares if it succeeds, none of
which the frame binds, and nothing if it fails.  A typed function whose name is refused changes
nothing at all, and any other adds its own name, also if its body fails.  In each case the frames
around the current one stay as they are, the lines stay in front of those that are added, and the
next number is not less than before. -/
theorem lowering_adds (options : Options) (package : String) (s : State) :
    (∀ e : Expr, Adds [] s (reached (lowerExpr e s)))
      ∧ (∀ stmt : Stmt, stmt.typed = true →
          ∃ added, Adds added s (reached (lowerStmt stmt s))
            ∧ (added.map Prod.fst
                = if Lower.succeeds (lowerStmt stmt s) then stmt.declares s.scope else [])
            ∧ ∀ key ∈ added.map Prod.fst, s.scope.bindsHere key = false)
      ∧ (∀ fn : FuncEntry, fn.typed = true →
          (Refused s.scope fn.name → ∃ fault, lowerFunction options package fn s = .error fault s)
            ∧ (¬ Refused s.scope fn.name → ∃ key, fn.name.key = .ok key
                ∧ Adds [(key, .symbol (options.symbol package fn.name.text))] s
                    (reached (lowerFunction options package fn s))))
      ∧ ∀ file : SourceFile, Adds [] s (reached (lowerFile options file s)) := by
  refine ⟨fun e => Quiet.compositional.lowerExpr e s, fun stmt typed => ?_,
    fun fn typed => ⟨?_, ?_⟩, fun file => Quiet.lowerFile options file s⟩
  · obtain ⟨added, adds, keys⟩ := lowerStmt_adds typed s
    refine ⟨added, adds, keys, fun key member => ?_⟩
    rw [keys] at member
    split at member
    · exact Stmt.bindsHere_of_mem_declares member
    · cases member
  · exact lowerFunction_refused options package
  · intro accepted
    simp only [FuncEntry.typed, Bool.and_eq_true] at typed
    obtain ⟨key, keyed⟩ := Name.exists_key typed.1.2
    exact ⟨key, keyed, lowerFunction_accepted options package keyed accepted⟩

/-- A state in which a function of the package, with one variable, has been started. -/
def insideFunction : State where
  lines := [.define "@ugo_main_f"]
  scope := [Frame.ofList [(.text "x", .slot ⟨"x", .offset 1, none⟩)], builtinFrame]
  nextId := 3
  reserved := .ofSlots [⟨"x", .offset 1, none⟩]

/-- `y, x, y := 1, 2, 3` where `x` is bound. -/
def defineBoth : Stmt :=
  .assign (.offset 5) (.known .define)
    (.ok [.ok ⟨.offset 5, .ofText "y"⟩, .ok ⟨.offset 6, .ofText "x"⟩,
      .ok ⟨.offset 7, .ofText "y"⟩])
    (.ok [.number (.offset 8) (.ok 1), .number (.offset 9) (.ok 2), .number (.offset 10) (.ok 3)])

/-- The function `g` assigns to a variable of its own and then to one that nothing binds. -/
def strayFunction : FuncEntry :=
  ⟨.offset 20, "FuncDecl", .ofText "g", .ok (.stmts (.ok
    [.block (.offset 21) (.ok [.varDecl (.offset 22) (.ofText "a") none,
      .assign (.offset 23) (.known .assign) (.ok [.ok ⟨.offset 23, .ofText "z"⟩])
        (.ok [.number (.offset 24) (.ok 1)])])]))⟩

/-- The assignment adds `y`, and the function is added although its body fails. -/
theorem lowering_adds_insideFunction :
    (∃ added, Adds added insideFunction (reached (lowerStmt defineBoth insideFunction))
        ∧ added.map Prod.fst = [.text "y"])
      ∧ Lower.succeeds (lowerFunction {} "main" strayFunction insideFunction) = false
      ∧ Adds [(.text "g", .symbol "@ugo_main_g")] insideFunction
          (reached (lowerFunction {} "main" strayFunction insideFunction)) := by
  have results := lowering_adds {} "main" insideFunction
  obtain ⟨added, adds, keys, -⟩ := results.2.1 defineBoth (by decide)
  have succeeded : Lower.succeeds (lowerStmt defineBoth insideFunction) = true := by
    decide +kernel
  have declared : defineBoth.declares insideFunction.scope = [.text "y"] := by decide +kernel
  rw [succeeded, if_pos rfl, declared] at keys
  have accepted : ¬ Refused insideFunction.scope strayFunction.name := by
    rintro (reserved | ⟨key, keyed, bound⟩)
    · exact absurd reserved (by decide)
    · cases keyed
      exact absurd bound (by decide)
  obtain ⟨key, keyed, adds'⟩ := (results.2.2.1 strayFunction (by decide)).2 accepted
  cases keyed
  exact ⟨⟨added, adds, keys⟩, by decide +kernel, adds'⟩

end SlotIR
