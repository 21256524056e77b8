/-
  SlotIR.Proofs.Lowering.Steps
  ────────────────────────────
  **WHAT ELEMENTARY STEPS DO WHEN THEY SUCCEED.**

  One `iff` for each elementary step of lowering: which value it returns,
  and which state it reaches.  A composed step is taken apart with
  `bind_eq_ok`, and no proof about lowering looks inside the monad again.

  A step appends lines and moves on to another LAYOUT: the scopes, the
  next number and the slots.  What it appends depends on the layout alone,
  so a state is described as an earlier one extended by lines and a layout
  (`State.extend`).
-/
import SlotIR.Lowering.State
import SlotIR.Proofs.Scope.Mapping

namespace SlotIR

/-! ## §1. Layouts. -/

/-- The part of the state that the lowered code depends on. -/
@[ext] structure Layout where
  /-- The visible scopes, the innermost first. -/
  scope : Chain Key Storage
  /-- The next number to be drawn. -/
  nextId : Nat
  /-- The slots reserved so far. -/
  slots : List Slot

namespace Layout

/-- The layout in a new frame. -/
def enter (σ : Layout) : Layout := { σ with scope := Frame.empty :: σ.scope }

/-- The layout after the current frame is left. -/
def leave (σ : Layout) : Layout := { σ with scope := σ.scope.tail }

/-- The layout after numbers are drawn up to `n`. -/
def drawTo (σ : Layout) (n : Nat) : Layout := { σ with nextId := n }

/-- The layout with a name bound in its innermost frame. -/
def bind (σ : Layout) (key : Key) (storage : Storage) : Layout :=
  { σ with scope := Chain.declare σ.scope key storage }

@[simp] theorem nextId_enter (σ : Layout) : σ.enter.nextId = σ.nextId := rfl

@[simp] theorem slots_enter (σ : Layout) : σ.enter.slots = σ.slots := rfl

@[simp] theorem nextId_leave (σ : Layout) : σ.leave.nextId = σ.nextId := rfl

@[simp] theorem slots_leave (σ : Layout) : σ.leave.slots = σ.slots := rfl

@[simp] theorem nextId_drawTo (σ : Layout) (n : Nat) : (σ.drawTo n).nextId = n := rfl

@[simp] theorem scope_drawTo (σ : Layout) (n : Nat) : (σ.drawTo n).scope = σ.scope := rfl

@[simp] theorem slots_drawTo (σ : Layout) (n : Nat) : (σ.drawTo n).slots = σ.slots := rfl

@[simp] theorem drawTo_drawTo (σ : Layout) (n m : Nat) : (σ.drawTo n).drawTo m = σ.drawTo m := rfl

end Layout

/-- The layout of a state. -/
def State.layout (s : State) : Layout := ⟨s.scope, s.nextId, s.slots⟩

/-- The state after lines are added and another layout is reached. -/
def State.extend (s : State) (code : List Line) (τ : Layout) : State :=
  { s with
    lines := s.lines ++ code
    scope := τ.scope
    nextId := τ.nextId
    reserved := .ofSlots τ.slots }

namespace State

@[simp] theorem scope_layout (s : State) : s.layout.scope = s.scope := rfl

@[simp] theorem nextId_layout (s : State) : s.layout.nextId = s.nextId := rfl

@[simp] theorem slots_layout (s : State) : s.layout.slots = s.slots := rfl

@[simp] theorem layout_drawTo_nextId (s : State) : s.layout.drawTo s.nextId = s.layout := rfl

@[simp] theorem layout_extend (s : State) (code : List Line) (τ : Layout) :
    (s.extend code τ).layout = τ := rfl

@[simp] theorem scope_extend (s : State) (code : List Line) (τ : Layout) :
    (s.extend code τ).scope = τ.scope := rfl

@[simp] theorem nextId_extend (s : State) (code : List Line) (τ : Layout) :
    (s.extend code τ).nextId = τ.nextId := rfl

@[simp] theorem slots_extend (s : State) (code : List Line) (τ : Layout) :
    (s.extend code τ).slots = τ.slots := rfl

@[simp] theorem lines_extend (s : State) (code : List Line) (τ : Layout) :
    (s.extend code τ).lines = s.lines ++ code := rfl

/-- A state is known by its lines, its layout and its declaration. -/
theorem eq_extend {s t : State} {code : List Line} (lines : t.lines = s.lines ++ code)
    (decl : t.decl = s.decl) : t = s.extend code t.layout := by
  obtain ⟨_, scope, nextId, _, reserved⟩ := t
  subst lines decl
  simp [extend, layout]

@[simp] theorem extend_layout (s : State) : s.extend [] s.layout = s :=
  (eq_extend (List.append_nil s.lines).symm rfl).symm

/-- A state in whose layout only numbers were drawn. -/
theorem extend_drawTo (s : State) (code : List Line) (n : Nat) :
    s.extend code (s.layout.drawTo n) = { s with lines := s.lines ++ code, nextId := n } := by
  simp [extend, layout, Layout.drawTo]

@[simp] theorem extend_extend (s : State) (first second : List Line) (σ τ : Layout) :
    (s.extend first σ).extend second τ = s.extend (first ++ second) τ := by
  simp [extend]

end State

/-! ## §2. Names in a chain. -/

/-- A name means a storage place. -/
def Means (scope : Chain Key Storage) (name : Name) (storage : Storage) : Prop :=
  ∃ key, name.key = .ok key ∧ Chain.find? scope key = some storage

/-- No frame binds a name. -/
def Unbound (scope : Chain Key Storage) (name : Name) : Prop :=
  ∃ key, name.key = .ok key ∧ Chain.find? scope key = none

/-- What a name means is bound in some frame. -/
theorem Means.mem_values {scope : Chain Key Storage} {name : Name} {storage : Storage}
    (h : Means scope name storage) : storage ∈ Chain.values scope := by
  obtain ⟨_, _, found⟩ := h
  exact Chain.find?_mem_values found

namespace Lower

variable {α β : Type} {s t : State}

/-! ## §3. Composition. -/

/-- A composed step succeeds if both parts do. -/
theorem bind_eq_ok {x : Lower α} {f : α → Lower β} {b : β} :
    (x >>= f) s = .ok b t ↔ ∃ a u, x s = .ok a u ∧ f a u = .ok b t := by
  show EStateM.bind x f s = _ ↔ _
  unfold EStateM.bind
  cases x s with
  | ok a u =>
    constructor
    · intro h
      exact ⟨a, u, rfl, h⟩
    · rintro ⟨_, _, same, h⟩
      cases same
      exact h
  -- a fault of the first step is one of both
  | error fault u =>
    constructor
    · intro h
      cases h
    · rintro ⟨_, _, same, _⟩
      cases same

/-- A composed step fails where its first part does, or else where the second does. -/
theorem bind_eq_error {x : Lower α} {f : α → Lower β} {fault : Fault} :
    (x >>= f) s = .error fault t
      ↔ x s = .error fault t ∨ ∃ a u, x s = .ok a u ∧ f a u = .error fault t := by
  show EStateM.bind x f s = _ ↔ _
  unfold EStateM.bind
  cases x s with
  | ok a u =>
    constructor
    · intro h
      exact .inr ⟨a, u, rfl, h⟩
    · rintro (same | ⟨_, _, same, h⟩)
      · cases same
      · cases same
        exact h
  | error other u =>
    constructor
    · intro h
      cases h
      exact .inl rfl
    · rintro (same | ⟨_, _, same, _⟩)
      · cases same
        rfl
      · cases same

@[simp] theorem pure_eq_ok {a b : α} : (pure a : Lower α) s = .ok b t ↔ a = b ∧ s = t := by
  show EStateM.Result.ok a s = .ok b t ↔ _
  simp

@[simp] theorem read_eq_ok {part : Reading α} {a : α} :
    read part s = .ok a t ↔ part = .ok a ∧ s = t := by
  cases part with
  | ok b => simp [read]
  | error fault => simp [read, fail]

@[simp] theorem fail_ne_ok {fault : Fault} {a : α} : (fail fault : Lower α) s = .ok a t ↔ False := by
  simp [fail]

@[simp] theorem unsupported_ne_ok {typeName detail : String} {a : α} :
    (unsupported typeName detail : Lower α) s = .ok a t ↔ False := by
  simp [unsupported]

/-- The step succeeded. -/
def succeeds (result : EStateM.Result Fault State α) : Bool :=
  match result with
  | .ok _ _ => true
  | .error _ _ => false

/-- A run that succeeds, with what it returns and reaches. -/
theorem exists_of_succeeds {result : EStateM.Result Fault State α}
    (h : succeeds result = true) : ∃ a t, result = .ok a t := by
  cases result with
  | ok a t => exact ⟨a, t, rfl⟩
  | error => cases h

/-- The step succeeded, and the condition holds of the state that it reached. -/
def reaches (p : State → Bool) (result : EStateM.Result Fault State α) : Bool :=
  match result with
  | .ok _ t => p t
  | .error _ _ => false

/-- A run that succeeds in a state of a kind, with what it returns and reaches. -/
theorem exists_of_reaches {p : State → Bool} {result : EStateM.Result Fault State α}
    (h : reaches p result = true) : ∃ a t, result = .ok a t ∧ p t = true := by
  cases result with
  | ok a t => exact ⟨a, t, rfl, h⟩
  | error => cases h

/-! ## §4. Lines and numbers. -/

/-- To emit is to extend the lines. -/
@[simp] theorem emit_eq_ok {line : Line} {u : Unit} :
    emit line s = .ok u t ↔ t = s.extend [line] s.layout := by
  unfold emit
  constructor
  · intro h
    cases h
    exact State.eq_extend rfl rfl
  · rintro rfl
    exact congrArg (EStateM.Result.ok ()) (State.eq_extend rfl rfl)

@[simp] theorem draw_eq_ok {n : Nat} :
    draw s = .ok n t ↔ n = s.nextId ∧ t = s.extend [] (s.layout.drawTo (s.nextId + 1)) := by
  unfold draw
  constructor
  · intro h
    cases h
    exact ⟨rfl, by simp [State.extend, State.layout, Layout.drawTo]⟩
  · rintro ⟨rfl, rfl⟩
    simp [State.extend, State.layout, Layout.drawTo]

/-- To define is to draw a number and emit the instruction of that number. -/
@[simp] theorem define_eq_ok {instr : Nat → Instr} {n : Nat} :
    define instr s = .ok n t ↔
      n = s.nextId
        ∧ t = s.extend [.instr (instr s.nextId)] (s.layout.drawTo (s.nextId + 1)) := by
  unfold define
  simp only [bind_eq_ok, draw_eq_ok, emit_eq_ok, pure_eq_ok]
  constructor
  · rintro ⟨_, _, ⟨rfl, rfl⟩, _, _, rfl, rfl, rfl⟩
    exact ⟨rfl, by simp⟩
  · rintro ⟨rfl, rfl⟩
    exact ⟨_, _, ⟨rfl, rfl⟩, (), _, rfl, rfl, by simp⟩

@[simp] theorem newLabel_eq_ok {tag : String} {label : Label} :
    newLabel tag s = .ok label t ↔
      label = ⟨tag, s.nextId⟩ ∧ t = s.extend [] (s.layout.drawTo (s.nextId + 1)) := by
  unfold newLabel
  simp only [bind_eq_ok, draw_eq_ok, pure_eq_ok]
  constructor
  · rintro ⟨_, _, ⟨rfl, rfl⟩, rfl, rfl⟩
    exact ⟨rfl, rfl⟩
  · rintro ⟨rfl, rfl⟩
    exact ⟨_, _, ⟨rfl, rfl⟩, rfl, rfl⟩

/-! ## §5. Scopes. -/

theorem lookup_eq_some {name : Name} {storage : Storage} :
    lookup name s = .ok (some storage) t ↔ Means s.scope name storage ∧ s = t := by
  unfold lookup Means
  cases s.scope with
  | nil => simp
  | cons frame outer => cases name.key <;> simp

/-- Nothing is found of a name that no frame binds; where there is no frame, looking up fails. -/
theorem lookup_eq_none {name : Name} (h : lookup name s = .ok none t) :
    Unbound s.scope name ∧ s.scope ≠ [] ∧ s = t := by
  unfold lookup at h
  unfold Unbound
  cases hs : s.scope with
  | nil =>
    rw [hs] at h
    cases h
  | cons frame outer =>
    rw [hs] at h
    cases hk : name.key with
    | error fault =>
      rw [hk] at h
      cases h
    | ok key =>
      rw [hk] at h
      simp only [EStateM.Result.ok.injEq] at h
      exact ⟨⟨key, rfl, h.1⟩, by simp, h.2⟩

/-- To resolve a name is to find what it means. -/
@[simp] theorem resolve_eq_ok {kind : Datum} {name : Name} {storage : Storage} :
    resolve kind name s = .ok storage t ↔ Means s.scope name storage ∧ s = t := by
  unfold resolve
  simp only [bind_eq_ok]
  constructor
  · rintro ⟨found, u, looked, rest⟩
    cases found with
    | none => cases rest
    | some place =>
      obtain ⟨means, rfl⟩ := lookup_eq_some.1 looked
      obtain ⟨rfl, rfl⟩ := pure_eq_ok.1 rest
      exact ⟨means, rfl⟩
  · rintro ⟨means, rfl⟩
    exact ⟨some storage, s, lookup_eq_some.2 ⟨means, rfl⟩, pure_eq_ok.2 ⟨rfl, rfl⟩⟩

/-- A declaration tells what the innermost frame bound the name to before. -/
theorem declare_eq_ok {name : Name} {storage : Storage} {found : Option Storage}
    (h : declare name storage s = .ok found t) :
    ∃ key, name.key = .ok key ∧ s.scope ≠ []
      ∧ found = s.scope.head?.bind (·.find? key)
      ∧ t = s.extend [] (s.layout.bind key storage) := by
  unfold declare at h
  cases hs : s.scope with
  | nil =>
    rw [hs] at h
    cases h
  | cons frame outer =>
    rw [hs] at h
    cases hk : name.key with
    | error fault =>
      rw [hk] at h
      cases h
    | ok key =>
      rw [hk] at h
      cases h
      refine ⟨key, rfl, by simp, by simp, ?_⟩
      simp [State.extend, State.layout, Layout.bind, hs]

/-- A step in a frame of its own succeeds if the step does. -/
theorem withFrame_eq_ok {step : Lower α} {a : α} (h : withFrame step s = .ok a t) :
    ∃ u, step (s.extend [] s.layout.enter) = .ok a u ∧ t = u.extend [] u.layout.leave := by
  unfold withFrame at h
  have entered : s.extend [] s.layout.enter = { s with scope := Frame.empty :: s.scope } := by
    simp [State.extend, State.layout, Layout.enter]
  rw [entered]
  cases hx : step { s with scope := Frame.empty :: s.scope } with
  | ok b u =>
    rw [hx] at h
    cases h
    exact ⟨u, rfl, by simp [State.extend, State.layout, Layout.leave]⟩
  | error fault u =>
    rw [hx] at h
    cases h

end Lower
end SlotIR
