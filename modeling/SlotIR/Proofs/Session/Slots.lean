/-
  SlotIR.Proofs.Session.Slots
  ───────────────────────────
  **THE NAMES OF SLOTS NEVER COLLIDE.**

  A function starts without slots, and then they are requested one by one,
  for variables that may be called anything:

      "x"        at  5     %local_x.pos.5
      "x"        at  5     %local_x.pos.5.0        the plain text is taken
      "x.pos.5"  at  0     %local_x.pos.5.pos.0

  A numbered text is NOT compared with those in use, but it is new all the
  same.  In front of its number stands a position, and in front of the
  position of a plain text stands `pos`; and no other slot has the number,
  since slots, temporaries and labels draw from one counter, which only a
  new module sets back.

  What has happened since a function was started is a derivation of
  `SinceStart`, which keeps the slots that were returned; by induction on
  it a further request is always answered with a new name.  The steps of
  lowering and the commands of a session are shown to be such histories
  (`Followed`), wherever they fail.  Main results:

    • `Session.slotNames_distinct` — the names of the slots are told apart,
      the `alloca` lines name them in the order of the requests, and the
      set of reserved slots is the set of them.
    • `SinceStart.after` — a session stays in such a history whatever
      commands it runs, as long as none of them starts a module.
-/
import SlotIR.Lowering.Session
import SlotIR.Proofs.Lowering.Frames
import SlotIR.Proofs.Scope.History

namespace SlotIR

open Lower (reached)

/-! ## §1. What happens in a function. -/

/-- The state is reached after a function was started, and the slots are those that the requests
since then have returned, in order. -/
inductive SinceStart : List Slot → State → Prop
  /-- A function is started. -/
  | start (name : String) (s : State) : SinceStart [] (reached (startFunction name s))
  /-- A slot is requested. -/
  | slot {slots : List Slot} {s t : State} (earlier : SinceStart slots s) (name : String)
      (pos : Pos) {slot : Slot} (returned : Lower.newSlot name pos s = .ok slot t) :
      SinceStart (slots ++ [slot]) t
  /-- A temporary is drawn. -/
  | temp {slots : List Slot} {s t : State} (earlier : SinceStart slots s) {n : Nat}
      (returned : Lower.draw s = .ok n t) : SinceStart slots t
  /-- A label is drawn. -/
  | label {slots : List Slot} {s t : State} (earlier : SinceStart slots s) (tag : String)
      {label : Label} (returned : Lower.newLabel tag s = .ok label t) : SinceStart slots t
  /-- Anything else happens, which leaves the counter and the slots as they are. -/
  | other {slots : List Slot} {s t : State} (earlier : SinceStart slots s)
      (nextId : t.nextId = s.nextId) (same : t.slots = s.slots) : SinceStart slots t

namespace SinceStart

variable {slots : List Slot} {s : State}

/-- A new session is like one in which a function has just been started. -/
theorem new : SinceStart [] ({} : State) := (start "" {}).other rfl rfl

/-- The state holds the slots that were returned, in the same order. -/
theorem slots_eq (since : SinceStart slots s) : s.slots = slots := by
  induction since with
  | start name s => rfl
  | slot _ name pos returned ih =>
    obtain ⟨n, -, rfl⟩ := newSlot_sound returned
    rw [State.slots_extend, ih]
  | temp _ returned ih =>
    obtain ⟨-, rfl⟩ := Lower.draw_eq_ok.1 returned
    exact ih
  | label _ tag returned ih =>
    obtain ⟨-, rfl⟩ := Lower.newLabel_eq_ok.1 returned
    exact ih
  | other _ _ same ih => exact same.trans ih

/-- **Slots that are requested at offsets are told apart.** -/
theorem distinct (since : SinceStart slots s)
    (offsets : ∀ slot ∈ slots, slot.pos.isOffset = true) : Distinct s.layout := by
  -- a request adds a new text, and between requests the counter does not fall
  induction since with
  | start name s => exact distinct_of_nil rfl
  | @slot slots s t earlier name pos slot returned ih =>
    obtain ⟨n, new, rfl⟩ := newSlot_sound returned
    have before : Distinct s.layout := ih fun old member =>
      offsets old (List.mem_append_left _ member)
    have requested : slot.pos = pos := by cases new <;> rfl
    have offset : pos.isOffset = true := by
      rw [← requested]
      exact offsets slot (List.mem_append_right _ (List.mem_singleton_self slot))
    exact NewSlot.distinct (σ := s.layout) new before offset
  | temp _ returned ih =>
    obtain ⟨-, rfl⟩ := Lower.draw_eq_ok.1 returned
    exact (ih offsets).of_slots_eq rfl (Nat.le_succ _)
  | label _ tag returned ih =>
    obtain ⟨-, rfl⟩ := Lower.newLabel_eq_ok.1 returned
    exact (ih offsets).of_slots_eq rfl (Nat.le_succ _)
  | other _ nextId same ih => exact (ih offsets).of_slots_eq same (Nat.le_of_eq nextId.symm)

end SinceStart

/-! ## §2. Steps of lowering. -/

/-- From any state after the start of a function the step leads to one after the start of a
function, whether it succeeds or fails. -/
def Followed {α : Type} (x : Lower α) : Prop :=
  ∀ ⦃s slots⦄, SinceStart slots s → ∃ slots', SinceStart slots' (reached (x s))

namespace Followed

variable {α β : Type}

theorem bind {x : Lower α} {f : α → Lower β} (first : Followed x) (next : ∀ a, Followed (f a)) :
    Followed (x >>= f) := by
  intro s slots since
  refine reached_bind_induction (p := fun t => ∃ slots', SinceStart slots' t) (first since) ?_
  rintro a t ⟨slots', since'⟩
  exact next a since'

/-- A step that leaves the counter and the slots as they are. -/
theorem of_same {x : Lower α} (nextId : ∀ s, (reached (x s)).nextId = s.nextId)
    (same : ∀ s, (reached (x s)).slots = s.slots) : Followed x := by
  intro s slots since
  exact ⟨slots, since.other (nextId s) (same s)⟩

theorem compositional : Compositional @Followed where
  pure _ := of_same (fun _ => rfl) fun _ => rfl
  bind first next := first.bind next
  fail _ := of_same (fun _ => rfl) fun _ => rfl
  unsupported _ _ := of_same (fun _ => rfl) fun _ => rfl
  unresolved _ _ := of_same (fun _ => rfl) fun _ => rfl
  emit _ := of_same (fun _ => rfl) fun _ => rfl
  draw _ slots since := ⟨slots, since.temp rfl⟩
  setDecl _ := of_same (fun _ => rfl) fun _ => rfl
  lookup name s slots since := by
    unfold Lower.lookup
    split <;> exact ⟨slots, since⟩

theorem newSlot (name : String) (pos : Pos) : Followed (Lower.newSlot name pos) := by
  intro s slots since
  obtain ⟨slot, t, returned, -⟩ := newSlot_ok name pos s
  rw [returned]
  exact ⟨slots ++ [slot], since.slot name pos returned⟩

theorem declare (name : Name) (storage : Storage) : Followed (Lower.declare name storage) := by
  intro s slots since
  unfold Lower.declare
  split
  · exact ⟨slots, since⟩
  · exact ⟨slots, since⟩
  · exact ⟨slots, since.other rfl rfl⟩

theorem withFrame {x : Lower α} (inside : Followed x) : Followed (Lower.withFrame x) := by
  intro s slots since
  have entered : SinceStart slots { s with scope := Frame.empty :: s.scope } :=
    since.other rfl rfl
  obtain ⟨slots', since'⟩ := inside entered
  rw [reached_withFrame]
  exact ⟨slots', since'.other rfl rfl⟩

theorem contextual : Contextual @Followed (@Followed Unit) where
  toCompositional := compositional
  newSlot := newSlot
  declare := declare
  framed inside := inside.withFrame
  ofFramed inFrame := inFrame

theorem lowerDefinition (symbol : String) (items : Reading (List Stmt)) :
    Followed (SlotIR.lowerDefinition symbol items) := by
  have counted : Followed lineCount := of_same (fun _ => rfl) fun _ => rfl
  have inserted (place : Nat) : Followed (insertAllocas place) :=
    of_same (fun _ => rfl) fun _ => rfl
  exact (compositional.emit _).bind fun _ => counted.bind fun place =>
    (contextual.lowerItems items).bind fun _ => (inserted place).bind fun _ =>
      (compositional.emit _).bind fun _ => (compositional.emit _).bind fun _ =>
        compositional.emit _

/-- The slots are followed anew from the start of the function on. -/
theorem lowerBody (name : Name) (symbol : String) :
    (body : Body) → Followed (SlotIR.lowerBody name symbol body)
  | .external => (compositional.emit _).bind fun _ => compositional.emit _
  | .stmts items =>
    have started : Followed (startFunction name.text) := fun s _ _ => ⟨[], .start name.text s⟩
    started.bind fun _ => (lowerDefinition symbol items).withFrame.bind fun _ =>
      compositional.setDecl none

theorem lowerFile (options : Options) (file : SourceFile) :
    Followed (SlotIR.lowerFile options file) :=
  compositional.lowerFile declare lowerBody withFrame options file

end Followed

/-! ## §3. Commands of a session. -/

/-- The command starts a module, and thereby sets the counter back. -/
def Command.startsModule : Command → Bool
  | .generate _ => true
  | _ => false

namespace Followed

theorem noResult {x : Lower Unit} (h : Followed x) : Followed (SlotIR.noResult x) :=
  h.bind fun _ => compositional.pure _

theorem withText {x : Lower String} (h : Followed x) : Followed (SlotIR.withText x) :=
  h.bind fun _ => compositional.pure _

/-- All commands but those that start a module are followed. -/
theorem run (options : Options) (command : Command)
    (within : command.startsModule = false) : Followed (command.run options) := by
  have steps := compositional
  cases command with
  | configure mainPackage symbolStem => exact steps.pure _
  | generate source => cases within
  | builtinsOnly => exact noResult (.of_same (fun _ => rfl) fun _ => rfl)
  | enter => exact noResult (.of_same (fun _ => rfl) fun _ => rfl)
  | leave =>
    refine noResult fun s slots since => ?_
    unfold Lower.leave
    split
    · exact ⟨slots, since⟩
    · exact ⟨slots, since.other rfl rfl⟩
  | emit line => exact noResult (steps.emit _)
  | temp => exact withText (steps.draw.bind fun _ => steps.pure _)
  | label tag => exact withText ((steps.newLabel tag).bind fun _ => steps.pure _)
  | slot name pos => exact withText ((newSlot name pos).bind fun _ => steps.pure _)
  | declare name storage => exact (declare name storage).bind fun _ => steps.pure _
  | declareGlobal typeName name storage =>
    exact noResult (steps.declareGlobal declare typeName name storage)
  | resolve kind name => exact (steps.resolve kind name).bind fun _ => steps.pure _
  | symbol source name => exact withText ((steps.read source).bind fun _ => steps.pure _)
  | expr e => exact withText ((steps.lowerExpr e).bind fun _ => steps.pure _)
  | stmt stmt => exact noResult (contextual.lowerStmt stmt)
  | function source func =>
    exact noResult ((steps.read source).bind fun _ => (steps.read func).bind fun fn =>
      steps.lowerFunction declare lowerBody _ _ fn)
  | header source => exact noResult ((steps.read source).bind fun _ => steps.emitHeader _)
  | initialiser source =>
    exact noResult ((steps.read source).bind fun _ => steps.lowerInitialiser _ _)
  | file source => exact noResult ((steps.read source).bind fun _ => lowerFile _ _)
  | entry source => exact noResult ((steps.read source).bind fun _ => steps.emitEntry _ _)

end Followed

namespace Session

/-- The session after commands are run in order, whether they succeed or fail. -/
def after (session : Session) (commands : List Command) : Session :=
  commands.foldl (fun current command => (current.step command).2) session

/-- A command is run with the options that are in force after it. -/
theorem state_step (session : Session) (command : Command) :
    (session.step command).2.state
      = reached (command.run (session.step command).2.options session.state) := by
  unfold step
  extract_lets options
  cases result : command.run options session.state with
  | ok a t => simp only [result, reached]
  | error fault t => simp only [result, reached]

end Session

/-- **Whatever a session does in a function is followed.**  From a state after the start of a
function, any commands lead to such a state again, perhaps of another function, as long as none of
them starts a module. -/
theorem SinceStart.after {session : Session} {slots : List Slot}
    (since : SinceStart slots session.state) (commands : List Command)
    (within : ∀ command ∈ commands, command.startsModule = false) :
    ∃ slots', SinceStart slots' (session.after commands).state := by
  -- each command leaves a session, with slots of its own, from which the others are run
  induction commands generalizing session slots with
  | nil => exact ⟨slots, since⟩
  | cons command rest ih =>
    obtain ⟨slots', since'⟩ := Followed.run (session.step command).2.options command
      (within command List.mem_cons_self) since
    rw [← session.state_step command] at since'
    exact ih since' fun later member => within later (List.mem_cons_of_mem command member)

/-! ## §4. The names of the slots. -/

/-- A request for a slot is answered with the name of the slot. -/
theorem Session.exists_step_slot (session : Session) (name : String) (pos : Pos) :
    ∃ slot state, Lower.newSlot name pos session.state = .ok slot state
      ∧ session.step (.slot name pos) = (.ok (.text slot.text), { session with state }) := by
  obtain ⟨slot, state, returned, -⟩ := newSlot_ok name pos session.state
  refine ⟨slot, state, returned, ?_⟩
  have ran : Command.run session.options (.slot name pos) session.state
      = .ok (.text slot.text) state :=
    Lower.bind_eq_ok.2 ⟨slot.text, state, Lower.bind_eq_ok.2 ⟨slot, state, returned, rfl⟩, rfl⟩
  unfold Session.step
  simp only [ran]

/-- **The names of slots never collide.**  Slots may have been requested since a function was
started, for any names and at any offsets, and between the requests temporaries and labels drawn
and anything else done that does not set the counter back.  Then the names that were returned are
told apart; the `alloca` lines name them, in the order of the requests; the set of reserved slots
is the set of them; and a further request is answered with a name that is not among them. -/
theorem Session.slotNames_distinct {session : Session} {slots : List Slot}
    (since : SinceStart slots session.state)
    (offsets : ∀ slot ∈ slots, slot.pos.isOffset = true) :
    (slots.map Slot.text).Nodup
      ∧ session.allocaTexts
          = slots.map (fun slot => "\t" ++ slot.text ++ " = alloca i32, align 4")
      ∧ session.slotTexts.Perm (slots.map Slot.text)
      ∧ ∀ (name : String) (pos : Int), ∃ slot next,
          session.step (.slot name (.offset pos)) = (.ok (.text slot.text), next)
            ∧ slot.text ∉ slots.map Slot.text
            ∧ SinceStart (slots ++ [slot]) next.state := by
  have distinct := since.distinct offsets
  have listed := since.slots_eq
  have names : (slots.map Slot.text).Nodup := listed ▸ distinct.nodup
  refine ⟨names, ?_, ?_, ?_⟩
  · unfold Session.allocaTexts
    rw [listed]
    rfl
  · unfold Session.slotTexts
    refine (List.mergeSort_perm _ _).trans ?_
    -- without repetitions, lists with the same members are rearrangements of each other
    have taken : session.state.reserved.taken.Nodup := by
      rw [session.state.reserved.inStep]
      exact Scope.nodup_eraseDups _
    rw [List.perm_ext_iff_of_nodup taken names, ← listed]
    intro name
    exact Reserved.mem_taken
  · intro name pos
    obtain ⟨slot, state, returned, answered⟩ := session.exists_step_slot name (.offset pos)
    obtain ⟨n, new, -⟩ := newSlot_sound returned
    have free : slot.text ∉ session.state.slots.map Slot.text :=
      NewSlot.text_notMem (σ := session.state.layout) new distinct rfl
    refine ⟨slot, _, answered, ?_, since.slot name _ returned⟩
    rw [← listed]
    exact free

/-- Requests for names with dots in them.  The function fails after it has reserved a slot for `a`
at 22; this name is then requested once more, and so is `a.pos.22` at 1, whose plain text goes on
where the first text ends. -/
def dottedRequests : List Command :=
  [.builtinsOnly, .enter,
    .function (.ok ⟨.offset 0, .ofText "main", .ok [], .ok []⟩) (.ok strayFunction),
    .slot "a" (.offset 22), .temp, .slot "a.pos.22" (.offset 1), .label "for.pos.22",
    .slot "a.pos.22" (.offset 1), .slot "a" (.offset (-22))]

/-- The session after these requests. -/
def dottedSession : Session := Session.after {} dottedRequests

/-- The names that the requests return. -/
def dottedNames : List String :=
  ["%local_a.pos.22", "%local_a.pos.22.1", "%local_a.pos.22.pos.1", "%local_a.pos.22.pos.1.4",
    "%local_a.pos.-22"]

/-- Names with dots in them are told apart, and the next one is another. -/
theorem Session.slotNames_distinct_dottedNames :
    SinceStart dottedSession.state.slots dottedSession.state
      ∧ (∀ slot ∈ dottedSession.state.slots, slot.pos.isOffset = true)
      ∧ dottedSession.state.slots.map Slot.text = dottedNames
      ∧ dottedNames.Nodup
      ∧ dottedSession.allocaTexts
          = dottedNames.map (fun name => "\t" ++ name ++ " = alloca i32, align 4")
      ∧ dottedSession.slotTexts.Perm dottedNames
      ∧ ∃ name next, dottedSession.step (.slot "a" (.offset 22)) = (.ok (.text name), next)
          ∧ name ∉ dottedNames := by
  have followed : ∃ slots, SinceStart slots dottedSession.state :=
    SinceStart.new.after dottedRequests (by decide)
  obtain ⟨returned, since⟩ := followed
  have listed := since.slots_eq
  rw [← listed] at since
  have offsets : ∀ slot ∈ dottedSession.state.slots, slot.pos.isOffset = true := by
    decide +kernel
  have texts : dottedSession.state.slots.map Slot.text = dottedNames := by decide +kernel
  obtain ⟨nodup, allocas, set, further⟩ := Session.slotNames_distinct since offsets
  obtain ⟨slot, next, answered, free, -⟩ := further "a" 22
  rw [texts] at nodup set free
  refine ⟨since, offsets, texts, nodup, ?_, set, slot.text, next, answered, free⟩
  rw [allocas, ← texts, List.map_map]
  rfl

/-- A module that is started in between sets the counter back, and a name is returned twice. -/
example :
    (Session.after {} [.slot "x" (.offset 1), .slot "x" (.offset 1),
      .generate (.ok ⟨.offset 0, .ofText "main", .ok [], .ok []⟩),
      .slot "x" (.offset 1)]).state.slots.map Slot.text
      = ["%local_x.pos.1", "%local_x.pos.1.0", "%local_x.pos.1.0"] := by
  decide +kernel

end SlotIR
