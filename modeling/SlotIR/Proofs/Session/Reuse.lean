/-
  SlotIR.Proofs.Session.Reuse
  ───────────────────────────
  **A USED SESSION LOWERS A FILE LIKE A NEW ONE.**

  A session keeps its state from command to command, and a command that
  fails leaves behind what it had reached.  Lowering a file starts with
  setting four parts of the state anew,

      lines, scope, nextId, decl

  but not the slots: those of the last function stay until a function of
  the file resets them.  Two runs from states that agree on the four parts
  are therefore followed side by side.  They stay ALIKE (`State.Alike`) as
  long as no step looks at the slots (`SlotBlind`), and only the body of a
  function does, after it has started with none.  Main result:

    • `Session.step_generate_fresh` — the same text or fault, lines, next
      number, declaration and scopes as from a new session, whatever the
      state was before and wherever the run fails.
-/
import SlotIR.Lowering.Session
import SlotIR.Proofs.Lowering.Compositional

namespace SlotIR

/-! ## §1. States and outcomes that are alike. -/

/-- Apart from the slots, the states are the same. -/
structure State.Alike (s t : State) : Prop where
  lines : s.lines = t.lines
  scope : s.scope = t.scope
  nextId : s.nextId = t.nextId
  decl : s.decl = t.decl

theorem State.Alike.refl (s : State) : s.Alike s := ⟨rfl, rfl, rfl, rfl⟩

/-- Both runs return the same value, or both the same fault, and reach states that are alike. -/
inductive SameOutcome {α : Type} :
    EStateM.Result Fault State α → EStateM.Result Fault State α → Prop
  | ok (a : α) {s t : State} (alike : s.Alike t) : SameOutcome (.ok a s) (.ok a t)
  | error (fault : Fault) {s t : State} (alike : s.Alike t) :
    SameOutcome (.error fault s) (.error fault t)

theorem SameOutcome.refl {α : Type} (result : EStateM.Result Fault State α) :
    SameOutcome result result := by
  cases result with
  | ok a s => exact .ok a (.refl s)
  | error fault s => exact .error fault (.refl s)

/-- The outcome of a step does not depend on the slots. -/
def SlotBlind {α : Type} (x : Lower α) : Prop :=
  ∀ ⦃s t : State⦄, s.Alike t → SameOutcome (x s) (x t)

/-- Runs that are alike so far go on alike. -/
theorem SameOutcome.bind {α β : Type} {x : Lower α} {f : α → Lower β} {s t : State}
    (first : SameOutcome (x s) (x t)) (next : ∀ a, SlotBlind (f a)) :
    SameOutcome ((x >>= f) s) ((x >>= f) t) := by
  show SameOutcome (EStateM.bind x f s) (EStateM.bind x f t)
  unfold EStateM.bind
  generalize x s = left at first ⊢
  generalize x t = right at first ⊢
  cases first with
  | ok a reached => exact next a reached
  -- the second step is not reached on either side
  | error fault reached => exact .error fault reached

/-! ## §2. Steps that do not look at the slots. -/

/-- No elementary step but the reservation of a slot looks at the slots. -/
theorem SlotBlind.compositional : Compositional @SlotBlind where
  pure a _ _ alike := .ok a alike
  bind first next _ _ alike := (first alike).bind next
  fail fault _ _ alike := .error fault alike
  unsupported typeName detail s t alike := by
    unfold Lower.unsupported
    rw [alike.decl]
    exact .error _ alike
  unresolved kind name s t alike := by
    unfold Lower.unresolved
    rw [alike.decl]
    exact .error _ alike
  emit line _ _ alike :=
    .ok () ⟨congrArg (· ++ [line]) alike.lines, alike.scope, alike.nextId, alike.decl⟩
  draw s t alike := by
    unfold Lower.draw
    rw [alike.nextId]
    exact .ok _ ⟨alike.lines, alike.scope, rfl, alike.decl⟩
  setDecl decl _ _ alike := .ok () ⟨alike.lines, alike.scope, alike.nextId, rfl⟩
  lookup name s t alike := by
    unfold Lower.lookup
    rw [alike.scope]
    split
    · exact .error _ alike
    · exact .error _ alike
    · exact .ok _ alike

namespace SlotBlind

theorem declare (name : Name) (storage : Storage) : SlotBlind (Lower.declare name storage) := by
  intro s t alike
  unfold Lower.declare
  rw [alike.scope]
  split
  · exact .error _ alike
  · exact .error _ alike
  · exact .ok _ ⟨alike.lines, rfl, alike.nextId, alike.decl⟩

theorem withFrame {α : Type} {x : Lower α} (inside : SlotBlind x) :
    SlotBlind (Lower.withFrame x) := by
  intro s t alike
  have entered : State.Alike { s with scope := Frame.empty :: s.scope }
      { t with scope := Frame.empty :: t.scope } :=
    ⟨alike.lines, congrArg (Frame.empty :: ·) alike.scope, alike.nextId, alike.decl⟩
  have outcome := inside entered
  unfold Lower.withFrame
  generalize x _ = left at outcome ⊢
  generalize x _ = right at outcome ⊢
  cases outcome with
  | ok a reached =>
    exact .ok a ⟨reached.lines, congrArg List.tail reached.scope, reached.nextId, reached.decl⟩
  | error fault reached =>
    exact .error fault
      ⟨reached.lines, congrArg List.tail reached.scope, reached.nextId, reached.decl⟩

/-- The slots that a function finds are not those it starts with. -/
theorem startFunction {α : Type} {x : Lower α} (name : String) :
    SlotBlind (do SlotIR.startFunction name; x) := by
  intro s t alike
  have same : SlotIR.startFunction name s = SlotIR.startFunction name t := by
    unfold SlotIR.startFunction
    rw [alike.lines, alike.scope, alike.nextId]
  show SameOutcome (EStateM.bind _ _ s) (EStateM.bind _ _ t)
  unfold EStateM.bind
  rw [same]
  exact .refl _

theorem lowerBody (name : Name) (symbol : String) :
    (body : Body) → SlotBlind (SlotIR.lowerBody name symbol body)
  | .external => compositional.bind (compositional.emit _) fun _ => compositional.emit _
  | .stmts _ => startFunction _

theorem lowerFile (options : Options) (file : SourceFile) :
    SlotBlind (SlotIR.lowerFile options file) :=
  compositional.lowerFile declare lowerBody withFrame options file

theorem currentText : SlotBlind SlotIR.currentText := by
  intro s t alike
  unfold SlotIR.currentText
  rw [alike.lines]
  exact .ok _ alike

end SlotBlind

/-! ## §3. Modules. -/

/-- What follows the start of a module does not depend on the state before it, if it does not look
at the slots. -/
theorem sameOutcome_startModule {α : Type} {x : Lower α} (blind : SlotBlind x) (s t : State) :
    SameOutcome ((do startModule; x) s) ((do startModule; x) t) :=
  blind ⟨rfl, rfl, rfl, rfl⟩

/-- Any two states lead to the same text or fault. -/
theorem sameOutcome_generateRead (options : Options) (source : Reading SourceFile)
    (s t : State) :
    SameOutcome (generateRead options source s) (generateRead options source t) := by
  have steps := SlotBlind.compositional
  cases source with
  | ok file =>
    refine sameOutcome_startModule ?_ s t
    exact steps.bind (steps.emitHeader _) fun _ =>
      steps.bind (SlotBlind.lowerFile options file) fun _ =>
        steps.bind (steps.emitEntry options file) fun _ => SlotBlind.currentText
  | error fault => exact sameOutcome_startModule (steps.fail _) s t

/-- **A used session lowers a file like a new one.**  Whatever commands led to a session, with the
file it returns the text or fault that a new session with the same options returns, and it reaches
the same lines, next number, declaration and scopes. -/
theorem Session.step_generate_fresh (session : Session) (source : Reading SourceFile) :
    let used := session.step (.generate source)
    let new := Session.step { options := session.options } (.generate source)
    used.1 = new.1
      ∧ used.2.state.lines = new.2.state.lines
      ∧ used.2.state.nextId = new.2.state.nextId
      ∧ used.2.state.decl = new.2.state.decl
      ∧ used.2.state.scope = new.2.state.scope := by
  have same : SameOutcome (withText (generateRead session.options source) session.state)
      (withText (generateRead session.options source) {}) :=
    (sameOutcome_generateRead session.options source session.state {}).bind fun _ =>
      SlotBlind.compositional.pure _
  unfold Session.step Command.run
  simp only
  generalize withText _ session.state = left at same ⊢
  generalize withText _ {} = right at same ⊢
  cases same with
  | ok a reached => exact ⟨rfl, reached.lines, reached.nextId, reached.decl, reached.scope⟩
  | error fault reached =>
    exact ⟨rfl, reached.lines, reached.nextId, reached.decl, reached.scope⟩

end SlotIR
