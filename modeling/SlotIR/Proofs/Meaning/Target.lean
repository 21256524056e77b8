/-
  SlotIR.Proofs.Meaning.Target
  ────────────────────────────
  **HOW EMITTED CODE RUNS.**

  A machine steps through the lines of one function.  It keeps the lines
  that are still to come, the temporaries, the stack slots, and what can be
  seen from outside.  A branch goes on after the label line it names; a
  block cannot run into the next one.  An i1 and an i32 are different
  things, a slot must be reserved before it is used, and what is read from
  one that was not written is undefined.

  Every other place is a symbol, and a symbol is a cell of memory like any
  other, also that of a function or of a builtin: it can be read and
  written, and what is written there changes no call.  Programs are given
  the same meaning (`SlotIR.Proofs.Meaning.Source`).
-/
import SlotIR.Proofs.Meaning.Behaviour
import SlotIR.Proofs.Structure.Definitions

namespace SlotIR

/-! ## §1. Configurations. -/

/-- The value of a temporary. -/
inductive TempValue where
  | i1 (b : Bool)
  | i32 (v : Word)
  deriving DecidableEq, Repr

/-- Where a function is, and what it works on. -/
structure Config where
  /-- The lines to come. -/
  rest : List Line
  /-- The temporaries, by their numbers. -/
  temps : Nat → Option TempValue
  /-- The reserved slots by their texts, and what was written to them. -/
  slots : String → Option (Option Word)
  globals : Globals
  calls : List Call

/-- A function that runs, or has ended. -/
inductive Status where
  | running (c : Config)
  | ended (ending : Ending) (c : Config)

namespace Config

/-- Define a temporary. -/
def define (c : Config) (dst : Nat) (v : TempValue) : Config :=
  { c with temps := fun n => if n = dst then some v else c.temps n }

/-- The i32 value of an operand. -/
def value (c : Config) : Operand → Option Word
  | .const n => some (wrap n)
  | .temp n =>
    match c.temps n with
    | some (.i32 v) => some v
    | _ => none

/-- What stands at a place. -/
def read (c : Config) : Storage → Except Ending Word
  | .slot slot =>
    match c.slots slot.text with
    -- not reserved, or reserved and not written yet
    | none => .error .stuck
    | some none => .error .undefined
    | some (some v) => .ok v
  | place => .ok (c.globals place.text)

/-- Write to a slot. -/
def setSlot (c : Config) (text : String) (v : Option Word) : Config :=
  { c with slots := fun other => if other = text then some v else c.slots other }

/-- Write to a place. -/
def write (c : Config) (v : Word) : Storage → Option Config
  | .slot slot =>
    match c.slots slot.text with
    | none => none
    | some _ => some (c.setSlot slot.text (some v))
  | place => some { c with globals := fun other =>
      if other = place.text then v else c.globals other }

end Config

/-! ## §2. Steps. -/

/-- The lines after a label. -/
def linesAfter : List Line → String → Option (List Line)
  | [], _ => none
  | .label l :: rest, text => if l.text = text then some rest else linesAfter rest text
  | _ :: rest, text => linesAfter rest text

section

variable (handler : Handler) (body : List Line)

/-- Go on after a label. -/
def goTo (c : Config) (target : Label) : Status :=
  match linesAfter body target.text with
  | some rest => .running { c with rest }
  | none => .ended .stuck c

/-- Call the function at a symbol. -/
def performCall (c : Config) (call : Call) (dst : Option Nat) : Status :=
  let calls := c.calls ++ [call]
  match handler calls c.globals with
  | none => .ended .abandoned { c with calls }
  | some (answer, globals) =>
    let after := { c with globals, calls }
    .running (match dst with
      | some n => after.define n (.i32 answer)
      | none => after)

/-- Perform an instruction. -/
def perform (c : Config) : Instr → Status
  | .load dst source =>
    match c.read source with
    | .ok v => .running (c.define dst (.i32 v))
    | .error ending => .ended ending c
  | .arith dst op left right =>
    match c.value left, c.value right with
    | some a, some b =>
      match op.execute a b with
      | some v => .running (c.define dst (.i32 v))
      | none => .ended .undefined c
    | _, _ => .ended .stuck c
  | .compare dst op left right =>
    match c.value left, c.value right with
    | some a, some b => .running (c.define dst (.i1 (op.execute a b)))
    | _, _ => .ended .stuck c
  | .widen dst flag =>
    match c.temps flag with
    | some (.i1 b) => .running (c.define dst (.i32 (ofBool b)))
    | _ => .ended .stuck c
  | .call dst callee arg =>
    match c.value arg, callee with
    | none, _ => .ended .stuck c
    -- the address of a slot is not that of a function
    | some _, .slot _ => .ended .undefined c
    | some a, place => performCall handler c ⟨place.text, some a⟩ (some dst)
  | .store v target =>
    match c.value v with
    | none => .ended .stuck c
    | some a =>
      match c.write a target with
      | some after => .running after
      | none => .ended .stuck c
  | .jump target => goTo body c target
  | .branch flag ifTrue ifFalse =>
    match c.temps flag with
    | some (.i1 b) => goTo body c (if b then ifTrue else ifFalse)
    | _ => .ended .stuck c
  | .ret => .ended .returned c
  | .alloca slot => .running (c.setSlot slot.text none)
  | .invoke callee => performCall handler c ⟨callee, none⟩ none

/-- Perform the next line. -/
def step (c : Config) : Status :=
  match c.rest with
  | .instr i :: rest => perform handler body { c with rest } i
  | .blank :: rest => .running { c with rest }
  -- a label is gone to but not run into; at the end there is nothing to run
  | _ => .ended .stuck c

/-- The status after a number of steps. -/
def after : Nat → Config → Status
  | 0, c => .running c
  | n + 1, c =>
    match step handler body c with
    | .running next => after n next
    | .ended ending last => .ended ending last

end

/-! ## §3. Behaviour. -/

/-- The configuration that a function has, or had last. -/
def Status.config : Status → Config
  | .running c => c
  | .ended _ c => c

/-- What a status shows. -/
def Status.outcome : Status → Outcome
  | .running c => ⟨none, c.globals, c.calls⟩
  | .ended ending c => ⟨some ending, c.globals, c.calls⟩

theorem Status.calls_outcome (status : Status) : status.outcome.calls = status.config.calls := by
  cases status <;> rfl

/-- A function before its first line. -/
def startConfig (body : List Line) (globals : Globals) (calls : List Call) : Config where
  rest := body
  temps := fun _ => none
  slots := fun _ => none
  globals := globals
  calls := calls

/-- What a function shows after ever more steps. -/
def Definition.behaviour (handler : Handler) (globals : Globals) (calls : List Call)
    (d : Definition) (n : Nat) : Outcome :=
  (after handler d.body n (startConfig d.body globals calls)).outcome

/-! ## §4. Runs of several steps. -/

section

variable {handler : Handler} {body : List Line}

/-- A first step that does not end the function can be taken off. -/
theorem after_succ_of_running {n : Nat} {c next : Config}
    (h : step handler body c = .running next) :
    after handler body (n + 1) c = after handler body n next := by
  rw [after, h]

/-- Where the first step ends the function, no other is taken. -/
theorem after_succ_of_ended {n : Nat} {c last : Config} {ending : Ending}
    (h : step handler body c = .ended ending last) :
    after handler body (n + 1) c = .ended ending last := by
  rw [after, h]

/-- Steps that do not end the function can be counted off. -/
theorem after_add {n : Nat} {c next : Config} (h : after handler body n c = .running next)
    (m : Nat) : after handler body (n + m) c = after handler body m next := by
  induction n generalizing c with
  | zero =>
    cases h
    rw [Nat.zero_add]
  | succ n ih =>
    rw [Nat.succ_add]
    cases stepped : step handler body c with
    | running other =>
      rw [after_succ_of_running stepped] at h ⊢
      exact ih h
    | ended ending last =>
      rw [after_succ_of_ended stepped] at h
      cases h

/-- A function that has ended stays as it is. -/
theorem after_of_ended {n : Nat} {c last : Config} {ending : Ending}
    (h : after handler body n c = .ended ending last) (m : Nat) :
    after handler body (n + m) c = .ended ending last := by
  induction n generalizing c with
  | zero => cases h
  | succ n ih =>
    rw [Nat.succ_add]
    cases stepped : step handler body c with
    | running other =>
      rw [after_succ_of_running stepped] at h ⊢
      exact ih h
    | ended ending' last' =>
      rw [after_succ_of_ended stepped] at h ⊢
      exact h

/-! ## §5. Calls are never taken back. -/

theorem calls_goTo (c : Config) (target : Label) :
    c.calls <+: (goTo body c target).config.calls := by
  unfold goTo
  cases linesAfter body target.text <;> exact List.prefix_rfl

theorem calls_performCall (c : Config) (call : Call) (dst : Option Nat) :
    c.calls <+: (performCall handler c call dst).config.calls := by
  unfold performCall
  cases answered : handler (c.calls ++ [call]) c.globals with
  | none =>
    simp only [answered]
    exact List.prefix_append _ _
  | some answer =>
    obtain ⟨v, globals⟩ := answer
    simp only [answered]
    cases dst <;> exact List.prefix_append _ _

theorem calls_write {c after : Config} {v : Word} {place : Storage}
    (h : c.write v place = some after) : c.calls <+: after.calls := by
  unfold Config.write at h
  cases place with
  | slot slot =>
    cases reserved : c.slots slot.text with
    | none =>
      simp [reserved] at h
    | some old =>
      simp only [reserved, Option.some.injEq] at h
      cases h
      exact List.prefix_rfl
  | symbol text =>
    cases h
    exact List.prefix_rfl
  | given value =>
    cases h
    exact List.prefix_rfl

/-- An instruction takes back no call. -/
theorem calls_perform (c : Config) (i : Instr) :
    c.calls <+: (perform handler body c i).config.calls := by
  unfold perform
  split
  · split <;> exact List.prefix_rfl
  · split
    · split <;> exact List.prefix_rfl
    · exact List.prefix_rfl
  · split <;> exact List.prefix_rfl
  · split <;> exact List.prefix_rfl
  · split
    · exact List.prefix_rfl
    · exact List.prefix_rfl
    · exact calls_performCall _ _ _
  · split
    · exact List.prefix_rfl
    · split
      · rename_i written
        exact calls_write written
      · exact List.prefix_rfl
  · exact calls_goTo _ _
  · split
    · exact calls_goTo _ _
    · exact List.prefix_rfl
  · exact List.prefix_rfl
  · exact List.prefix_rfl
  · exact calls_performCall _ _ _

/-- A step takes back no call. -/
theorem calls_step (c : Config) : c.calls <+: (step handler body c).config.calls := by
  unfold step
  split
  · rename_i i rest _
    exact calls_perform { c with rest } i
  · exact List.prefix_rfl
  · exact List.prefix_rfl

/-- **A longer run shows at least the calls of a shorter one.** -/
theorem calls_after_le {n m : Nat} (le : n ≤ m) (c : Config) :
    (after handler body n c).config.calls <+: (after handler body m c).config.calls := by
  induction n generalizing m c with
  | zero =>
    show c.calls <+: _
    -- from here on the number of steps is arbitrary
    clear le
    induction m generalizing c with
    | zero => exact List.prefix_rfl
    | succ m ih =>
      have first : c.calls <+: (step handler body c).config.calls := calls_step c
      cases stepped : step handler body c with
      | running next =>
        rw [stepped] at first
        rw [after_succ_of_running stepped]
        exact first.trans (ih next)
      | ended ending last =>
        rw [stepped] at first
        rw [after_succ_of_ended stepped]
        exact first
  | succ n ih =>
    obtain ⟨m, rfl⟩ : ∃ k, m = k + 1 := ⟨m - 1, by omega⟩
    cases stepped : step handler body c with
    | running next =>
      rw [after_succ_of_running stepped, after_succ_of_running stepped]
      exact ih (by omega) next
    | ended ending last =>
      have same : after handler body (n + 1) c = after handler body (m + 1) c :=
        (after_succ_of_ended stepped).trans (after_succ_of_ended stepped).symm
      exact same ▸ List.prefix_rfl

end

end SlotIR
