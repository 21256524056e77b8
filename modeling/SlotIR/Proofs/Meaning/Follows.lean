/-
  SlotIR.Proofs.Meaning.Follows
  ─────────────────────────────
  **THE MACHINE FOLLOWS A RUN.**

  A run of the source has a result: a value, an end of the function, or a
  loop that goes on for too many rounds.  From a configuration the machine
  follows it if it gets to a configuration that fits the value, or ends in
  the same way, or is still running after enough steps with the same to be
  seen from outside.  How many are enough is counted from behind: each
  round of a loop adds at least one to it.

  The rules follow how runs are composed (`Follows.bind`), how the machine
  steps (`Follows.step`), and how loops repeat (`Follows.repeatRounds`).
-/
import SlotIR.Proofs.Emission.Numbering
import SlotIR.Proofs.Meaning.Source
import SlotIR.Proofs.Meaning.Target
import SlotIR.Proofs.Target.Names

namespace SlotIR

/-! ## §1. What can be seen. -/

/-- The same can be seen of a world and a configuration. -/
structure Shows (w : World) (c : Config) : Prop where
  globals : c.globals = w.globals
  calls : c.calls = w.calls

/-- From a configuration the machine gets to where a run has got to.  A value must fit afterwards;
a loop that goes on must have taken `n` steps. -/
def Follows (handler : Handler) (body : List Line) (n : Nat) (c : Config) {α : Type}
    (fits : α → World → Config → Prop) : EStateM.Result Stop World α → Prop
  | .ok a w => ∃ m next, after handler body m c = .running next ∧ fits a w next
  | .error (.ended ending) w =>
    ending ≠ .stuck ∧ ∃ m last, after handler body m c = .ended ending last ∧ Shows w last
  | .error .outOfRounds w =>
    ∃ m next, n ≤ m ∧ after handler body m c = .running next ∧ Shows w next

namespace Follows

variable {handler : Handler} {body : List Line} {n k : Nat} {c next : Config} {α β : Type}
  {fits : α → World → Config → Prop} {thenFits : β → World → Config → Prop}
  {result : EStateM.Result Stop World α}

/-! ## §2. Rules. -/

/-- A value that fits at once. -/
theorem here {a : α} {w : World} (fit : fits a w c) :
    Follows handler body n c fits (.ok a w) :=
  ⟨0, c, rfl, fit⟩

/-- The next step ends the function in the same way. -/
theorem ends {ending : Ending} {w : World} {last : Config} (sound : ending ≠ .stuck)
    (stepped : SlotIR.step handler body c = .ended ending last) (shows : Shows w last) :
    Follows handler body n c fits (.error (.ended ending) w) :=
  ⟨sound, 1, last, after_succ_of_ended stepped, shows⟩

/-- Fewer steps may be asked for. -/
theorem mono (h : Follows handler body n c fits result) (le : k ≤ n) :
    Follows handler body k c fits result := by
  cases result with
  | ok a w => exact h
  | error stop w =>
    cases stop with
    | ended ending => exact h
    | outOfRounds =>
      obtain ⟨m, next, enough, ran, shows⟩ := h
      exact ⟨m, next, by omega, ran, shows⟩

/-- Less may be asked of what fits. -/
theorem imp {other : α → World → Config → Prop} (h : Follows handler body n c fits result)
    (weaken : ∀ a w c, fits a w c → other a w c) :
    Follows handler body n c other result := by
  cases result with
  | ok a w =>
    obtain ⟨m, next, ran, fit⟩ := h
    exact ⟨m, next, ran, weaken a w next fit⟩
  | error stop w => cases stop <;> exact h

/-- **Steps that the machine takes first.** -/
theorem steps {m : Nat} (ran : after handler body m c = .running next)
    (h : Follows handler body n next fits result) : Follows handler body (m + n) c fits result := by
  cases result with
  | ok a w =>
    obtain ⟨k, last, more, fit⟩ := h
    exact ⟨m + k, last, (after_add ran k).trans more, fit⟩
  | error stop w =>
    cases stop with
    | ended ending =>
      obtain ⟨sound, k, last, more, shows⟩ := h
      exact ⟨sound, m + k, last, (after_add ran k).trans more, shows⟩
    | outOfRounds =>
      obtain ⟨k, last, enough, more, shows⟩ := h
      exact ⟨m + k, last, by omega, (after_add ran k).trans more, shows⟩

/-- One step more makes one step more. -/
theorem step_succ (stepped : SlotIR.step handler body c = .running next)
    (h : Follows handler body n next fits result) :
    Follows handler body (n + 1) c fits result := by
  have one : after handler body 1 c = .running next := after_succ_of_running stepped
  rw [Nat.add_comm]
  exact h.steps one

theorem step (stepped : SlotIR.step handler body c = .running next)
    (h : Follows handler body n next fits result) : Follows handler body n c fits result :=
  (h.step_succ stepped).mono (Nat.le_succ n)

/-- **Runs are followed one after the other.** -/
theorem bind {x : Run α} {f : α → Run β} {w : World}
    (first : Follows handler body n c fits (x w))
    (second : ∀ a w' c', fits a w' c' → Follows handler body n c' thenFits (f a w')) :
    Follows handler body n c thenFits ((x >>= f) w) := by
  show Follows handler body n c thenFits (EStateM.bind x f w)
  unfold EStateM.bind
  cases ran : x w with
  | ok a w' =>
    rw [ran] at first
    obtain ⟨m, next, reached, fit⟩ := first
    have later := (second a w' next fit).steps reached
    exact later.mono (Nat.le_add_left n m)
  | error stop w' =>
    rw [ran] at first
    cases stop <;> exact first

/-- A run that only continues with another value. -/
theorem map {x : Run α} {f : α → β} {w : World}
    (h : Follows handler body n c (fun a => thenFits (f a)) (x w)) :
    Follows handler body n c thenFits ((x >>= fun a => pure (f a)) w) :=
  h.bind fun _ _ _ fit => here fit

/-! ## §3. Loops. -/

/-- **A loop is followed round by round.**  The invariant holds at its head.  A round that is not the
last one ends with a step back to the head, so that each round counts. -/
theorem repeatRounds {round : Run Bool} {atHead : World → Config → Prop}
    {fits : World → Config → Prop} (shows : ∀ w c, atHead w c → Shows w c)
    (each : ∀ w c, atHead w c → Follows handler body n c
      (fun goesOn w' c' => if goesOn = true then
        ∃ head, SlotIR.step handler body c' = .running head ∧ atHead w' head else fits w' c')
      (round w))
    (le : k ≤ n) {w : World} (start : atHead w c) :
    Follows handler body k c (fun _ => fits) (SlotIR.repeatRounds k round w) := by
  induction k generalizing c w with
  | zero =>
    exact ⟨0, c, Nat.le_refl 0, rfl, shows w c start⟩
  | succ k ih =>
    -- a round may be cut off itself, after at least as many steps as there are rounds left
    refine ((each w c start).mono le).bind fun goesOn w' c' outcome => ?_
    cases goesOn with
    | false => exact here outcome
    | true =>
      obtain ⟨head, back, again⟩ := outcome
      exact step_succ back (ih (by omega) again)

/-- A round is followed part by part. -/
theorem roundOf {test : Run Bool} {one two : Run Env} {w : World}
    {yes between again no : World → Config → Prop}
    (tests : Follows handler body n c
      (fun goesOn w' c' => if goesOn = true then yes w' c' else no w' c') (test w))
    (first : ∀ w c, yes w c → Follows handler body n c (fun _ => between) (one w))
    (second : ∀ w c, between w c → Follows handler body n c (fun _ => again) (two w)) :
    Follows handler body n c (fun goesOn w' c' => if goesOn = true then again w' c' else no w' c')
      (SlotIR.roundOf test one two w) := by
  refine tests.bind fun goesOn w' c' outcome => ?_
  cases goesOn with
  | false => exact here outcome
  | true =>
    refine (first w' c' outcome).bind fun _ w₁ c₁ reached => ?_
    exact (second w₁ c₁ reached).bind fun _ w₂ c₂ last => here last

end Follows

/-! ## §4. Single lines. -/

section

variable {handler : Handler} {body rest : List Line} {c : Config}

theorem step_instr {i : Instr} (next : c.rest = .instr i :: rest) :
    step handler body c = perform handler body { c with rest } i := by
  unfold step
  rw [next]

/-- Lines go on after a label that they contain once. -/
theorem linesAfter_append {before : List Line} {l : Label}
    (once : ∀ i, (drawn (before ++ .label l :: rest)).count i ≤ 1) :
    linesAfter (before ++ .label l :: rest) l.text = some rest := by
  induction before with
  | nil => exact if_pos rfl
  | cons line before ih =>
    have later : linesAfter (before ++ .label l :: rest) l.text = some rest := by
      refine ih fun i => ?_
      have all := once i
      rw [List.cons_append, drawn_cons, List.count_append] at all
      omega
    cases line with
    | label other =>
      -- two labels with one text would show one number twice
      have apart : other.text ≠ l.text := by
        intro same
        have all := once l.number
        have number : other.number = l.number := Label.number_eq same
        simp [Line.drawn, number] at all
      exact (if_neg apart).trans later
    | _ => exact later

/-- A jump goes on after its label. -/
theorem goTo_eq {l : Label} (once : ∀ i, (drawn body).count i ≤ 1)
    (stands : (.label l :: rest) <:+ body) : goTo body c l = .running { c with rest } := by
  obtain ⟨before, split⟩ := stands
  have found : linesAfter body l.text = some rest := by
    rw [← split] at once ⊢
    exact linesAfter_append once
  unfold goTo
  rw [found]

end

end SlotIR
