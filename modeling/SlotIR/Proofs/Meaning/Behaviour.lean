/-
  SlotIR.Proofs.Meaning.Behaviour
  ───────────────────────────────
  **WHAT CAN BE OBSERVED OF A FUNCTION.**

  A function reads and writes package variables, calls other functions,
  and ends or goes on for ever.  What other functions do is left open: a
  HANDLER answers each call, and may depend on all calls so far and on the
  package variables, which it may change.  A call may also never return.

  A run is seen through ever longer experiments, one for each natural
  number: the outcome of an experiment says whether and how the function
  has ended within it, and shows the package variables and the calls up to
  there.  Two functions have the same behaviour if they end in the same
  ways, and make the same calls even if they never end
  (`SameBehaviour`).
-/
import SlotIR.Proofs.Meaning.Word

namespace SlotIR

/-! ## §1. Calls. -/

/-- A call of the function at a symbol. -/
structure Call where
  callee : String
  arg : Option Word
  deriving DecidableEq, Repr

/-- The values of package variables, by their symbols. -/
abbrev Globals := String → Word

/-- What calls do.  The calls so far end with the one to answer; without an answer it never
returns. -/
abbrev Handler := List Call → Globals → Option (Word × Globals)

/-! ## §2. Outcomes. -/

/-- How a function ends. -/
inductive Ending where
  /-- It returns. -/
  | returned
  /-- An operation has no defined result. -/
  | undefined
  /-- A call does not return. -/
  | abandoned
  /-- It is not a function that makes sense: a name without a meaning, a value of a wrong type, a
  block without an end. -/
  | stuck
  deriving DecidableEq, Repr

/-- What an experiment shows. -/
structure Outcome where
  /-- How the function has ended, if it has. -/
  ending : Option Ending
  globals : Globals
  calls : List Call

/-- The same can be observed, and neither of the two functions is ever stuck. -/
structure SameBehaviour (source target : Nat → Outcome) : Prop where
  /-- They end in the same ways, with the same package variables and calls. -/
  ends : ∀ outcome, outcome.ending.isSome = true →
    ((∃ n, source n = outcome) ↔ ∃ n, target n = outcome)
  /-- They make the same calls, also if they do not end. -/
  calls : ∀ trace, (∃ n, trace <+: (source n).calls) ↔ ∃ n, trace <+: (target n).calls
  /-- They always make sense. -/
  never_stuck : ∀ n, (source n).ending ≠ some .stuck ∧ (target n).ending ≠ some .stuck

/-! ## §3. From each experiment to all of them. -/

section

variable {source target : Nat → Outcome}

/-- A target that has ended stays as it is. -/
theorem outcome_unique (stable : ∀ n m, (target n).ending.isSome = true → target (n + m) = target n)
    {n m : Nat} (first : (target n).ending.isSome = true) (second : (target m).ending.isSome = true) :
    target n = target m := by
  rcases Nat.le_total n m with le | le
  · obtain ⟨k, rfl⟩ := Nat.exists_eq_add_of_le le
    exact (stable n k first).symm
  · obtain ⟨k, rfl⟩ := Nat.exists_eq_add_of_le le
    exact stable m k second

/-- **It is enough that each experiment on the source is matched by one on the target**, which lasts
as long if it does not end: the target has no other behaviour, since it has only one. -/
theorem sameBehaviour_of_matched
    (stable : ∀ n m, (target n).ending.isSome = true → target (n + m) = target n)
    (grows : ∀ n m, (target n).calls <+: (target (n + m)).calls)
    (sound : ∀ n, (source n).ending ≠ some .stuck)
    (matched : ∀ n, ∃ m, target m = source n ∧ ((source n).ending = none → n ≤ m)) :
    SameBehaviour source target := by
  have ends : ∀ outcome, outcome.ending.isSome = true →
      ((∃ n, source n = outcome) ↔ ∃ n, target n = outcome) := by
    intro outcome ended
    constructor
    · rintro ⟨n, rfl⟩
      obtain ⟨m, same, -⟩ := matched n
      exact ⟨m, same⟩
    · rintro ⟨n, rfl⟩
      -- a source that has not ended would be matched by a longer run of the target, which has ended
      obtain ⟨m, same, longer⟩ := matched n
      refine ⟨n, ?_⟩
      cases open_end : (source n).ending with
      | none =>
        obtain ⟨k, rfl⟩ := Nat.exists_eq_add_of_le (longer open_end)
        rw [← same, stable n k ended]
      | some ending =>
        have closed : (target m).ending.isSome = true := by rw [same, open_end]; rfl
        rw [← same, outcome_unique stable closed ended]
  refine ⟨ends, fun trace => ⟨?_, ?_⟩, fun n => ⟨sound n, fun stuck => ?_⟩⟩
  · rintro ⟨n, shown⟩
    obtain ⟨m, same, -⟩ := matched n
    exact ⟨m, same ▸ shown⟩
  · rintro ⟨n, shown⟩
    obtain ⟨m, same, longer⟩ := matched n
    refine ⟨n, ?_⟩
    rw [← same]
    rcases Nat.le_total n m with le | le
    · obtain ⟨k, rfl⟩ := Nat.exists_eq_add_of_le le
      exact shown.trans (grows n k)
    · obtain ⟨k, rfl⟩ := Nat.exists_eq_add_of_le le
      cases open_end : (source (m + k)).ending with
      | none =>
        obtain rfl : k = 0 := by
          have := longer open_end
          omega
        exact shown
      | some ending =>
        have closed : (target m).ending.isSome = true := by rw [same, open_end]; rfl
        rw [stable m k closed] at shown
        exact shown
  · obtain ⟨m, same⟩ := (ends (target n) (by rw [stuck]; rfl)).2 ⟨n, rfl⟩
    exact sound m (same ▸ stuck)

end

end SlotIR
