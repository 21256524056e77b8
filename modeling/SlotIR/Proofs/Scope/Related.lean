/-
  SlotIR.Proofs.Scope.Related
  ───────────────────────────
  **CHAINS THAT BIND THE SAME NAMES TO RELATED VALUES.**

  Two passes over a program declare the same names in the same frames, but
  each binds them to values of its own.  The chains of both are views of
  one chain of PAIRS, the two components of which are related.  All that
  the passes do to their chains keeps it so:

    • looking up      `Related.find?_some`, `Related.find?_none`
    • declaring       `Related.declare`
    • frames          `Related.enter`, `Related.leave`

  What the passes make of the values are lists that correspond element by
  element (`List.Forall₂`); such lists can be turned around and composed.
-/
import Mathlib.Data.List.Forall2
import SlotIR.Proofs.Scope.Mapping

namespace SlotIR

/-! ## §1. Lists. -/

section

variable {α β γ : Type} {P : α → β → Prop} {as : List α} {bs : List β}

/-- Each element of the first list has its counterpart in the second. -/
theorem exists_of_forall₂ (h : List.Forall₂ P as bs) : ∀ a ∈ as, ∃ b ∈ bs, P a b := by
  induction h with
  | nil => intro a member; cases member
  | cons related _ ih =>
    intro a member
    rcases List.mem_cons.1 member with rfl | later
    · exact ⟨_, List.mem_cons_self, related⟩
    · obtain ⟨b, inside, here⟩ := ih a later
      exact ⟨b, List.mem_cons_of_mem _ inside, here⟩

theorem forall₂_trans {Q : β → γ → Prop} {T : α → γ → Prop} {cs : List γ}
    (h : List.Forall₂ P as bs) (h' : List.Forall₂ Q bs cs)
    (compose : ∀ a b c, P a b → Q b c → T a c) : List.Forall₂ T as cs := by
  induction h generalizing cs with
  | nil =>
    cases h'
    exact .nil
  | cons related _ ih =>
    cases h' with
    | cons related' others' => exact .cons (compose _ _ _ related related') (ih others')

end

namespace Chain

/-! ## §2. Chains. -/

variable {κ β γ : Type}

/-- The chains bind the same names, in the same frames and order, to related values. -/
def Related (R : β → γ → Prop) (a : Chain κ β) (b : Chain κ γ) : Prop :=
  ∃ both : Chain κ (β × γ), map Prod.fst both = a ∧ map Prod.snd both = b
    ∧ ∀ pair ∈ values both, R pair.1 pair.2

variable {R S : β → γ → Prop} {a : Chain κ β} {b : Chain κ γ}

theorem Related.mono (h : Related R a b) (weaker : ∀ x y, R x y → S x y) : Related S a b := by
  obtain ⟨both, first, second, related⟩ := h
  exact ⟨both, first, second, fun pair member => weaker _ _ (related pair member)⟩

theorem Related.nil : Related R ([] : Chain κ β) [] :=
  ⟨[], rfl, rfl, fun _ member => by cases member⟩

/-- A frame is entered in both chains. -/
theorem Related.enter (h : Related R a b) : Related R (Frame.empty :: a) (Frame.empty :: b) := by
  obtain ⟨both, rfl, rfl, related⟩ := h
  exact ⟨Frame.empty :: both, rfl, rfl, related⟩

/-- A frame is left in both chains. -/
theorem Related.leave (h : Related R a b) : Related R a.tail b.tail := by
  obtain ⟨both, rfl, rfl, related⟩ := h
  cases both with
  | nil => exact .nil
  | cons frame outer =>
    exact ⟨outer, rfl, rfl, fun pair member => related pair (List.mem_append_right _ member)⟩

variable [DecidableEq κ]

/-- What a name means in the one chain has its counterpart in the other. -/
theorem Related.find?_some (h : Related R a b) {key : κ} {y : γ} (found : find? b key = some y) :
    ∃ x, find? a key = some x ∧ R x y := by
  obtain ⟨both, rfl, rfl, related⟩ := h
  rw [find?_map, Option.map_eq_some_iff] at found
  obtain ⟨pair, here, rfl⟩ := found
  refine ⟨pair.1, ?_, related pair (find?_mem_values here)⟩
  rw [find?_map, here]
  rfl

/-- The chains leave the same names without a meaning. -/
theorem Related.find?_none (h : Related R a b) (key : κ) :
    find? a key = none ↔ find? b key = none := by
  obtain ⟨both, rfl, rfl, -⟩ := h
  simp only [find?_map, Option.map_eq_none_iff]

/-- A name is declared in both chains. -/
theorem Related.declare (h : Related R a b) (key : κ) {x : β} {y : γ} (new : R x y) :
    Related R (declare a key x) (declare b key y) := by
  obtain ⟨both, rfl, rfl, related⟩ := h
  refine ⟨Chain.declare both key (x, y), map_declare _ _ _ _, map_declare _ _ _ _, ?_⟩
  intro pair member
  rcases values_declare member with old | rfl
  · exact related pair old
  · exact new

end Chain
end SlotIR
