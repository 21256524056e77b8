/-
  SlotIR.Proofs.Flow.Paths
  ────────────────────────
  **LOADS AND STORES ALONG PATHS.**

  A path through a function starts in its entry block, and goes on from a
  block to one that it branches to, for ever if it likes.  What has been
  stored on a path is bounded from below by a table E that says for each
  label which slots are stored whenever control gets there.  The table is
  right if one walk over the lines agrees with it (`Flows`):

      load of a slot     the slot is stored by now
      branch to l        all of E l are stored by now
      label l            from here on, E l are stored

  Although paths are endless, the walk meets each line once.  If it agrees
  with some table, then on every path each load of a slot comes after a
  store to it (`Flows.loadsAfterStores`).
-/
import Mathlib.Data.Set.Basic
import SlotIR.Proofs.Structure.Blocks
import SlotIR.Proofs.Target.Names

namespace SlotIR

/-! ## §1. Paths. -/

/-- A path from the entry of a function goes through the given blocks and then comes to another. -/
inductive Path (body : List Line) : List Block → Block → Prop
  | entry {b : Block} (first : (blocks body).head? = some b) : Path body [] b
  | step {passed : List Block} {b next : Block} {i : Instr} {target l : Label}
      (path : Path body passed b) (member : i ∈ b.code) (goes : target ∈ i.targets)
      (block : next ∈ blocks body) (labelled : next.label = some l) (same : l.text = target.text) :
      Path body (passed ++ [b]) next

/-- On every path, each load of a slot comes after a store to it. -/
def LoadsAfterStores (d : Definition) : Prop :=
  ∀ passed b, Path d.body passed b → ∀ before dst slot after,
    b.code = before ++ .load dst (.slot slot) :: after →
    ∃ value, Instr.store value (.slot slot) ∈ passed.flatMap Block.code ++ before

/-! ## §2. Slots that are loaded and stored. -/

/-- The slot that an instruction loads. -/
def Instr.loaded? : Instr → Option Slot
  | .load _ (.slot slot) => some slot
  | _ => none

/-- The slot that an instruction stores to. -/
def Instr.stored? : Instr → Option Slot
  | .store _ (.slot slot) => some slot
  | _ => none

/-- The slots that instructions store to. -/
def stored (code : List Instr) : Set Slot := {slot | ∃ i ∈ code, i.stored? = some slot}

@[simp] theorem stored_nil : stored [] = ∅ := by
  ext slot
  simp [stored]

theorem stored_cons (i : Instr) (code : List Instr) :
    stored (i :: code) = {slot | i.stored? = some slot} ∪ stored code := by
  ext slot
  simp [stored]

theorem stored_append (c d : List Instr) : stored (c ++ d) = stored c ∪ stored d := by
  ext slot
  simp [stored, or_and_right, exists_or]

theorem exists_of_mem_stored {code : List Instr} {slot : Slot} (h : slot ∈ stored code) :
    ∃ value, Instr.store value (.slot slot) ∈ code := by
  obtain ⟨i, member, stores⟩ := h
  unfold Instr.stored? at stores
  split at stores
  · cases stores
    exact ⟨_, member⟩
  · cases stores

/-! ## §3. The walk. -/

/-- The lines agree with the table if the given slots are stored before them. -/
def Flows (E : Nat → Set Slot) (W : Set Slot) : List Line → Prop
  | [] => True
  | .instr i :: rest => (∀ slot, i.loaded? = some slot → slot ∈ W)
      ∧ (∀ target ∈ i.targets, E target.number ⊆ W)
      ∧ Flows E (W ∪ {slot | i.stored? = some slot}) rest
  | .label l :: rest => Flows E (E l.number) rest
  | _ :: rest => Flows E W rest

/-- The slots that are stored after lines. -/
def storedAfter (E : Nat → Set Slot) (W : Set Slot) : List Line → Set Slot
  | [] => W
  | .instr i :: rest => storedAfter E (W ∪ {slot | i.stored? = some slot}) rest
  | .label l :: rest => storedAfter E (E l.number) rest
  | _ :: rest => storedAfter E W rest

section

variable {E : Nat → Set Slot} {W : Set Slot}

theorem flows_append (W : Set Slot) (c d : List Line) :
    Flows E W (c ++ d) ↔ Flows E W c ∧ Flows E (storedAfter E W c) d := by
  induction c generalizing W with
  | nil => simp [Flows, storedAfter]
  | cons line rest ih =>
    cases line with
    | instr i =>
      show _ ∧ _ ∧ Flows E _ (rest ++ d) ↔ (_ ∧ _ ∧ _) ∧ _
      rw [ih, and_assoc, and_assoc]
      rfl
    | label l => exact ih (E l.number)
    | _ => exact ih W

theorem storedAfter_append (W : Set Slot) (c d : List Line) :
    storedAfter E W (c ++ d) = storedAfter E (storedAfter E W c) d := by
  induction c generalizing W with
  | nil => rfl
  | cons line rest ih =>
    cases line with
    | instr i => exact ih _
    | label l => exact ih _
    | _ => exact ih W

theorem storedAfter_straight (W : Set Slot) (code : List Instr) :
    storedAfter E W (straight code) = W ∪ stored code := by
  induction code generalizing W with
  | nil => simp [storedAfter]
  | cons i rest ih =>
    show storedAfter E (W ∪ {slot | i.stored? = some slot}) (straight rest) = _
    rw [ih, stored_cons, Set.union_assoc]

/-- An instruction of a block agrees with the table where it stands. -/
theorem Flows.at_instr {code before after : List Instr} {i : Instr}
    (h : Flows E W (straight code)) (split : code = before ++ i :: after) :
    (∀ slot, i.loaded? = some slot → slot ∈ W ∪ stored before)
      ∧ ∀ target ∈ i.targets, E target.number ⊆ W ∪ stored before := by
  rw [split, straight_append, flows_append, storedAfter_straight] at h
  exact ⟨h.2.1, h.2.2.1⟩

/-- The blocks of lines agree with the table, each from its label on. -/
theorem flows_blocks {lines : List Line} (h : Flows E W lines) :
    Flows E W (straight (openingCode lines))
      ∧ ∀ b ∈ labelledBlocks lines, ∀ l, b.label = some l →
          Flows E (E l.number) (straight b.code) := by
  induction lines generalizing W with
  | nil => exact ⟨trivial, fun _ member => by cases member⟩
  | cons line rest ih =>
    cases line with
    | instr i =>
      obtain ⟨loads, goes, later⟩ := h
      exact ⟨⟨loads, goes, (ih later).1⟩, (ih later).2⟩
    | label l =>
      obtain ⟨here, later⟩ := ih h
      refine ⟨trivial, fun b member k labelled => ?_⟩
      rcases List.mem_cons.1 member with rfl | more
      · cases labelled
        exact here
      · exact later b more k labelled
    | _ => exact ih h

/-- Where a path comes to a block, no more is taken as stored than what its blocks stored. -/
theorem Flows.along_path {body : List Line} (h : Flows E ∅ body) {passed : List Block} {b : Block}
    (path : Path body passed b) :
    ∃ W, Flows E W (straight b.code) ∧ W ⊆ stored (passed.flatMap Block.code) := by
  obtain ⟨entry, labelled⟩ := flows_blocks h
  induction path with
  | entry first =>
    cases first
    exact ⟨∅, entry, Set.empty_subset _⟩
  | @step passed b next i target l _ member goes block label same ih =>
    obtain ⟨W, agrees, onPath⟩ := ih
    obtain ⟨before, after, split⟩ := List.append_of_mem member
    have stores : E target.number ⊆ W ∪ stored before := (agrees.at_instr split).2 target goes
    -- a labelled block is not the entry block
    have inside : next ∈ labelledBlocks body := by
      rcases List.mem_cons.1 block with rfl | later
      · cases label
      · exact later
    refine ⟨E l.number, labelled next inside l label, ?_⟩
    rw [Label.number_eq same, List.flatMap_append, stored_append]
    refine stores.trans (Set.union_subset_union onPath ?_)
    rw [List.flatMap_singleton, split, stored_append]
    exact Set.subset_union_left

/-- **If a walk over a body agrees with a table, each load of a slot comes after a store to it on
every path.** -/
theorem Flows.loadsAfterStores {d : Definition} (h : Flows E ∅ d.body) : LoadsAfterStores d := by
  intro passed b path before dst slot after split
  obtain ⟨W, agrees, onPath⟩ := h.along_path path
  have loads : slot ∈ W ∪ stored before := (agrees.at_instr split).1 slot rfl
  refine exists_of_mem_stored ?_
  rw [stored_append]
  exact Set.union_subset_union_left _ onPath loads

end

end SlotIR
