/-
  SlotIR.Proofs.Emission.Slots
  ────────────────────────────
  **SLOTS ARE NEW, AND SCOPES STAY WHAT THEY WERE.**

  Three facts about code that go along with its emission:

    • a piece leaves the frames around the innermost one as they were
      (`Code.tail_scope`)
    • a slot has a text that no other slot of its function has
      (`Code.distinct`), because plain texts are compared when a slot is
      made and numbered ones show a number that was not drawn before
    • whatever a visible name means is a slot of the function or a symbol
      that was known before (`Code.known`)
-/
import SlotIR.Proofs.Emission.Numbering
import SlotIR.Proofs.Program.Typed
import SlotIR.Proofs.Target.Names

namespace SlotIR

/-! ## §1. Frames. -/

theorem Local.tail_scope {σ τ : Layout} {name : Name} {pos : Pos} {slot : Slot}
    (h : Local σ name pos slot τ) : τ.scope.tail = σ.scope.tail := by
  cases h with
  | intro => exact Chain.tail_declare _ _ _

theorem Defines.tail_scope {σ τ : Layout} {targets : List (Reading Ident)}
    (h : Defines σ targets τ) : τ.scope.tail = σ.scope.tail := by
  induction h with
  | nil => rfl
  | visible _ _ ih => exact ih
  | fresh _ new _ ih => exact ih.trans new.tail_scope

theorem Prepares.tail_scope {σ τ : Layout} {op : AssignOp} {targets : List (Reading Ident)}
    (h : Prepares σ op targets τ) : τ.scope.tail = σ.scope.tail := by
  cases h with
  | assign => rfl
  | define defines => exact defines.tail_scope

/-- A piece binds names in the innermost frame only. -/
theorem Code.tail_scope {σ τ : Layout} {piece : Piece} {code : List Line}
    (h : Code σ piece code τ) : τ.scope.tail = σ.scope.tail := by
  induction h with
  | varDecl _ new => exact new.tail_scope
  | assign _ _ prepares _ => exact prepares.tail_scope
  | block _ ih => exact congrArg List.tail ih
  | loop _ _ _ _ ihInit ihBody ihPost =>
    -- the frames of the body and of the loop are both left again
    have back : _ = _ := ihPost.trans (congrArg List.tail ihBody)
    exact congrArg List.tail (back.trans ihInit)
  | expr => rfl
  | absent => rfl
  | present _ ih => exact ih
  | nil => rfl
  | cons _ _ ihFirst ihOthers => exact ihOthers.trans ihFirst

/-- Leaving the frame that was entered before a piece leads back to the scopes before it. -/
theorem Code.scope_leave {σ τ : Layout} {piece : Piece} {code : List Line}
    (h : Code σ.enter piece code τ) : τ.leave.scope = σ.scope := h.tail_scope

/-- A loop ends where it began. -/
theorem Code.scope_loop {σ ρ ω τ : Layout} {init body post : Piece} {cInit cBody cPost : List Line}
    {n m : Nat} (initial : Code (σ.enter.drawTo m) init cInit ρ)
    (inner : Code (ρ.drawTo n).enter body cBody ω) (final : Code ω.leave post cPost τ) :
    τ.leave.scope = σ.scope := by
  have entered : ρ.scope.tail = σ.scope := initial.tail_scope
  have around : ω.leave.scope = ρ.scope := inner.scope_leave
  rw [← entered, ← around]
  exact final.tail_scope

theorem Local.values_subset {σ τ : Layout} {name : Name} {pos : Pos} {slot : Slot}
    (h : Local σ name pos slot τ) :
    ∀ place ∈ Chain.values σ.scope, place ∈ Chain.values τ.scope := by
  cases h with
  | intro => exact fun place bound => Chain.values_subset_declare bound

theorem Defines.values_subset {σ τ : Layout} {targets : List (Reading Ident)}
    (h : Defines σ targets τ) :
    ∀ place ∈ Chain.values σ.scope, place ∈ Chain.values τ.scope := by
  induction h with
  | nil => exact fun _ bound => bound
  | visible _ _ ih => exact ih
  | fresh _ new _ ih => exact fun place bound => ih place (new.values_subset place bound)

/-- No binding of the innermost frame is taken away. -/
theorem Code.values_subset {σ τ : Layout} {piece : Piece} {code : List Line}
    (h : Code σ piece code τ) :
    ∀ place ∈ Chain.values σ.scope, place ∈ Chain.values τ.scope := by
  induction h with
  | varDecl _ new => exact new.values_subset
  | assign _ _ prepares _ =>
    cases prepares with
    | assign => exact fun _ bound => bound
    | define defines => exact defines.values_subset
  | block inner _ =>
    intro place bound
    rw [inner.scope_leave]
    exact bound
  | loop initial _ inner final _ _ _ =>
    intro place bound
    rw [Code.scope_loop initial inner final]
    exact bound
  | expr => exact fun _ bound => bound
  | absent => exact fun _ bound => bound
  | present _ ih => exact ih
  | nil => exact fun _ bound => bound
  | cons _ _ ihFirst ihOthers => exact fun place bound => ihOthers place (ihFirst place bound)

/-! ## §2. Slots are told apart. -/

/-- The texts of the slots are told apart, and their numbers have been drawn. -/
structure Distinct (σ : Layout) : Prop where
  nodup : (σ.slots.map Slot.text).Nodup
  offsets : ∀ slot ∈ σ.slots, slot.pos.isOffset = true
  numbers_lt : ∀ slot ∈ σ.slots, ∀ n, slot.number = some n → n < σ.nextId

theorem Distinct.of_slots_eq {σ τ : Layout} (h : Distinct σ) (slots : τ.slots = σ.slots)
    (le : σ.nextId ≤ τ.nextId) : Distinct τ where
  nodup := by rw [slots]; exact h.nodup
  offsets := by rw [slots]; exact h.offsets
  numbers_lt := by
    rw [slots]
    intro slot member n numbered
    exact Nat.lt_of_lt_of_le (h.numbers_lt slot member n numbered) le

/-- A layout without slots. -/
theorem distinct_of_nil {σ : Layout} (h : σ.slots = []) : Distinct σ where
  nodup := by simp [h]
  offsets := by simp [h]
  numbers_lt := by simp [h]

/-- The text of a new slot is new. -/
theorem NewSlot.text_notMem {σ : Layout} {m : Nat} {name : String} {pos : Pos} {slot : Slot}
    (h : NewSlot σ.nextId σ.slots name pos slot m) (distinct : Distinct σ)
    (offset : pos.isOffset = true) : slot.text ∉ σ.slots.map Slot.text := by
  cases h with
  | plain free => exact free
  | numbered used =>
    intro member
    -- a slot with the same text would be plain, and then at an offset whose text has no dot,
    -- or show the number that is only drawn now
    obtain ⟨⟨name', pos', number⟩, old, same⟩ := List.mem_map.1 member
    have offset' := distinct.offsets _ old
    cases number with
    | none => exact Slot.plain_ne offset' offset same
    | some n =>
      have drawn : n < σ.nextId := distinct.numbers_lt _ old n rfl
      have equal : n = σ.nextId := Slot.number_eq same
      omega

theorem Local.text_notMem {σ τ : Layout} {name : Name} {pos : Pos} {slot : Slot}
    (h : Local σ name pos slot τ) (distinct : Distinct σ) (offset : pos.isOffset = true) :
    slot.text ∉ σ.slots.map Slot.text := by
  cases h with
  | intro _ _ new => exact new.text_notMem distinct offset

/-- Slots are still told apart after a new one is added. -/
theorem NewSlot.distinct {σ : Layout} {n : Nat} {name : String} {pos : Pos} {slot : Slot}
    (h : NewSlot σ.nextId σ.slots name pos slot n) (distinct : Distinct σ)
    (offset : pos.isOffset = true) : Distinct ⟨σ.scope, n, σ.slots ++ [slot]⟩ := by
  have new_text := h.text_notMem distinct offset
  have position : slot.pos.isOffset = true := by cases h <;> exact offset
  have number : ∀ k, slot.number = some k → k < n := by
    intro k numbered
    cases h with
    | plain => cases numbered
    | numbered =>
      cases numbered
      exact Nat.lt_succ_self _
  have le : σ.nextId ≤ n := h.draws.le
  constructor
  · rw [List.map_append, List.nodup_append]
    refine ⟨distinct.nodup, by simp, ?_⟩
    intro a old b last same
    obtain rfl : b = slot.text := by simpa using last
    exact new_text (same ▸ old)
  · intro s member
    rcases List.mem_append.1 member with old | last
    · exact distinct.offsets s old
    · rw [List.mem_singleton.1 last]
      exact position
  · intro s member k numbered
    rcases List.mem_append.1 member with old | last
    · exact Nat.lt_of_lt_of_le (distinct.numbers_lt s old k numbered) le
    · rw [List.mem_singleton.1 last] at numbered
      exact number k numbered

theorem Local.distinct {σ τ : Layout} {name : Name} {pos : Pos} {slot : Slot}
    (h : Local σ name pos slot τ) (distinct : Distinct σ) (offset : pos.isOffset = true) :
    Distinct τ := by
  cases h with
  | intro _ _ new => exact (new.distinct distinct offset).of_slots_eq rfl (Nat.le_refl _)

/-- Targets that are typed. -/
def typedTargets (targets : List (Reading Ident)) : Bool := targets.all (holdsOf Ident.typed)

theorem Defines.distinct {σ τ : Layout} {targets : List (Reading Ident)} (h : Defines σ targets τ)
    (distinct : Distinct σ) (typed : typedTargets targets = true) : Distinct τ := by
  induction h with
  | nil => exact distinct
  | visible _ _ ih =>
    simp only [typedTargets, List.all_cons, Bool.and_eq_true] at typed
    exact ih distinct typed.2
  | fresh _ new _ ih =>
    simp only [typedTargets, List.all_cons, holdsOf, Ident.typed, Bool.and_eq_true] at typed
    exact ih (new.distinct distinct typed.1.1) typed.2

theorem Prepares.distinct {σ τ : Layout} {op : AssignOp} {targets : List (Reading Ident)}
    (h : Prepares σ op targets τ) (distinct : Distinct σ) (typed : typedTargets targets = true) :
    Distinct τ := by
  cases h with
  | assign => exact distinct
  | define defines => exact defines.distinct distinct typed

/-- The piece is typed. -/
def Piece.typed : Piece → Bool
  | .stmt s => s.typed
  | .optional s => typedStmt? s
  | .sequence items => typedStmts items

/-- **The slots of a function are told apart by their texts.** -/
theorem Code.distinct {σ τ : Layout} {piece : Piece} {code : List Line} (h : Code σ piece code τ)
    (distinct : Distinct σ) (typed : piece.typed = true) : Distinct τ := by
  induction h with
  | varDecl initial new =>
    simp only [Piece.typed, Stmt.typed, Bool.and_eq_true] at typed
    exact new.distinct (distinct.of_slots_eq rfl initial.draws.le) typed.1.1
  | assign _ evaluates prepares _ =>
    simp only [Piece.typed, Stmt.typed, holdsOf, Bool.and_eq_true] at typed
    exact prepares.distinct (distinct.of_slots_eq rfl evaluates.draws.le) typed.1.2
  | block _ ih =>
    simp only [Piece.typed, Stmt.typed, typedItems, Bool.and_eq_true] at typed
    have inner := ih (distinct.of_slots_eq rfl (Nat.le_refl _)) typed.2
    exact inner.of_slots_eq rfl (Nat.le_refl _)
  | loop _ test _ _ ihInit ihBody ihPost =>
    simp only [Piece.typed, Stmt.typed, Bool.and_eq_true] at typed
    obtain ⟨⟨⟨⟨-, typedBody⟩, typedInit⟩, -⟩, typedPost⟩ := typed
    have afterInit := ihInit (distinct.of_slots_eq rfl (Nat.le_add_right _ 4)) typedInit
    have afterBody := ihBody (afterInit.of_slots_eq rfl test.draws.le) typedBody
    have afterPost := ihPost (afterBody.of_slots_eq rfl (Nat.le_refl _)) typedPost
    exact afterPost.of_slots_eq rfl (Nat.le_refl _)
  | expr code => exact distinct.of_slots_eq rfl code.draws.le
  | absent => exact distinct
  | present _ ih => exact ih distinct typed
  | nil => exact distinct
  | cons _ _ ihFirst ihOthers =>
    simp only [Piece.typed, typedStmts, Bool.and_eq_true] at typed
    exact ihOthers (ihFirst distinct typed.1) typed.2

/-! ## §3. What names mean. -/

/-- The place is one of the slots, or at one of the symbols. -/
def Known (symbols : List String) (slots : List Slot) : Storage → Prop
  | .slot slot => slot ∈ slots
  | .symbol text => text ∈ symbols
  | .given _ => False

/-- All that is bound is one of the slots, or at one of the symbols. -/
def KnownScope (symbols : List String) (σ : Layout) : Prop :=
  ∀ place ∈ Chain.values σ.scope, Known symbols σ.slots place

theorem Known.mono {symbols : List String} {slots more : List Slot} {place : Storage}
    (h : Known symbols slots place) (subset : ∀ slot ∈ slots, slot ∈ more) :
    Known symbols more place := by
  cases place with
  | slot slot => exact subset slot h
  | symbol text => exact h
  | given value => exact h

theorem Means.known {symbols : List String} {σ : Layout} {name : Name} {place : Storage}
    (h : Means σ.scope name place) (known : KnownScope symbols σ) :
    Known symbols σ.slots place :=
  known place h.mem_values

/-- The places that instructions read, write and call are known. -/
def KnownPlaces (symbols : List String) (slots : List Slot) (code : List Instr) : Prop :=
  ∀ i ∈ code, ∀ place, i.place? = some place → Known symbols slots place

theorem KnownPlaces.append {symbols : List String} {slots : List Slot} {c d : List Instr}
    (first : KnownPlaces symbols slots c) (second : KnownPlaces symbols slots d) :
    KnownPlaces symbols slots (c ++ d) := by
  intro i member
  rcases List.mem_append.1 member with here | there
  · exact first i here
  · exact second i there

theorem KnownPlaces.nil {symbols : List String} {slots : List Slot} :
    KnownPlaces symbols slots [] := by
  intro i member
  cases member

/-- An instruction that reads, writes and calls nothing. -/
theorem KnownPlaces.cons_none {symbols : List String} {slots : List Slot} {i : Instr}
    {code : List Instr} (none : i.place? = .none) (rest : KnownPlaces symbols slots code) :
    KnownPlaces symbols slots (i :: code) := by
  intro j member place at_place
  rcases List.mem_cons.1 member with rfl | later
  · rw [none] at at_place
    cases at_place
  · exact rest j later place at_place

theorem KnownPlaces.cons_some {symbols : List String} {slots : List Slot} {i : Instr}
    {code : List Instr} {place : Storage} (some : i.place? = .some place)
    (known : Known symbols slots place) (rest : KnownPlaces symbols slots code) :
    KnownPlaces symbols slots (i :: code) := by
  intro j member place' at_place
  rcases List.mem_cons.1 member with rfl | later
  · rw [some] at at_place
    cases at_place
    exact known
  · exact rest j later place' at_place

theorem KnownPlaces.mono {symbols : List String} {slots more : List Slot} {code : List Instr}
    (h : KnownPlaces symbols slots code) (subset : ∀ slot ∈ slots, slot ∈ more) :
    KnownPlaces symbols more code :=
  fun i member place at_place => (h i member place at_place).mono subset

section

variable {symbols : List String}

theorem ExprCode.known {σ : Layout} {n m d : Nat} {e : Expr} {code : List Instr}
    (h : ExprCode σ.scope n e code d m) (known : KnownScope symbols σ) :
    KnownPlaces symbols σ.slots code := by
  induction h with
  | ident means => exact .cons_some rfl (means.known known) .nil
  | number => exact .cons_none rfl .nil
  | arith _ _ ihLeft ihRight => exact (ihLeft.append ihRight).append (.cons_none rfl .nil)
  | compare _ _ ihLeft ihRight =>
    exact (ihLeft.append ihRight).append (.cons_none rfl (.cons_none rfl .nil))
  | minus _ ih => exact ih.append (.cons_none rfl .nil)
  | plus _ ih => exact ih
  | paren _ ih => exact ih
  | call means _ ih => exact ih.append (.cons_some rfl (means.known known) .nil)

theorem ExprsCode.known {σ : Layout} {n m : Nat} {es : List Expr} {code : List Instr}
    {ds : List Nat} (h : ExprsCode σ.scope n es code ds m) (known : KnownScope symbols σ) :
    KnownPlaces symbols σ.slots code := by
  induction h with
  | nil => exact .nil
  | cons first _ ih => exact (first.known known).append ih

theorem InitialCode.known {σ : Layout} {n m : Nat} {value : Option Expr} {code : List Instr}
    {v : Operand} (h : InitialCode σ.scope n value code v m) (known : KnownScope symbols σ) :
    KnownPlaces symbols σ.slots code := by
  cases h with
  | zero => exact .nil
  | value code => exact code.known known

theorem TestCode.known {σ : Layout} {labels : LoopLabels} {n m : Nat} {cond : Option Expr}
    {code : List Instr} (h : TestCode σ.scope labels n cond code m)
    (known : KnownScope symbols σ) : KnownPlaces symbols σ.slots code := by
  cases h with
  | always => exact .cons_none rfl .nil
  | value code => exact (code.known known).append (.cons_none rfl (.cons_none rfl .nil))

theorem Stores.known {σ : Layout} {pairs : List (Reading Ident × Nat)} {code : List Instr}
    (h : Stores σ.scope pairs code) (known : KnownScope symbols σ) :
    KnownPlaces symbols σ.slots code := by
  induction h with
  | nil => exact .nil
  | cons means _ ih => exact .cons_some rfl (means.known known) ih

theorem Local.known {σ τ : Layout} {name : Name} {pos : Pos} {slot : Slot}
    (h : Local σ name pos slot τ) (known : KnownScope symbols σ) :
    KnownScope symbols τ ∧ slot ∈ τ.slots := by
  cases h with
  | intro =>
    refine ⟨fun place bound => ?_, by simp⟩
    rcases Chain.values_declare bound with old | rfl
    · exact (known place old).mono fun s member => List.mem_append_left _ member
    · exact List.mem_append_right _ (List.mem_singleton.2 rfl)

theorem Defines.known {σ τ : Layout} {targets : List (Reading Ident)} (h : Defines σ targets τ)
    (known : KnownScope symbols σ) : KnownScope symbols τ := by
  induction h with
  | nil => exact known
  | visible _ _ ih => exact ih known
  | fresh _ new _ ih => exact ih (new.known known).1

theorem Prepares.known {σ τ : Layout} {op : AssignOp} {targets : List (Reading Ident)}
    (h : Prepares σ op targets τ) (known : KnownScope symbols σ) : KnownScope symbols τ := by
  cases h with
  | assign => exact known
  | define defines => exact defines.known known

theorem KnownScope.enter {σ : Layout} (known : KnownScope symbols σ) :
    KnownScope symbols σ.enter := known

theorem KnownScope.leave {σ : Layout} (known : KnownScope symbols σ) :
    KnownScope symbols σ.leave := by
  intro place bound
  refine known place ?_
  cases hs : σ.scope with
  | nil =>
    rw [show σ.leave.scope = σ.scope.tail from rfl, hs] at bound
    cases bound
  | cons frame outer =>
    rw [show σ.leave.scope = σ.scope.tail from rfl, hs] at bound
    exact List.mem_append_right _ bound

/-- No slot is given back. -/
theorem Code.slots_subset {σ τ : Layout} {piece : Piece} {code : List Line}
    (h : Code σ piece code τ) : ∀ slot ∈ σ.slots, slot ∈ τ.slots := by
  obtain ⟨new, slots, -⟩ := h.draws
  intro slot member
  rw [slots]
  exact List.mem_append_left _ member

@[simp] theorem instrs_straight (code : List Instr) : instrs (straight code) = code := by
  induction code with
  | nil => rfl
  | cons i rest ih => simp [ih]

@[simp] theorem labels_straight (code : List Instr) : labels (straight code) = [] := by
  induction code with
  | nil => rfl
  | cons i rest ih => simp [ih]

/-- **Code touches only slots of its function and symbols that were known before.** -/
theorem Code.known {σ τ : Layout} {piece : Piece} {code : List Line} (h : Code σ piece code τ)
    (known : KnownScope symbols σ) :
    KnownScope symbols τ ∧ KnownPlaces symbols τ.slots (instrs code) := by
  induction h with
  | @varDecl σ τ _ _ _ _ _ _ _ initial new =>
    obtain ⟨after, member⟩ := new.known known
    have keep : ∀ s ∈ σ.slots, s ∈ τ.slots := fun s old => by
      rw [new.draws.1]
      exact List.mem_append_left _ old
    refine ⟨after, ?_⟩
    rw [instrs_straight]
    exact ((initial.known known).mono keep).append (.cons_some rfl member .nil)
  | @assign σ τ _ _ _ _ _ _ _ _ _ evaluates prepares stores =>
    have after := prepares.known known
    obtain ⟨new, slots, -⟩ := prepares.draws
    have keep : ∀ s ∈ σ.slots, s ∈ τ.slots := fun s old => by
      rw [slots]
      exact List.mem_append_left _ old
    refine ⟨after, ?_⟩
    rw [instrs_straight]
    exact ((evaluates.known known).mono keep).append (stores.known after)
  | block _ ih => exact ⟨(ih known.enter).1.leave, (ih known.enter).2⟩
  | @loop _ ρ ω τ _ _ _ _ _ _ _ _ _ _ initial test inner final ihInit ihBody ihPost =>
    obtain ⟨afterInit, placesInit⟩ := ihInit known
    obtain ⟨afterBody, placesBody⟩ := ihBody afterInit
    obtain ⟨afterPost, placesPost⟩ := ihPost afterBody.leave
    refine ⟨afterPost.leave, ?_⟩
    have keep : ∀ slot ∈ ω.slots, slot ∈ τ.slots := final.slots_subset
    have keep' : ∀ slot ∈ ρ.slots, slot ∈ τ.slots := fun slot member =>
      keep slot (inner.slots_subset slot member)
    simp only [loopLines, seam, instrs_append, instrs_instr, instrs_blank, instrs_label,
      instrs_nil, instrs_straight]
    -- the parts know fewer slots than there are at the end of the loop
    refine (KnownPlaces.cons_none rfl .nil).append ((placesInit.mono keep').append
      ((KnownPlaces.cons_none rfl .nil).append (((test.known afterInit).mono keep').append ?_)))
    exact KnownPlaces.nil.append ((placesBody.mono keep).append
      (placesPost.append (.cons_none rfl .nil)))
  | expr code =>
    rw [instrs_straight]
    exact ⟨known, code.known known⟩
  | absent => exact ⟨known, .nil⟩
  | present _ ih => exact ih known
  | nil => exact ⟨known, .nil⟩
  | cons _ others ihFirst ihOthers =>
    obtain ⟨between, placesFirst⟩ := ihFirst known
    obtain ⟨after, placesOthers⟩ := ihOthers between
    rw [instrs_append]
    exact ⟨after, (placesFirst.mono others.slots_subset).append placesOthers⟩

/-! ## §4. Proper layouts. -/

/-- The slots of a layout are told apart, and visible names mean known places. -/
structure Proper (symbols : List String) (σ : Layout) : Prop where
  distinct : Distinct σ
  known : KnownScope symbols σ

/-- A slot that a name means is one of the layout. -/
theorem Proper.owned {σ : Layout} (proper : Proper symbols σ) :
    ∀ slot, .slot slot ∈ Chain.values σ.scope → slot ∈ σ.slots :=
  fun slot bound => proper.known (.slot slot) bound

theorem Proper.drawTo {σ : Layout} {n : Nat} (proper : Proper symbols σ) (le : σ.nextId ≤ n) :
    Proper symbols (σ.drawTo n) :=
  ⟨proper.distinct.of_slots_eq rfl le, proper.known⟩

theorem Proper.enter {σ : Layout} (proper : Proper symbols σ) : Proper symbols σ.enter :=
  ⟨proper.distinct.of_slots_eq rfl (Nat.le_refl _), proper.known.enter⟩

theorem Proper.leave {σ : Layout} (proper : Proper symbols σ) : Proper symbols σ.leave :=
  ⟨proper.distinct.of_slots_eq rfl (Nat.le_refl _), proper.known.leave⟩

theorem Local.proper {σ τ : Layout} {name : Name} {pos : Pos} {slot : Slot}
    (h : Local σ name pos slot τ) (proper : Proper symbols σ) (offset : pos.isOffset = true) :
    Proper symbols τ :=
  ⟨h.distinct proper.distinct offset, (h.known proper.known).1⟩

theorem Code.proper {σ τ : Layout} {piece : Piece} {code : List Line} (h : Code σ piece code τ)
    (proper : Proper symbols σ) (typed : piece.typed = true) : Proper symbols τ :=
  ⟨h.distinct proper.distinct typed, (h.known proper.known).1⟩

end

end SlotIR
