/-
  SlotIR.Proofs.Emission.Numbering
  ────────────────────────────────
  **EVERY DRAWN NUMBER NAMES ONE THING.**

  Temporaries, labels and repeated slots draw from one counter.  Between
  two layouts the counter moves from n to m, and each number from n up to
  m stands in exactly one place of what was added: in a temporary, in a
  label, or in a slot (`Code.draws`).  Since the order of lines is not the
  order of drawing, this is said by counting, and counts add up.
-/
import SlotIR.Proofs.Emission.Code
import SlotIR.Proofs.Target.Effects

namespace SlotIR

/-! ## §1. Drawn numbers. -/

/-- The numbers that a line shows as its own. -/
def Line.drawn : Line → List Nat
  | .instr i => (i.result?.map (·.1)).toList
  | .label l => [l.number]
  | _ => []

/-- The numbers that lines show as their own. -/
def drawn (code : List Line) : List Nat := code.flatMap Line.drawn

/-- The numbers of slots. -/
def slotNumbers (slots : List Slot) : List Nat := slots.flatMap fun slot => slot.number.toList

@[simp] theorem drawn_nil : drawn [] = [] := rfl

@[simp] theorem drawn_cons (line : Line) (rest : List Line) :
    drawn (line :: rest) = line.drawn ++ drawn rest := rfl

@[simp] theorem drawn_append (c d : List Line) : drawn (c ++ d) = drawn c ++ drawn d :=
  List.flatMap_append

@[simp] theorem slotNumbers_append (a b : List Slot) :
    slotNumbers (a ++ b) = slotNumbers a ++ slotNumbers b :=
  List.flatMap_append

/-- Each number from `n` up to `m` is listed exactly once, and no other. -/
def Draws (numbers : List Nat) (n m : Nat) : Prop :=
  n ≤ m ∧ ∀ i, numbers.count i = if n ≤ i ∧ i < m then 1 else 0

namespace Draws

variable {a b : List Nat} {n m k : Nat}

/-- Nothing is drawn. -/
theorem nil (n : Nat) : Draws [] n n := by
  refine ⟨Nat.le_refl n, fun i => ?_⟩
  rw [if_neg (by omega)]
  rfl

/-- One number is drawn. -/
theorem one (n : Nat) : Draws [n] n (n + 1) := by
  refine ⟨by omega, fun i => ?_⟩
  rw [List.count_singleton]
  by_cases h : n = i
  · rw [if_pos (by simpa using h), if_pos (by omega)]
  · rw [if_neg (by simpa using h), if_neg (by omega)]

/-- What is drawn first and what is drawn later. -/
theorem append (first : Draws a n m) (second : Draws b m k) : Draws (a ++ b) n k := by
  have low := first.1
  have high := second.1
  refine ⟨by omega, fun i => ?_⟩
  -- i lies in the first interval, in the second one or in none
  rw [List.count_append, first.2 i, second.2 i]
  split <;> split <;> split <;> omega

/-- The order of the list does not matter. -/
theorem perm (draws : Draws a n m) (same : ∀ i, b.count i = a.count i) : Draws b n m :=
  ⟨draws.1, fun i => by rw [same, draws.2]⟩

theorem le (draws : Draws a n m) : n ≤ m := draws.1

/-- No number is drawn twice. -/
theorem count_le_one (draws : Draws a n m) (i : Nat) : a.count i ≤ 1 := by
  rw [draws.2 i]
  split <;> omega

end Draws

/-! ## §2. Expressions. -/

variable {scope : Chain Key Storage}

/-- Each instruction that an expression leaves defines a temporary, so there is one for each number.
-/
theorem ExprCode.draws {n m d : Nat} {e : Expr} {code : List Instr}
    (h : ExprCode scope n e code d m) : Draws (drawn (straight code)) n m := by
  induction h with
  | ident => exact .one _
  | number => exact .one _
  | arith _ _ ihLeft ihRight =>
    simp only [straight_append, drawn_append]
    exact (ihLeft.append ihRight).append (.one _)
  | compare _ _ ihLeft ihRight =>
    simp only [straight_append, drawn_append]
    exact (ihLeft.append ihRight).append ((Draws.one _).append (.one _))
  | minus _ ih =>
    simp only [straight_append, drawn_append]
    exact ih.append (.one _)
  | plus _ ih => exact ih
  | paren _ ih => exact ih
  | call _ _ ih =>
    simp only [straight_append, drawn_append]
    exact ih.append (.one _)

theorem ExprsCode.draws {n m : Nat} {es : List Expr} {code : List Instr} {ds : List Nat}
    (h : ExprsCode scope n es code ds m) : Draws (drawn (straight code)) n m := by
  induction h with
  | nil => exact .nil _
  | cons first _ ih =>
    simp only [straight_append, drawn_append]
    exact first.draws.append ih

theorem InitialCode.draws {n m : Nat} {value : Option Expr} {code : List Instr} {v : Operand}
    (h : InitialCode scope n value code v m) : Draws (drawn (straight code)) n m := by
  cases h with
  | zero => exact .nil _
  | value code => exact code.draws

theorem TestCode.draws {labels : LoopLabels} {n m : Nat} {cond : Option Expr} {code : List Instr}
    (h : TestCode scope labels n cond code m) : Draws (drawn (straight code)) n m := by
  cases h with
  | always => exact .nil _
  | value code =>
    simp only [straight_append, drawn_append]
    exact code.draws.append (.one _)

/-- Stores define nothing. -/
theorem Stores.drawn {pairs : List (Reading Ident × Nat)} {code : List Instr}
    (h : Stores scope pairs code) : SlotIR.drawn (straight code) = [] := by
  induction h with
  | nil => rfl
  | cons _ _ ih => exact ih

/-! ## §3. Variables. -/

/-- A slot takes a number exactly if it is numbered. -/
theorem NewSlot.draws {n m : Nat} {slots : List Slot} {name : String} {pos : Pos} {slot : Slot}
    (h : NewSlot n slots name pos slot m) : Draws (slotNumbers [slot]) n m := by
  cases h with
  | plain => exact .nil _
  | numbered => exact .one _

theorem Local.draws {σ τ : Layout} {name : Name} {pos : Pos} {slot : Slot}
    (h : Local σ name pos slot τ) :
    τ.slots = σ.slots ++ [slot] ∧ Draws (slotNumbers [slot]) σ.nextId τ.nextId := by
  cases h with
  | intro _ _ new => exact ⟨rfl, new.draws⟩

/-- What `:=` draws goes into the slots of its new names. -/
theorem Defines.draws {σ τ : Layout} {targets : List (Reading Ident)} (h : Defines σ targets τ) :
    ∃ new, τ.slots = σ.slots ++ new ∧ Draws (slotNumbers new) σ.nextId τ.nextId := by
  induction h with
  | nil => exact ⟨[], by simp, .nil _⟩
  | visible _ _ ih => exact ih
  | @fresh _ _ _ _ _ slot _ new _ ih =>
    obtain ⟨slots, draws⟩ := new.draws
    obtain ⟨more, slots', draws'⟩ := ih
    refine ⟨[slot] ++ more, ?_, ?_⟩
    · rw [slots', slots, List.append_assoc]
    · rw [slotNumbers_append]
      exact draws.append draws'

/-- Before the stores of an assignment, numbers are drawn for slots alone. -/
theorem Prepares.draws {σ τ : Layout} {op : AssignOp} {targets : List (Reading Ident)}
    (h : Prepares σ op targets τ) :
    ∃ new, τ.slots = σ.slots ++ new ∧ Draws (slotNumbers new) σ.nextId τ.nextId := by
  cases h with
  | assign => exact ⟨[], by simp, .nil _⟩
  | define defines => exact defines.draws

/-! ## §4. Statements. -/

/-- A loop draws four labels first and shows them among what its parts draw. -/
theorem drawn_loopLines (pos : Pos) (n : Nat) (init : List Line) (test : List Instr)
    (body post : List Line) :
    drawn (loopLines (loopLabels pos n) init test body post)
      = [n] ++ drawn init ++ [n + 1] ++ drawn (straight test) ++ [n + 2] ++ drawn body
        ++ drawn post ++ [n + 3] := by
  simp [loopLines, seam, loopLabels, Line.drawn, Instr.result?]

/-- **Each number drawn for a piece names one temporary, label or slot of it.** -/
theorem Code.draws {σ τ : Layout} {piece : Piece} {code : List Line} (h : Code σ piece code τ) :
    ∃ new, τ.slots = σ.slots ++ new
      ∧ Draws (drawn code ++ slotNumbers new) σ.nextId τ.nextId := by
  induction h with
  | @varDecl _ _ _ _ _ _ _ _ slot initial new =>
    obtain ⟨slots, draws⟩ := new.draws
    refine ⟨[slot], slots, ?_⟩
    simp only [straight_append, drawn_append]
    rw [show drawn (straight [.store _ _]) = [] from rfl, List.append_nil]
    exact initial.draws.append draws
  | assign _ evaluates prepares stores =>
    obtain ⟨new, slots, draws⟩ := prepares.draws
    refine ⟨new, slots, ?_⟩
    simp only [straight_append, drawn_append, stores.drawn, List.append_nil]
    exact evaluates.draws.append draws
  | block _ ih => exact ih
  | @loop σ ρ ω τ pos body init post cond cInit cBody cPost cTest n _ test _ _ ihInit ihBody
      ihPost =>
    obtain ⟨newInit, slotsInit, drawsInit⟩ := ihInit
    obtain ⟨newBody, slotsBody, drawsBody⟩ := ihBody
    obtain ⟨newPost, slotsPost, drawsPost⟩ := ihPost
    refine ⟨newInit ++ newBody ++ newPost, ?_, ?_⟩
    · simp only [Layout.slots_leave, Layout.slots_enter, Layout.slots_drawTo] at *
      rw [slotsPost, slotsBody, slotsInit]
      simp
    · have labels : Draws [σ.nextId, σ.nextId + 1, σ.nextId + 2, σ.nextId + 3] σ.nextId
          (σ.nextId + 4) :=
        (((Draws.one _).append (.one _)).append (.one _)).append (.one _)
      -- the labels are drawn first, but three of them stand between the parts
      refine ((((labels.append drawsInit).append test.draws).append drawsBody).append
        drawsPost).perm fun i => ?_
      rw [drawn_loopLines]
      simp only [slotNumbers_append, List.count_append, List.count_cons, List.count_nil]
      omega
  | expr code =>
    refine ⟨[], by simp, ?_⟩
    rw [show slotNumbers [] = [] from rfl, List.append_nil]
    exact code.draws
  | absent => exact ⟨[], by simp, .nil _⟩
  | present _ ih => exact ih
  | nil => exact ⟨[], by simp, .nil _⟩
  | cons _ _ ihFirst ihOthers =>
    obtain ⟨newFirst, slotsFirst, drawsFirst⟩ := ihFirst
    obtain ⟨newOthers, slotsOthers, drawsOthers⟩ := ihOthers
    refine ⟨newFirst ++ newOthers, ?_, ?_⟩
    · rw [slotsOthers, slotsFirst, List.append_assoc]
    · refine (drawsFirst.append drawsOthers).perm fun i => ?_
      simp only [drawn_append, slotNumbers_append, List.count_append]
      omega

end SlotIR
