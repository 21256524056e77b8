/-
  SlotIR.Proofs.Structure.Temporaries
  ───────────────────────────────────
  **TEMPORARIES ARE DEFINED BEFORE THEY ARE USED.**

  A use counts only if the same basic block defines the temporary before
  it, with the type that it is used at.  Along the lines, what may be used
  is what the block has defined so far, and nothing after a label
  (`Scoped`).  The code of a piece needs nothing from before it
  (`Code.scoped`), so pieces can follow one another in any block; and what
  the lines say holds of the blocks (`usesDefined_blocks`).
-/
import SlotIR.Proofs.Structure.Blocks
import SlotIR.Proofs.Emission.Slots

namespace SlotIR

/-! ## §1. Definition before use. -/

/-- The temporaries that instructions define, with their types. -/
def results (code : List Instr) : List (Nat × ValueType) := code.filterMap Instr.result?

/-- Each temporary that an instruction uses is defined by one before it, with the type that it is
used at. -/
def UsesDefined (code : List Instr) : Prop :=
  ∀ before i after, code = before ++ i :: after → ∀ use ∈ i.uses, use ∈ results before

/-- The lines use only temporaries that are available before them or defined in the same block. -/
def Scoped (available : List (Nat × ValueType)) : List Line → Prop
  | [] => True
  | .instr i :: rest => (∀ use ∈ i.uses, use ∈ available)
      ∧ Scoped (available ++ i.result?.toList) rest
  | .label _ :: rest => Scoped [] rest
  | _ :: rest => Scoped available rest

/-- The temporaries that are available after lines. -/
def availableAfter (available : List (Nat × ValueType)) : List Line → List (Nat × ValueType)
  | [] => available
  | .instr i :: rest => availableAfter (available ++ i.result?.toList) rest
  | .label _ :: rest => availableAfter [] rest
  | _ :: rest => availableAfter available rest

section

variable {a b : List (Nat × ValueType)}

theorem scoped_append (a : List (Nat × ValueType)) (c d : List Line) :
    Scoped a (c ++ d) ↔ Scoped a c ∧ Scoped (availableAfter a c) d := by
  induction c generalizing a with
  | nil => simp [Scoped, availableAfter]
  | cons line rest ih =>
    cases line with
    | instr i =>
      show _ ∧ Scoped _ (rest ++ d) ↔ (_ ∧ _) ∧ _
      rw [ih, and_assoc]
      rfl
    | label l => exact ih []
    | _ => exact ih a

/-- More may be available. -/
theorem Scoped.mono {c : List Line} (h : Scoped a c) (subset : ∀ use ∈ a, use ∈ b) :
    Scoped b c := by
  induction c generalizing a b with
  | nil => trivial
  | cons line rest ih =>
    cases line with
    | instr i =>
      obtain ⟨here, later⟩ := h
      refine ⟨fun use member => subset use (here use member), ih later fun use member => ?_⟩
      rcases List.mem_append.1 member with old | new
      · exact List.mem_append_left _ (subset use old)
      · exact List.mem_append_right _ new
    | label l => exact h
    | _ => exact ih h subset

/-- Pieces that need nothing from before them may follow one another. -/
theorem Scoped.append {c d : List Line} (first : Scoped a c) (second : Scoped [] d) :
    Scoped a (c ++ d) := by
  rw [scoped_append]
  exact ⟨first, second.mono fun _ member => by cases member⟩

theorem Scoped.of_nil {c : List Line} (h : Scoped [] c) : Scoped a c :=
  h.mono fun _ member => by cases member

theorem availableAfter_straight (a : List (Nat × ValueType)) (code : List Instr) :
    availableAfter a (straight code) = a ++ results code := by
  induction code generalizing a with
  | nil => simp [availableAfter, results]
  | cons i rest ih =>
    show availableAfter (a ++ i.result?.toList) (straight rest) = _
    rw [ih, List.append_assoc]
    unfold results
    cases h : i.result? <;> simp [h]

/-- Straight code and then one instruction more. -/
theorem Scoped.straight_append {c d : List Instr} (first : Scoped a (straight c))
    (second : Scoped (a ++ results c) (straight d)) : Scoped a (straight (c ++ d)) := by
  rw [SlotIR.straight_append, scoped_append, availableAfter_straight]
  exact ⟨first, second⟩

@[simp] theorem results_append (c d : List Instr) : results (c ++ d) = results c ++ results d :=
  List.filterMap_append

/-- One instruction. -/
theorem scoped_one {i : Instr} (h : ∀ use ∈ i.uses, use ∈ a) : Scoped a (straight [i]) :=
  ⟨h, trivial⟩

/-! ## §2. Expressions. -/

variable {scope : Chain Key Storage}

/-- **An expression needs no temporary from before it, and defines the one with its value.** -/
theorem ExprCode.scoped {n m d : Nat} {e : Expr} {code : List Instr}
    (h : ExprCode scope n e code d m) :
    Scoped [] (straight code) ∧ (d, ValueType.i32) ∈ results code := by
  induction h with
  | ident => exact ⟨scoped_one (by simp [Instr.uses]), by simp [results, Instr.result?]⟩
  | number =>
    exact ⟨scoped_one (by simp [Instr.uses, Operand.uses]), by simp [results, Instr.result?]⟩
  | arith _ _ ihLeft ihRight =>
    refine ⟨(ihLeft.1.straight_append ihRight.1.of_nil).straight_append (scoped_one ?_), ?_⟩
    · simp [Instr.uses, Operand.uses, ihLeft.2, ihRight.2]
    · simp [results, Instr.result?]
  | @compare _ _ k _ _ _ op _ _ _ _ _ _ ihLeft ihRight =>
    -- the flag is used by the widening right after the comparison that defines it
    refine ⟨(ihLeft.1.straight_append ihRight.1.of_nil).straight_append ⟨?_, ?_, trivial⟩, ?_⟩
    · simp [Instr.uses, Operand.uses, ihLeft.2, ihRight.2]
    · simp [Instr.uses, Instr.result?]
    · simp [results, Instr.result?]
  | minus _ ih =>
    refine ⟨ih.1.straight_append (scoped_one ?_), ?_⟩
    · simp [Instr.uses, Operand.uses, ih.2]
    · simp [results, Instr.result?]
  | plus _ ih => exact ih
  | paren _ ih => exact ih
  | call _ _ ih =>
    refine ⟨ih.1.straight_append (scoped_one ?_), ?_⟩
    · simp [Instr.uses, Operand.uses, ih.2]
    · simp [results, Instr.result?]

theorem ExprsCode.scoped {n m : Nat} {es : List Expr} {code : List Instr} {ds : List Nat}
    (h : ExprsCode scope n es code ds m) :
    Scoped [] (straight code) ∧ ∀ d ∈ ds, (d, ValueType.i32) ∈ results code := by
  induction h with
  | nil => exact ⟨trivial, fun _ member => by cases member⟩
  | cons first _ ih =>
    refine ⟨first.scoped.1.straight_append ih.1.of_nil, fun d member => ?_⟩
    rw [results_append, List.mem_append]
    rcases List.mem_cons.1 member with rfl | later
    · exact .inl first.scoped.2
    · exact .inr (ih.2 d later)

theorem InitialCode.scoped {n m : Nat} {value : Option Expr} {code : List Instr} {v : Operand}
    (h : InitialCode scope n value code v m) :
    Scoped [] (straight code) ∧ ∀ use ∈ v.uses, use ∈ results code := by
  cases h with
  | zero => exact ⟨trivial, fun _ member => by cases member⟩
  | value code =>
    refine ⟨code.scoped.1, fun use member => ?_⟩
    rw [List.mem_singleton.1 member]
    exact code.scoped.2

theorem TestCode.scoped {labels : LoopLabels} {n m : Nat} {cond : Option Expr} {code : List Instr}
    (h : TestCode scope labels n cond code m) : Scoped [] (straight code) := by
  cases h with
  | always => exact scoped_one (by simp [Instr.uses])
  | value code =>
    refine code.scoped.1.straight_append ⟨?_, ?_, trivial⟩
    · simp [Instr.uses, Operand.uses, code.scoped.2]
    · simp [Instr.uses, Instr.result?]

/-- Stores use the temporaries with the values. -/
theorem Stores.scoped {pairs : List (Reading Ident × Nat)} {code : List Instr}
    (h : Stores scope pairs code) (values : ∀ pair ∈ pairs, (pair.2, ValueType.i32) ∈ a) :
    Scoped a (straight code) := by
  induction h with
  | nil => trivial
  | cons _ _ ih =>
    refine ⟨?_, ?_⟩
    · simpa [Instr.uses, Operand.uses] using values _ List.mem_cons_self
    · rw [show (Instr.store _ _).result?.toList = [] from rfl, List.append_nil]
      exact ih fun pair member => values pair (List.mem_cons_of_mem _ member)

/-! ## §3. Statements. -/

theorem scoped_seam (last : Instr) (next : Label) (h : last.uses = []) :
    Scoped [] (seam last next) := by
  refine ⟨?_, trivial⟩
  rw [h]
  intro use member
  cases member

/-- **A piece of a body needs no temporary from before it.** -/
theorem Code.scoped {σ τ : Layout} {piece : Piece} {code : List Line}
    (h : Code σ piece code τ) : Scoped [] code := by
  induction h with
  | varDecl initial _ =>
    refine initial.scoped.1.straight_append (scoped_one fun use member => ?_)
    exact initial.scoped.2 use member
  | assign _ evaluates _ stores =>
    refine evaluates.scoped.1.straight_append (stores.scoped fun pair member => ?_)
    exact evaluates.scoped.2 pair.2 (List.of_mem_zip member).2
  | block _ ih => exact ih
  | loop _ test _ _ ihInit ihBody ihPost =>
    -- no part uses a temporary of another one, so the parts need nothing from each other
    have opening (l : Label) : Scoped [] [.blank, .label l] := trivial
    unfold loopLines
    exact (scoped_seam _ _ rfl).append (ihInit.append ((scoped_seam _ _ rfl).append
      (test.scoped.append ((opening _).append (ihBody.append (ihPost.append
        (scoped_seam _ _ rfl)))))))
  | expr code => exact code.scoped.1
  | absent => trivial
  | present _ ih => exact ih
  | nil => trivial
  | cons _ _ ihFirst ihOthers => exact ihFirst.append ihOthers

theorem InitialsCode.scoped {n m : Nat} {globals : List (Reading GlobalEntry)} {code : List Instr}
    (h : InitialsCode scope n globals code m) : Scoped [] (straight code) := by
  induction h with
  | nil => trivial
  | cons _ code _ _ ih =>
    refine code.scoped.1.straight_append ⟨code.scoped.2, ?_⟩
    exact ih.of_nil

/-! ## §4. Blocks. -/

/-- What the lines say of the block at hand and of those after it. -/
theorem Scoped.blocks {lines : List Line} (h : Scoped a lines) :
    (∀ before i after, openingCode lines = before ++ i :: after →
        ∀ use ∈ i.uses, use ∈ a ++ results before)
      ∧ ∀ block ∈ labelledBlocks lines, UsesDefined block.code := by
  induction lines generalizing a with
  | nil => exact ⟨fun before i after split => by simp [openingCode] at split,
      fun _ member => by cases member⟩
  | cons line rest ih =>
    cases line with
    | instr i =>
      obtain ⟨here, later⟩ := h
      obtain ⟨opening, labelled⟩ := ih later
      refine ⟨fun before j after split => ?_, labelled⟩
      -- the instruction at hand is this one, or it comes later and may use the result of this one
      cases before with
      | nil =>
        cases split
        simpa [results] using here
      | cons k before =>
        obtain ⟨rfl, further⟩ := List.cons.inj split
        intro use member
        have found := opening before j after further use member
        unfold results at found ⊢
        cases result : i.result? <;> simpa [result] using found
    | label l =>
      obtain ⟨opening, labelled⟩ := ih h
      refine ⟨fun before i after split => by simp [openingCode] at split, fun block member => ?_⟩
      rcases List.mem_cons.1 member with rfl | other
      · intro before i after split use member
        simpa using opening before i after split use member
      · exact labelled block other
    | _ => exact ih h

/-- **In each block, temporaries are defined before they are used.** -/
theorem usesDefined_blocks {body : List Line} (h : Scoped [] body) :
    ∀ block ∈ SlotIR.blocks body, UsesDefined block.code := by
  obtain ⟨opening, labelled⟩ := h.blocks
  intro block member
  rcases List.mem_cons.1 member with rfl | other
  · intro before i after split use member
    simpa using opening before i after split use member
  · exact labelled block other

end

end SlotIR
