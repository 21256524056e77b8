/-
  SlotIR.Proofs.Structure.ControlFlow
  ───────────────────────────────────
  **EVERY FUNCTION IS MADE OF PROPER BASIC BLOCKS.**

  Each piece of a body is lowered into a block that is open before it and
  leaves one open (`Code.walk_eq`), returns nowhere, and goes only to its
  own labels (`Code.targets_subset`), which are told apart by the numbers
  in them.  With the return at its end a body is therefore well formed
  (`wellFormed_of_composed`), and so is every definition of a module
  (`generate_controlFlow`).
-/
import SlotIR.Proofs.Structure.Blocks
import SlotIR.Proofs.Emission.Slots
import SlotIR.Proofs.Emission.Sound

namespace SlotIR

/-! ## §1. Well-formed control flow. -/

/-- The basic blocks of a definition are as they should be. -/
structure ControlFlow (d : Definition) : Prop where
  /-- Each block ends in its only terminator. -/
  ends_once : ∀ b ∈ blocks d.body, EndsOnce b.code
  /-- There is one return. -/
  one_return : ((blocks d.body).flatMap Block.code).count .ret = 1
  /-- The return is the end of the last block. -/
  return_last : ((blocks d.body).getLast?.bind fun b => b.code.getLast?) = some .ret
  /-- A branch goes to a label that stands on one line of the definition. -/
  target_once : ∀ i ∈ (blocks d.body).flatMap Block.code, ∀ target ∈ i.targets,
    (labels d.body).countP (fun l => l.text = target.text) = 1
  /-- No branch goes to the entry block, which has no label. -/
  entry_untargeted : ∀ b, (blocks d.body).head? = some b → b.label = none

/-! ## §2. Pieces of code. -/

/-- The instructions are of those that expressions and assignments consist of. -/
def Plain (code : List Instr) : Prop := ∀ i ∈ code, i.isPlain = true

theorem Plain.append {c d : List Instr} (first : Plain c) (second : Plain d) : Plain (c ++ d) := by
  intro i member
  rcases List.mem_append.1 member with here | there
  · exact first i here
  · exact second i there

theorem Plain.one {i : Instr} (h : i.isPlain = true) : Plain [i] := by
  intro j member
  rw [List.mem_singleton.1 member]
  exact h

variable {scope : Chain Key Storage}

theorem ExprCode.plain {n m d : Nat} {e : Expr} {code : List Instr}
    (h : ExprCode scope n e code d m) : Plain code := by
  induction h with
  | ident => exact .one rfl
  | number => exact .one rfl
  | arith _ _ ihLeft ihRight => exact (ihLeft.append ihRight).append (.one rfl)
  | compare _ _ ihLeft ihRight =>
    exact (ihLeft.append ihRight).append ((Plain.one rfl).append (.one rfl))
  | minus _ ih => exact ih.append (.one rfl)
  | plus _ ih => exact ih
  | paren _ ih => exact ih
  | call _ _ ih => exact ih.append (.one rfl)

theorem ExprsCode.plain {n m : Nat} {es : List Expr} {code : List Instr} {ds : List Nat}
    (h : ExprsCode scope n es code ds m) : Plain code := by
  induction h with
  | nil => intro i member; cases member
  | cons first _ ih => exact first.plain.append ih

theorem InitialCode.plain {n m : Nat} {value : Option Expr} {code : List Instr} {v : Operand}
    (h : InitialCode scope n value code v m) : Plain code := by
  cases h with
  | zero => intro i member; cases member
  | value code => exact code.plain

theorem Stores.plain {pairs : List (Reading Ident × Nat)} {code : List Instr}
    (h : Stores scope pairs code) : Plain code := by
  induction h with
  | nil => intro i member; cases member
  | cons _ _ ih => exact (Plain.one rfl).append ih

theorem InitialsCode.plain {n m : Nat} {globals : List (Reading GlobalEntry)} {code : List Instr}
    (h : InitialsCode scope n globals code m) : Plain code := by
  induction h with
  | nil => intro i member; cases member
  | cons _ code _ _ ih => exact code.plain.append ((Plain.one rfl).append ih)

/-! ## §3. The walk through a piece. -/

/-- Plain instructions leave an open block open. -/
theorem walk_plain {code : List Instr} (plain : Plain code) :
    walk true (straight code) = some true := by
  induction code with
  | nil => rfl
  | cons i rest ih =>
    have here := Instr.isTerminator_of_isPlain (plain i List.mem_cons_self)
    have later := ih fun j member => plain j (List.mem_cons_of_mem _ member)
    show walk (!i.isTerminator) (straight rest) = some true
    rw [here]
    exact later

/-- A terminator closes the block that is open. -/
theorem walk_closing {code : List Instr} (plain : Plain code) {last : Instr}
    (ends : last.isTerminator = true) : walk true (straight (code ++ [last])) = some false := by
  rw [straight_append]
  refine walk_append_of_eq (walk_plain plain) ?_
  show walk (!last.isTerminator) [] = some false
  rw [ends]
  rfl

theorem walk_seam {last : Instr} (ends : last.isTerminator = true) (next : Label) :
    walk true (seam last next) = some true := by
  show walk (!last.isTerminator) [.blank, .label next] = some true
  rw [ends]
  rfl

/-- The test of a loop closes the block of its condition. -/
theorem TestCode.walk_eq {labels : LoopLabels} {n m : Nat} {cond : Option Expr} {code : List Instr}
    (h : TestCode scope labels n cond code m) : walk true (straight code) = some false := by
  cases h with
  | always => rfl
  | @value m d e c code =>
    have split : c ++ [Instr.compare m .ne (.temp d) (.const 0),
        .branch m labels.body labels.done]
        = (c ++ [.compare m .ne (.temp d) (.const 0)])
          ++ [.branch m labels.body labels.done] := by
      simp
    rw [split]
    exact walk_closing (code.plain.append (.one rfl)) rfl

/-- **A piece is lowered into an open block and leaves one open.** -/
theorem Code.walk_eq {σ τ : Layout} {piece : Piece} {code : List Line}
    (h : Code σ piece code τ) : walk true code = some true := by
  induction h with
  | varDecl initial _ => exact walk_plain (initial.plain.append (.one rfl))
  | assign _ evaluates _ stores => exact walk_plain (evaluates.plain.append stores.plain)
  | block _ ih => exact ih
  | loop _ test _ _ ihInit ihBody ihPost =>
    have opening (l : Label) : walk false [.blank, .label l] = some true := rfl
    unfold loopLines
    -- only the test leaves the block closed, and the label of the body opens the next one
    refine walk_append_of_eq (walk_seam rfl _) (walk_append_of_eq ihInit
      (walk_append_of_eq (walk_seam rfl _) (walk_append_of_eq test.walk_eq ?_)))
    exact walk_append_of_eq (opening _) (walk_append_of_eq ihBody
      (walk_append_of_eq ihPost (walk_seam rfl _)))
  | expr code => exact walk_plain code.plain
  | absent => rfl
  | present _ ih => exact ih
  | nil => rfl
  | cons _ _ ihFirst ihOthers => exact walk_append_of_eq ihFirst ihOthers

/-! ## §4. Returns and targets. -/

/-- The labels that instructions go to. -/
def targets (code : List Instr) : List Label := code.flatMap Instr.targets

@[simp] theorem targets_append (c d : List Instr) : targets (c ++ d) = targets c ++ targets d :=
  List.flatMap_append

theorem Plain.targets {code : List Instr} (plain : Plain code) : SlotIR.targets code = [] :=
  List.flatMap_eq_nil_iff.2 fun i member => Instr.targets_of_isPlain (plain i member)

/-- Instructions that may stand among statements. -/
def Inner (code : List Instr) : Prop := ∀ i ∈ code, i.isInner = true

theorem Plain.inner {code : List Instr} (plain : Plain code) : Inner code :=
  fun i member => Instr.isInner_of_isPlain (plain i member)

theorem Inner.append {c d : List Instr} (first : Inner c) (second : Inner d) : Inner (c ++ d) := by
  intro i member
  rcases List.mem_append.1 member with here | there
  · exact first i here
  · exact second i there

theorem Inner.one {i : Instr} (h : i.isInner = true) : Inner [i] := by
  intro j member
  rw [List.mem_singleton.1 member]
  exact h

/-- The test of a loop goes to two of the loop's labels. -/
theorem TestCode.targets_subset {labels : LoopLabels} {n m : Nat} {cond : Option Expr}
    {code : List Instr} (h : TestCode scope labels n cond code m) :
    ∀ l ∈ targets code, l = labels.body ∨ l = labels.done := by
  cases h with
  | always => simp [targets, Instr.targets]
  | value code =>
    rw [targets_append, code.plain.targets]
    simp [targets, Instr.targets]

theorem TestCode.inner {labels : LoopLabels} {n m : Nat} {cond : Option Expr}
    {code : List Instr} (h : TestCode scope labels n cond code m) : Inner code := by
  cases h with
  | always => exact .one rfl
  | value code => exact code.plain.inner.append ((Inner.one rfl).append (.one rfl))

/-- A piece neither returns nor reserves a slot. -/
theorem Code.inner {σ τ : Layout} {piece : Piece} {code : List Line}
    (h : Code σ piece code τ) : Inner (instrs code) := by
  induction h with
  | varDecl initial _ =>
    rw [instrs_straight]
    exact (initial.plain.append (.one rfl)).inner
  | assign _ evaluates _ stores =>
    rw [instrs_straight]
    exact (evaluates.plain.append stores.plain).inner
  | block _ ih => exact ih
  | loop _ test _ _ ihInit ihBody ihPost =>
    simp only [loopLines, seam, instrs_append, instrs_instr, instrs_blank, instrs_label,
      instrs_nil, instrs_straight, List.nil_append]
    exact (Inner.one rfl).append (ihInit.append ((Inner.one rfl).append (test.inner.append
      (ihBody.append (ihPost.append (.one rfl))))))
  | expr code =>
    rw [instrs_straight]
    exact code.plain.inner
  | absent => intro i member; cases member
  | present _ ih => exact ih
  | nil => intro i member; cases member
  | cons _ _ ihFirst ihOthers =>
    rw [instrs_append]
    exact ihFirst.append ihOthers

/-- **A piece goes only to its own labels.** -/
theorem Code.targets_subset {σ τ : Layout} {piece : Piece} {code : List Line}
    (h : Code σ piece code τ) : ∀ l ∈ targets (instrs code), l ∈ labels code := by
  induction h with
  | varDecl initial _ =>
    rw [instrs_straight, (initial.plain.append (.one rfl)).targets]
    intro l member
    cases member
  | assign _ evaluates _ stores =>
    rw [instrs_straight, (evaluates.plain.append stores.plain).targets]
    intro l member
    cases member
  | block _ ih => exact ih
  | loop _ test _ _ ihInit ihBody ihPost =>
    have own := test.targets_subset
    intro l member
    simp only [loopLines, seam, instrs_append, instrs_instr, instrs_blank, instrs_label,
      instrs_nil, instrs_straight, targets_append, List.mem_append] at member
    simp only [loopLines, seam, labels_append, labels_instr, labels_blank, labels_label,
      labels_nil, labels_straight, List.mem_append, List.mem_cons, List.not_mem_nil, or_false,
      false_or]
    have jump {target l : Label} (h : l ∈ targets [.jump target]) : l = target := by
      simpa [targets, Instr.targets] using h
    -- the targets in the order of the lines: the jumps of the loop, its test, and its parts
    rcases member with h | h | h | h | h | h | h | h
    · exact .inl (jump h)
    · exact .inr (.inl (ihInit l h))
    · exact .inr (.inr (.inl (jump h)))
    · rcases own l h with rfl | rfl <;> simp
    · cases h
    · exact .inr (.inr (.inr (.inr (.inl (ihBody l h)))))
    · exact .inr (.inr (.inr (.inr (.inr (.inl (ihPost l h))))))
    · exact .inr (.inr (.inl (jump h)))
  | expr code =>
    rw [instrs_straight, code.plain.targets]
    intro l member
    cases member
  | absent => intro l member; cases member
  | present _ ih => exact ih
  | nil => intro l member; cases member
  | cons _ _ ihFirst ihOthers =>
    intro l member
    rw [instrs_append, targets_append, List.mem_append] at member
    rw [labels_append, List.mem_append]
    exact member.imp (ihFirst l) (ihOthers l)

/-! ## §5. Labels are told apart. -/

/-- The numbers of labels are among the drawn ones. -/
theorem count_label_numbers_le (code : List Line) (i : Nat) :
    ((labels code).map Label.number).count i ≤ (drawn code).count i := by
  induction code with
  | nil => simp
  | cons line rest ih =>
    rw [drawn_cons, List.count_append]
    cases line with
    | label l =>
      simp only [labels_label, List.map_cons, Line.drawn, List.count_cons, List.count_nil]
      omega
    | _ => exact Nat.le_trans ih (Nat.le_add_left _ _)

/-- A label that stands among lines whose numbers are drawn once stands on one of them only. -/
theorem countP_label_eq_one {code : List Line} (once : ∀ i, (drawn code).count i ≤ 1)
    {target : Label} (member : target ∈ labels code) :
    (labels code).countP (fun l => l.text = target.text) = 1 := by
  have positive : 0 < (labels code).countP (fun l => l.text = target.text) :=
    List.countP_pos_iff.2 ⟨target, member, by simp⟩
  have bound : (labels code).countP (fun l => l.text = target.text)
      ≤ ((labels code).map Label.number).count target.number := by
    rw [List.count, List.countP_map]
    refine List.countP_mono_left fun l _ same => ?_
    simpa using Label.number_eq (of_decide_eq_true same)
  -- labels with the same text show the same number, which is drawn once
  have unique := count_label_numbers_le code target.number
  have single := once target.number
  omega

/-! ## §6. Bodies. -/

/-- Lines that can be followed by a return. -/
structure Composed (code : List Line) : Prop where
  walks : walk true code = some true
  returns_not : Instr.ret ∉ instrs code
  targets_own : ∀ l ∈ targets (instrs code), l ∈ labels code
  drawn_once : ∀ i, (drawn code).count i ≤ 1

/-- Lines and a return after them are a well-formed body. -/
theorem wellFormed_of_composed {symbol : String} {code : List Line} (h : Composed code) :
    ControlFlow ⟨symbol, code ++ [.instr .ret]⟩ where
  ends_once := endsOnce_blocks (walk_append_of_eq h.walks rfl)
  one_return := by
    rw [flatMap_blocks, instrs_append, List.count_append, List.count_eq_zero.2 h.returns_not]
    rfl
  return_last := getLast_blocks code .ret
  target_once := by
    intro i member target goes
    rw [flatMap_blocks, instrs_append] at member
    -- the return goes nowhere, so the branch is one of the lines before it
    have own : target ∈ labels code := by
      rcases List.mem_append.1 member with inside | last
      · exact h.targets_own target (List.mem_flatMap.2 ⟨i, inside, goes⟩)
      · obtain rfl : i = .ret := by simpa using last
        cases goes
    rw [labels_append, List.countP_append, countP_label_eq_one h.drawn_once own]
    rfl
  entry_untargeted := by
    intro b first
    cases first
    rfl

/-- Straight instructions that go nowhere can be followed by a return. -/
theorem composed_straight {code : List Instr} (ends : ∀ i ∈ code, i.isTerminator = false)
    (goes : targets code = []) (once : ∀ i, (drawn (straight code)).count i ≤ 1) :
    Composed (straight code) where
  walks := by
    clear goes once
    induction code with
    | nil => rfl
    | cons i rest ih =>
      show walk (!i.isTerminator) (straight rest) = some true
      rw [ends i List.mem_cons_self]
      exact ih fun j member => ends j (List.mem_cons_of_mem _ member)
  returns_not := by
    rw [instrs_straight]
    intro member
    cases ends .ret member
  targets_own := by
    rw [instrs_straight, goes]
    intro l member
    cases member
  drawn_once := once

theorem drawn_allocas (slots : List Slot) : drawn (straight (slots.map .alloca)) = [] := by
  induction slots with
  | nil => rfl
  | cons slot rest ih => exact ih

/-- The slots and the statements of a function can be followed by a return. -/
theorem Code.composed {σ τ : Layout} {piece : Piece} {code : List Line}
    (h : Code σ piece code τ) (slots : List Slot) :
    Composed (straight (slots.map .alloca) ++ code) where
  walks := by
    have first : walk true (straight (slots.map .alloca)) = some true := by
      induction slots with
      | nil => rfl
      | cons slot rest ih => exact ih
    exact walk_append_of_eq first h.walk_eq
  returns_not := by
    rw [instrs_append, instrs_straight, List.mem_append]
    rintro (first | later)
    · obtain ⟨slot, -, same⟩ := List.mem_map.1 first
      cases same
    · cases h.inner .ret later
  targets_own := by
    have none : targets (slots.map Instr.alloca) = [] :=
      List.flatMap_eq_nil_iff.2 fun i member => by
        obtain ⟨slot, -, rfl⟩ := List.mem_map.1 member
        rfl
    rw [instrs_append, instrs_straight, targets_append, none, labels_append, labels_straight]
    exact h.targets_subset
  drawn_once := by
    obtain ⟨new, -, draws⟩ := h.draws
    intro i
    have all := draws.count_le_one i
    rw [List.count_append] at all
    rw [drawn_append, drawn_allocas, List.nil_append]
    omega

theorem InitialsCode.draws {n m : Nat} {globals : List (Reading GlobalEntry)} {code : List Instr}
    (h : InitialsCode scope n globals code m) : Draws (drawn (straight code)) n m := by
  induction h with
  | nil => exact .nil _
  | cons _ code _ _ ih =>
    simp only [straight_append, straight_cons, drawn_append, drawn_cons]
    exact code.draws.append ih

/-! ## §7. Modules. -/

theorem FunctionsCode.controlFlow {options : Options} {package : String} {σ τ : Layout}
    {funcs : List (Reading FuncEntry)} {code : List Line}
    (h : FunctionsCode options package σ funcs code τ) :
    ∀ d ∈ definitions code, ControlFlow d := by
  induction h with
  | nil => intro d member; cases member
  | external _ _ _ ih => exact ih
  | defined _ _ inner _ ih =>
    rw [definitions_definitionLines inner.bodyLines]
    intro d member
    rcases List.mem_cons.1 member with rfl | later
    · exact wellFormed_of_composed (inner.composed _)
    · exact ih d later

theorem entryDefinition_controlFlow (init main : String) :
    ControlFlow (entryDefinition init main) := by
  have calls : Composed (straight [.invoke init, .invoke main]) := by
    refine composed_straight ?_ rfl fun i => Nat.zero_le 1
    intro i member
    simp only [List.mem_cons, List.not_mem_nil, or_false] at member
    rcases member with rfl | rfl <;> rfl
  exact wellFormed_of_composed calls

theorem InitialsCode.controlFlow {scope : Chain Key Storage} {n m : Nat}
    {globals : List (Reading GlobalEntry)} {code : List Instr} (symbol : String)
    (h : InitialsCode scope n globals code m) : ControlFlow ⟨symbol, initialiserBody code⟩ := by
  have plain := h.plain
  have ends : ∀ i ∈ code, i.isTerminator = false := fun i member =>
    Instr.isTerminator_of_isPlain (plain i member)
  exact wellFormed_of_composed (composed_straight ends plain.targets h.draws.count_le_one)

theorem ModuleCode.controlFlow {options : Options} {file : SourceFile} {slots : List Slot}
    {lines : List Line} {n : Nat} (h : ModuleCode options file slots lines n) :
    ∀ d ∈ definitions (expandLines lines), ControlFlow d := by
  cases h with
  | @intro _ _ due _ _ _ _ _ _ _ _ globalVars functions initialises _ =>
    rw [expandLines_module globalVars functions, definitions_module globalVars functions,
      definitions_expandLines_entryLine]
    intro d member
    rcases List.mem_append.1 member with func | others
    · exact functions.controlFlow d func
    · rcases List.mem_cons.1 others with rfl | entry
      · exact initialises.controlFlow _
      · cases due with
        | false => cases entry
        | true =>
          rw [List.mem_singleton.1 entry]
          exact entryDefinition_controlFlow _ _

/-- **The functions of an emitted module consist of proper basic blocks.**  This holds of every file
that is accepted, whatever the nesting of its statements. -/
theorem generate_controlFlow (options : Options) (file : SourceFile) {s t : State} {text : String}
    (h : generate options file s = .ok text t) :
    text = moduleText (expandLines t.lines)
      ∧ ∀ d ∈ definitions (expandLines t.lines), ControlFlow d := by
  obtain ⟨shown, emitted⟩ := generate_sound h
  rw [moduleText_expandLines]
  exact ⟨shown, emitted.controlFlow⟩

/-- A function in which loops are the initial statement, the body and the post statement of a loop
without a condition. -/
def nestedLoops : SourceFile where
  pos := .offset 0
  package := .ofText "main"
  globals := .ok
    [.ok ⟨.offset 1, "GlobalDecl", .ofText "g", .ok (some (.number (.offset 2) (.ok 3)))⟩]
  funcs := .ok
    [.ok ⟨.offset 3, "FuncDecl", .ofText "main", .ok (.stmts (.ok
      [.loop (.offset 4)
        (.block (.offset 5) (.ok
          [.loop (.offset 6)
            (.assign (.offset 7) (.known .define) (.ok [.ok ⟨.offset 7, .ofText "x"⟩])
              (.ok [.ident ⟨.offset 8, .ofText "g"⟩]))
            none none none]))
        (some (.loop (.offset 9) (.exprStmt (.offset 10) (.number (.offset 10) (.ok 1))) none
          (some (.ident ⟨.offset 11, .ofText "g"⟩)) none))
        none
        (some (.loop (.offset 12) (.varDecl (.offset 13) (.ofText "x") none)
          (some (.varDecl (.offset 13) (.ofText "x") none)) none none))]))⟩]

theorem generate_controlFlow_nestedLoops : ∃ text t, generate {} nestedLoops {} = .ok text t
    ∧ text = moduleText (expandLines t.lines)
    ∧ ∀ d ∈ definitions (expandLines t.lines), ControlFlow d := by
  have accepted : Lower.succeeds (generate {} nestedLoops {}) = true := by decide +kernel
  obtain ⟨text, t, ran⟩ := Lower.exists_of_succeeds accepted
  exact ⟨text, t, ran, generate_controlFlow {} nestedLoops ran⟩

end SlotIR
