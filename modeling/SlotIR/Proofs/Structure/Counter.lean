/-
  SlotIR.Proofs.Structure.Counter
  ───────────────────────────────
  **THE NUMBERS OF A MODULE ARE USED UP WITHOUT A GAP.**

  Temporaries, labels and repeated slots of all functions draw from one
  counter, which starts at zero with the module.  If the next number after
  the module is N, then each number below N stands in exactly one of its
  definitions,

      %t7 = ...                      a temporary
      for.cond.pos5.7:               a label
      %local_x.pos.5.7 = alloca ...  a slot that is told apart

  and no greater one in any.  A slot is reserved at the top of its function
  and the labels of a loop stand around its parts, so the numbers do not
  appear in the order in which they are drawn.  Main result:

    • `generate_numbers` — the count; the names of temporaries and labels
      are therefore told apart in the whole module, and the four labels of
      each loop of the source show four numbers in a row.
-/
import SlotIR.Proofs.Structure.Symbols

namespace SlotIR

/-! ## §1. Numbers in definitions. -/

/-- The drawn number in the definition on a line, if it shows one. -/
def Line.carried : Line → List Nat
  | .instr (.alloca slot) => slot.number.toList
  | line => line.drawn

/-- The drawn numbers in the definitions among lines. -/
def carried (lines : List Line) : List Nat := lines.flatMap Line.carried

@[simp] theorem carried_append (c d : List Line) : carried (c ++ d) = carried c ++ carried d :=
  List.flatMap_append

/-- Among statements no slot is reserved. -/
theorem Inner.carried_eq {code : List Line} (inner : Inner (instrs code)) :
    carried code = drawn code := by
  induction code with
  | nil => rfl
  | cons line rest ih =>
    have here : line.carried = line.drawn := by
      cases line with
      | instr i =>
        cases i with
        | alloca slot => exact absurd List.mem_cons_self (inner.alloca_notMem slot)
        | _ => rfl
      | _ => rfl
    show line.carried ++ carried rest = line.drawn ++ drawn rest
    rw [here, ih inner.of_cons]

theorem carried_allocas (slots : List Slot) :
    carried (straight (slots.map .alloca)) = slotNumbers slots := by
  induction slots with
  | nil => rfl
  | cons slot rest ih =>
    show slot.number.toList ++ carried (straight (rest.map .alloca)) = _
    rw [ih]
    rfl

theorem Code.carried_definitionLines {σ τ : Layout} {piece : Piece} {code : List Line}
    (h : Code σ piece code τ) (symbol : String) :
    carried (definitionLines symbol τ.slots code) = slotNumbers τ.slots ++ drawn code := by
  have shape : definitionLines symbol τ.slots code
      = [.define symbol] ++ straight (τ.slots.map .alloca) ++ code
        ++ [.instr .ret, .close, .blank] := by
    simp [definitionLines]
  have opening : carried [.define symbol] = [] := rfl
  have ending : carried [.instr .ret, .close, .blank] = [] := rfl
  rw [shape, carried_append, carried_append, carried_append, carried_allocas, h.inner.carried_eq,
    opening, ending, List.nil_append, List.append_nil]

theorem InitialsCode.carried_initialiserLines {scope : Chain Key Storage} {n m : Nat}
    {globals : List (Reading GlobalEntry)} {code : List Instr}
    (h : InitialsCode scope n globals code m) (symbol : String) :
    carried (initialiserLines symbol code) = drawn (straight code) := by
  have shape : initialiserLines symbol code
      = [.define symbol] ++ straight code ++ [.instr .ret, .close] := by
    simp [initialiserLines]
  have inner : Inner (instrs (straight code)) := by
    rw [instrs_straight]
    exact h.plain.inner
  have opening : carried [.define symbol] = [] := rfl
  have ending : carried [.instr .ret, .close] = [] := rfl
  rw [shape, carried_append, carried_append, inner.carried_eq, opening, ending, List.nil_append,
    List.append_nil]

/-! ## §2. The count. -/

/-- Binding a name of the package draws nothing. -/
theorem Binds.nextId_eq {σ τ : Layout} {name : Name} {symbol : String}
    (h : Binds σ name symbol τ) : τ.nextId = σ.nextId := by
  cases h with
  | intro => rfl

theorem GlobalsCode.carries {options : Options} {package : String} {σ τ : Layout}
    {globals : List (Reading GlobalEntry)} {code : List Line}
    (h : GlobalsCode options package σ globals code τ) :
    carried code = [] ∧ τ.nextId = σ.nextId := by
  induction h with
  | nil => exact ⟨rfl, rfl⟩
  | cons binds _ ih => exact ⟨ih.1, ih.2.trans binds.nextId_eq⟩

/-- **Each number drawn for functions stands in one of their definitions.** -/
theorem FunctionsCode.draws {options : Options} {package : String} {σ τ : Layout}
    {funcs : List (Reading FuncEntry)} {code : List Line}
    (h : FunctionsCode options package σ funcs code τ) :
    Draws (carried code) σ.nextId τ.nextId := by
  induction h with
  | nil => exact .nil _
  | external binds _ _ ih =>
    rw [← binds.nextId_eq]
    exact ih
  | @defined σ ρ ω τ fn rest items code c binds _ inner _ ih =>
    obtain ⟨new, slots, draws⟩ := inner.draws
    have all : ω.slots = new := slots
    have first : Draws (slotNumbers ω.slots ++ drawn code) σ.nextId ω.nextId := by
      rw [← binds.nextId_eq, all]
      -- the slots are reserved first, but their numbers were drawn among the others
      refine draws.perm fun i => ?_
      rw [List.count_append, List.count_append]
      omega
    rw [carried_append, inner.carried_definitionLines]
    exact first.append ih

theorem carried_expandLines_entryLine (options : Options) (file : SourceFile) (due : Bool) :
    carried (expandLines (entryLine options file due)) = [] := by
  cases due <;> rfl

/-- **Each number below the counter stands in one definition of the module**, and no other number
in any. -/
theorem ModuleCode.draws {options : Options} {file : SourceFile} {slots : List Slot}
    {lines : List Line} {n : Nat} (h : ModuleCode options file slots lines n) :
    Draws (carried (expandLines lines)) 0 n := by
  cases h with
  | @intro globals funcs due vars routines initials ρ τ n _ _ globalVars functions initialises _ =>
    have header : carried [.package file.package.text, .builtins, .blank] = [] := rfl
    have separator : carried (globalsEnd globals) = [] := by cases globals <;> rfl
    have start : ρ.nextId = 0 := globalVars.carries.2
    have bodies : Draws (carried routines) 0 τ.nextId := start ▸ functions.draws
    rw [expandLines_module globalVars functions]
    simp only [carried_append, header, globalVars.carries.1, separator,
      initialises.carried_initialiserLines, carried_expandLines_entryLine, List.nil_append,
      List.append_nil]
    exact bodies.append initialises.draws

/-! ## §3. Names of temporaries and labels. -/

/-- The names of the temporaries and of the labels among lines. -/
def drawnNames (lines : List Line) : List String :=
  (results (instrs lines)).map (fun result => tempText result.1)
    ++ (labels lines).map fun l => "%" ++ l.text

/-- The numbers of temporaries and labels are among those in definitions. -/
theorem count_numbers_le (lines : List Line) (i : Nat) :
    ((results (instrs lines)).map Prod.fst).count i + ((labels lines).map Label.number).count i
      ≤ (carried lines).count i := by
  induction lines with
  | nil => exact Nat.le_refl 0
  | cons line rest ih =>
    show _ ≤ (line.carried ++ carried rest).count i
    rw [List.count_append]
    cases line with
    | instr instr =>
      rw [instrs_instr, labels_instr]
      cases instr <;>
        simp only [results, List.filterMap_cons, Instr.result?, List.map_cons, List.count_cons,
          Line.carried, Line.drawn, Option.map_some, Option.toList_some, List.count_nil] at ih ⊢ <;>
        omega
    | label l =>
      rw [instrs_label, labels_label, List.map_cons, List.count_cons]
      simp only [Line.carried, Line.drawn, List.count_cons, List.count_nil]
      omega
    | _ => exact Nat.le_trans ih (Nat.le_add_left _ _)

/-- **The names of temporaries and labels are told apart**, if no number stands in two
definitions. -/
theorem nodup_drawnNames {lines : List Line} (tags : LoopTags (labels lines))
    (once : ∀ i, (carried lines).count i ≤ 1) : (drawnNames lines).Nodup := by
  have temporaries : ((results (instrs lines)).map Prod.fst).Nodup :=
    List.nodup_iff_count_le_one.2 fun i => by
      have bound := count_numbers_le lines i
      have single := once i
      omega
  have numbers : ((labels lines).map Label.number).Nodup :=
    List.nodup_iff_count_le_one.2 fun i => by
      have bound := count_numbers_le lines i
      have single := once i
      omega
  unfold drawnNames
  rw [List.nodup_append]
  refine ⟨?_, ?_, ?_⟩
  · have names := temporaries.map fun _ _ same => tempText_inj same
    rwa [List.map_map] at names
  · -- labels with the same text show the same number, and so are one label
    refine (List.Nodup.of_map _ numbers).map_on fun l here k there same => ?_
    have texts : l.text = k.text := by
      have lists := congrArg String.toList same
      refine String.toList_inj.1 ?_
      simpa only [String.toList_append, List.append_cancel_left_eq] using lists
    exact List.inj_on_of_nodup_map numbers here there (Label.number_eq texts)
  · intro a temporary b label same
    obtain ⟨result, -, rfl⟩ := List.mem_map.1 temporary
    obtain ⟨l, member, rfl⟩ := List.mem_map.1 label
    exact tempText_ne_label (tags l member) result.1 same

/-! ## §4. Labels of loops. -/

mutual

/-- The positions of the loops in a statement, an outer loop before those in it. -/
def Stmt.loops : Stmt → List Pos
  | .block _ stmts => loopsOfItems stmts
  | .loop pos body init _ post => pos :: (loopsOf? init ++ body.loops ++ loopsOf? post)
  | .varDecl .. | .assign .. | .exprStmt .. | .foreign _ => []
termination_by structural s => s

/-- The positions of the loops in a statement that may be absent. -/
def loopsOf? : Option Stmt → List Pos
  | none => []
  | some stmt => stmt.loops
termination_by structural s => s

/-- The positions of the loops in a readable block. -/
def loopsOfItems : Except ReadFault (List Stmt) → List Pos
  | .error _ => []
  | .ok items => loopsOfStmts items
termination_by structural items => items

/-- The positions of the loops in statements, in order. -/
def loopsOfStmts : List Stmt → List Pos
  | [] => []
  | stmt :: rest => stmt.loops ++ loopsOfStmts rest
termination_by structural stmts => stmts

end

/-- The positions of the loops in a piece. -/
def Piece.loops : Piece → List Pos
  | .stmt s => s.loops
  | .optional s => loopsOf? s
  | .sequence items => loopsOfStmts items

/-- The positions of the loops in a function. -/
def FuncEntry.loops (fn : FuncEntry) : List Pos :=
  match fn.body with
  | .ok (.stmts items) => loopsOfItems items
  | _ => []

/-- The positions of the loops in functions, in order. -/
def loopsOfFunctions (funcs : List (Reading FuncEntry)) : List Pos :=
  funcs.flatMap fun entry => (entry.toOption.map FuncEntry.loops).getD []

/-- The positions of the loops in a file. -/
def SourceFile.loops (file : SourceFile) : List Pos := loopsOfFunctions (readableEntries file.funcs)

/-- The labels of a loop. -/
def LoopLabels.all (labels : LoopLabels) : List Label :=
  [labels.init, labels.cond, labels.body, labels.done]

/-- The labels among the lines are those of the loops at the positions, each of which has four with
numbers in a row. -/
def LabelsOf (positions : List Pos) (lines : List Line) : Prop :=
  ∃ loops : List (Pos × Nat), loops.map Prod.fst = positions
    ∧ (labels lines).Perm (loops.flatMap fun loop => (loopLabels loop.1 loop.2).all)

theorem LabelsOf.nil {lines : List Line} (none : labels lines = []) : LabelsOf [] lines :=
  ⟨[], rfl, by rw [none]; exact .refl _⟩

theorem LabelsOf.append {p q : List Pos} {c d : List Line} (first : LabelsOf p c)
    (second : LabelsOf q d) : LabelsOf (p ++ q) (c ++ d) := by
  obtain ⟨loops, positions, perm⟩ := first
  obtain ⟨loops', positions', perm'⟩ := second
  refine ⟨loops ++ loops', by rw [List.map_append, positions, positions'], ?_⟩
  rw [labels_append, List.flatMap_append]
  exact perm.append perm'

/-- The labels of a loop stand around those of its parts. -/
theorem LabelsOf.loop {p q r : List Pos} {init body post : List Line}
    (first : LabelsOf p init) (second : LabelsOf q body) (third : LabelsOf r post) (pos : Pos)
    (n : Nat) (test : List Instr) :
    LabelsOf (pos :: (p ++ q ++ r)) (loopLines (loopLabels pos n) init test body post) := by
  obtain ⟨loops, positions, perm⟩ := (first.append second).append third
  refine ⟨(pos, n) :: loops, by rw [List.map_cons, positions], ?_⟩
  have stands : labels (loopLines (loopLabels pos n) init test body post)
      = (loopLabels pos n).init :: (labels init ++ (loopLabels pos n).cond
        :: (loopLabels pos n).body :: (labels body ++ (labels post
        ++ [(loopLabels pos n).done]))) := by
    simp [loopLines, seam]
  rw [stands, List.flatMap_cons]
  refine List.perm_iff_count.2 fun l => ?_
  have counts := perm.count_eq l
  rw [labels_append, labels_append, List.count_append, List.count_append] at counts
  simp only [LoopLabels.all, List.count_append, List.count_cons, List.count_nil] at counts ⊢
  omega

/-- **The labels of a piece are those of its loops.** -/
theorem Code.labelsOf {σ τ : Layout} {piece : Piece} {code : List Line}
    (h : Code σ piece code τ) : LabelsOf piece.loops code := by
  induction h with
  | varDecl => exact .nil (labels_straight _)
  | assign => exact .nil (labels_straight _)
  | block _ ih => exact ih
  | loop _ _ _ _ ihInit ihBody ihPost => exact ihInit.loop ihBody ihPost _ _ _
  | expr => exact .nil (labels_straight _)
  | absent => exact .nil rfl
  | present _ ih => exact ih
  | nil => exact .nil rfl
  | cons _ _ ihFirst ihOthers => exact ihFirst.append ihOthers

theorem labels_definitionLines (symbol : String) (slots : List Slot) (code : List Line) :
    labels (definitionLines symbol slots code) = labels code := by
  have shape : definitionLines symbol slots code
      = [.define symbol] ++ straight (slots.map .alloca) ++ code
        ++ [.instr .ret, .close, .blank] := by
    simp [definitionLines]
  rw [shape, labels_append, labels_append, labels_append, labels_straight]
  show [] ++ [] ++ labels code ++ [] = _
  simp

theorem FunctionsCode.labelsOf {options : Options} {package : String} {σ τ : Layout}
    {funcs : List (Reading FuncEntry)} {code : List Line}
    (h : FunctionsCode options package σ funcs code τ) :
    LabelsOf (loopsOfFunctions funcs) code := by
  induction h with
  | nil => exact .nil rfl
  | @external _ _ _ fn rest _ _ body _ ih =>
    have none : fn.loops = [] := by simp only [FuncEntry.loops, body]
    show LabelsOf (fn.loops ++ loopsOfFunctions rest) _
    rw [none]
    exact ih
  | @defined _ _ ω _ fn rest items code c _ body inner _ ih =>
    have own : fn.loops = loopsOfStmts items := by simp only [FuncEntry.loops, body, loopsOfItems]
    obtain ⟨loops, positions, perm⟩ := inner.labelsOf
    show LabelsOf (fn.loops ++ loopsOfFunctions rest) _
    rw [own]
    refine LabelsOf.append ⟨loops, positions, ?_⟩ ih
    rw [labels_definitionLines]
    exact perm

theorem GlobalsCode.labels_eq {options : Options} {package : String} {σ τ : Layout}
    {globals : List (Reading GlobalEntry)} {code : List Line}
    (h : GlobalsCode options package σ globals code τ) : labels code = [] := by
  induction h with
  | nil => rfl
  | cons _ _ ih => exact ih

/-- **The labels of a module are those of the loops of its file.** -/
theorem ModuleCode.labelsOf {options : Options} {file : SourceFile} {slots : List Slot}
    {lines : List Line} {n : Nat} (h : ModuleCode options file slots lines n) :
    LabelsOf file.loops (expandLines lines) := by
  cases h with
  | @intro globals funcs due vars routines initials _ _ _ _ readable globalVars functions _ _ =>
    have separator : labels (globalsEnd globals) = [] := by cases globals <;> rfl
    have entry : labels (expandLines (entryLine options file due)) = [] := by cases due <;> rfl
    have initialiser : labels (initialiserLines (options.symbol file.package.text "init") initials)
        = [] := by
      show labels (straight initials ++ [.instr .ret, .close]) = []
      rw [labels_append, labels_straight]
      rfl
    have all : file.loops = loopsOfFunctions funcs := by
      rw [SourceFile.loops, readable, readableEntries]
    obtain ⟨loops, positions, perm⟩ := functions.labelsOf
    rw [expandLines_module globalVars functions, all]
    refine ⟨loops, positions, ?_⟩
    simp only [labels_append, globalVars.labels_eq, separator, initialiser, entry, List.append_nil]
    exact perm

/-- Labels of loops start with a word of their own. -/
theorem LabelsOf.loopTags {positions : List Pos} {lines : List Line}
    (h : LabelsOf positions lines) : LoopTags (labels lines) := by
  obtain ⟨loops, -, perm⟩ := h
  intro l member
  obtain ⟨loop, -, own⟩ := List.mem_flatMap.1 (perm.mem_iff.1 member)
  simp only [LoopLabels.all, List.mem_cons, List.not_mem_nil, or_false] at own
  rcases own with rfl | rfl | rfl | rfl
  · exact ⟨"init.pos" ++ loop.1.text, by simp [loopLabels, ← String.append_assoc]⟩
  · exact ⟨"cond.pos" ++ loop.1.text, by simp [loopLabels, ← String.append_assoc]⟩
  · exact ⟨"body.pos" ++ loop.1.text, by simp [loopLabels, ← String.append_assoc]⟩
  · exact ⟨"end.pos" ++ loop.1.text, by simp [loopLabels, ← String.append_assoc]⟩

/-! ## §5. Modules. -/

/-- **Each number below the counter stands in exactly one definition of the module, and no other
number in any.**  So temporaries and labels are told apart in the whole module; and its labels are
those of the loops of the source, each with four numbers in a row. -/
theorem generate_numbers (options : Options) (file : SourceFile) {s t : State} {text : String}
    (h : generate options file s = .ok text t) :
    text = moduleText (expandLines t.lines)
      ∧ (∀ n, (carried (expandLines t.lines)).count n = if n < t.nextId then 1 else 0)
      ∧ (drawnNames (expandLines t.lines)).Nodup
      ∧ LabelsOf file.loops (expandLines t.lines) := by
  obtain ⟨shown, emitted⟩ := generate_sound h
  have draws := emitted.draws
  have loops := emitted.labelsOf
  rw [moduleText_expandLines]
  refine ⟨shown, fun n => ?_, nodup_drawnNames loops.loopTags draws.count_le_one, loops⟩
  rw [draws.2 n]
  simp only [Nat.zero_le, true_and]

/-- Two functions with names at the same positions, a loop in a loop, and an initial value: all draw
from one counter, also the slots that positions do not tell apart. -/
def samePositions : SourceFile where
  pos := .offset 0
  package := .ofText "lib"
  globals := .ok
    [.ok ⟨.offset 0, "GlobalDecl", .ofText "g", .ok (some (.number (.offset 0) (.ok 7)))⟩]
  funcs := .ok
    [.ok ⟨.offset 0, "FuncDecl", .ofText "first", .ok (.stmts (.ok
      [.varDecl (.offset 0) (.ofText "x") none,
       .loop (.offset 0)
        (.loop (.offset 0) (.varDecl (.offset 0) (.ofText "x") none) none
          (some (.binary (.offset 0) (.known (.compare .lt)) (.ident ⟨.offset 0, .ofText "x"⟩)
            (.number (.offset 0) (.ok 3)))) none)
        (some (.varDecl (.offset 0) (.ofText "x") none)) none none]))⟩,
     .ok ⟨.offset 0, "FuncDecl", .ofText "second", .ok (.stmts (.ok
      [.varDecl (.offset 0) (.ofText "x") (some (.ident ⟨.offset 0, .ofText "g"⟩)),
       .block (.offset 0) (.ok [.varDecl (.offset 0) (.ofText "x") none])]))⟩]

theorem generate_numbers_samePositions : ∃ text t, generate {} samePositions {} = .ok text t
    ∧ text = moduleText (expandLines t.lines)
    ∧ (∀ n, (carried (expandLines t.lines)).count n = if n < t.nextId then 1 else 0)
    ∧ (drawnNames (expandLines t.lines)).Nodup
    ∧ LabelsOf [.offset 0, .offset 0] (expandLines t.lines) := by
  have accepted : Lower.succeeds (generate {} samePositions {}) = true := by decide +kernel
  obtain ⟨text, t, ran⟩ := Lower.exists_of_succeeds accepted
  exact ⟨text, t, ran, generate_numbers {} samePositions ran⟩

end SlotIR
