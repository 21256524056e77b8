/-
  SlotIR.Proofs.Structure.Definitions
  ───────────────────────────────────
  **THE FUNCTIONS THAT A MODULE DEFINES.**

  A module is a list of lines, in which a function's definition runs from
  its opening line to the next closing one (`definitions`).  The entry
  point is a single line of several; written out, it is one definition
  more, and the text of the module stays the same
  (`moduleText_expandLines`).

  The definitions of an emitted module are those of its functions in
  order, then the initialiser (`definitions_module`), then the entry point
  if it is due (`definitions_expandLines_entryLine`).
-/
import SlotIR.Proofs.Emission.Code
import SlotIR.Proofs.Target.Effects

namespace SlotIR

/-! ## §1. Definitions. -/

/-- The definition of a function: its symbol and the lines of its body. -/
structure Definition where
  symbol : String
  body : List Line
  deriving DecidableEq, Repr

/-- The definitions of functions among lines. -/
def definitions : List Line → List Definition
  | [] => []
  | .define symbol :: rest => ⟨symbol, rest.takeWhile (· ≠ .close)⟩ :: definitions rest
  | _ :: rest => definitions rest

/-- Lines with the entry point written out. -/
def expandLines (lines : List Line) : List Line := lines.flatMap Line.expand

/-- The line may stand in the body of a function. -/
def Line.isBody : Line → Bool
  | .instr _ | .label _ | .blank => true
  | _ => false

/-- All lines may stand in the body of a function. -/
def BodyLines (code : List Line) : Prop := ∀ line ∈ code, line.isBody = true

theorem BodyLines.append {c d : List Line} (first : BodyLines c) (second : BodyLines d) :
    BodyLines (c ++ d) := by
  intro line member
  rcases List.mem_append.1 member with here | there
  · exact first line here
  · exact second line there

theorem bodyLines_straight (code : List Instr) : BodyLines (straight code) := by
  intro line member
  obtain ⟨i, -, rfl⟩ := List.mem_map.1 member
  rfl

theorem bodyLines_seam (last : Instr) (next : Label) : BodyLines (seam last next) := by
  intro line member
  simp only [seam, List.mem_cons, List.not_mem_nil, or_false] at member
  rcases member with rfl | rfl | rfl <;> rfl

/-- Code of a function's body has only lines that may stand there. -/
theorem Code.bodyLines {σ τ : Layout} {piece : Piece} {code : List Line}
    (h : Code σ piece code τ) : BodyLines code := by
  induction h with
  | varDecl => exact bodyLines_straight _
  | assign => exact bodyLines_straight _
  | block _ ih => exact ih
  | loop _ _ _ _ ihInit ihBody ihPost =>
    have opening (l : Label) : BodyLines [.blank, .label l] := by
      intro line member
      simp only [List.mem_cons, List.not_mem_nil, or_false] at member
      rcases member with rfl | rfl <;> rfl
    unfold loopLines
    exact (bodyLines_seam _ _).append (ihInit.append ((bodyLines_seam _ _).append
      ((bodyLines_straight _).append ((opening _).append (ihBody.append (ihPost.append
        (bodyLines_seam _ _)))))))
  | expr => exact bodyLines_straight _
  | absent => intro line member; cases member
  | present _ ih => exact ih
  | nil => intro line member; cases member
  | cons _ _ ihFirst ihOthers => exact ihFirst.append ihOthers

/-! ## §2. Reading definitions off. -/

@[simp] theorem definitions_nil : definitions [] = [] := rfl

/-- Lines of a body define no function of their own. -/
theorem definitions_append_of_bodyLines {body : List Line} (inside : BodyLines body)
    (rest : List Line) : definitions (body ++ rest) = definitions rest := by
  induction body with
  | nil => rfl
  | cons line body ih =>
    have here := inside line List.mem_cons_self
    have later := ih fun line member => inside line (List.mem_cons_of_mem _ member)
    cases line with
    | instr => exact later
    | label => exact later
    | blank => exact later
    | _ => cases here

theorem takeWhile_body {body : List Line} (inside : BodyLines body) (rest : List Line) :
    (body ++ .close :: rest).takeWhile (· ≠ .close) = body := by
  have passes : ∀ line ∈ body, decide (line ≠ .close) = true := by
    intro line member
    have allowed := inside line member
    cases line with
    | close => cases allowed
    | _ => rfl
  -- the closing line ends the body, as no line of the body is one
  rw [List.takeWhile_append_of_pos passes]
  simp

/-- A definition is read off with its body. -/
theorem definitions_define {symbol : String} {body : List Line} (inside : BodyLines body)
    (rest : List Line) :
    definitions (.define symbol :: (body ++ .close :: rest))
      = ⟨symbol, body⟩ :: definitions rest := by
  show ⟨symbol, _⟩ :: definitions (body ++ .close :: rest) = _
  rw [takeWhile_body inside, definitions_append_of_bodyLines inside]
  rfl

/-! ## §3. The definitions of a module. -/

/-- The body of a function, by its slots and the lines of its statements. -/
def functionBody (slots : List Slot) (code : List Line) : List Line :=
  straight (slots.map .alloca) ++ code ++ [.instr .ret]

/-- The body of the initialiser, by its instructions. -/
def initialiserBody (code : List Instr) : List Line := straight code ++ [.instr .ret]

/-- The definition of the entry point. -/
def entryDefinition (init main : String) : Definition :=
  ⟨"@main", straight [.invoke init, .invoke main, .ret]⟩

theorem bodyLines_functionBody {code : List Line} (inside : BodyLines code) (slots : List Slot) :
    BodyLines (functionBody slots code) :=
  ((bodyLines_straight _).append inside).append (bodyLines_straight [.ret])

theorem bodyLines_initialiserBody (code : List Instr) : BodyLines (initialiserBody code) :=
  (bodyLines_straight _).append (bodyLines_straight [.ret])

/-- A definition and what follows it, cut at the end of its body. -/
theorem definitionLines_append (symbol : String) (slots : List Slot) (code rest : List Line) :
    definitionLines symbol slots code ++ rest
      = .define symbol :: (functionBody slots code ++ .close :: .blank :: rest) := by
  simp [definitionLines, functionBody]

theorem initialiserLines_append (symbol : String) (code : List Instr) (rest : List Line) :
    initialiserLines symbol code ++ rest
      = .define symbol :: (initialiserBody code ++ .close :: rest) := by
  simp [initialiserLines, initialiserBody]

theorem definitions_definitionLines {symbol : String} {slots : List Slot} {code : List Line}
    (inside : BodyLines code) (rest : List Line) :
    definitions (definitionLines symbol slots code ++ rest)
      = ⟨symbol, functionBody slots code⟩ :: definitions rest := by
  rw [definitionLines_append, definitions_define (bodyLines_functionBody inside _)]
  rfl

/-- The definitions of functions are complete: what follows cannot change them. -/
theorem FunctionsCode.definitions_append {options : Options} {package : String} {σ τ : Layout}
    {funcs : List (Reading FuncEntry)} {code : List Line}
    (h : FunctionsCode options package σ funcs code τ) (rest : List Line) :
    definitions (code ++ rest) = definitions code ++ definitions rest := by
  induction h with
  | nil => rfl
  | external _ _ _ ih => exact ih
  | defined _ _ inner _ ih =>
    -- the body of this function is read off on both sides
    rw [List.append_assoc, definitions_definitionLines inner.bodyLines, ih,
      definitions_definitionLines inner.bodyLines]
    rfl

theorem GlobalsCode.definitions_append {options : Options} {package : String} {σ τ : Layout}
    {globals : List (Reading GlobalEntry)} {code : List Line}
    (h : GlobalsCode options package σ globals code τ) (rest : List Line) :
    definitions (code ++ rest) = definitions rest := by
  induction h with
  | nil => rfl
  | cons _ _ ih => exact ih

theorem definitions_globalsEnd {α : Type} (globals : List α) (rest : List Line) :
    definitions (globalsEnd globals ++ rest) = definitions rest := by
  cases globals <;> rfl

theorem definitions_initialiserLines (symbol : String) (code : List Instr) (rest : List Line) :
    definitions (initialiserLines symbol code ++ rest)
      = ⟨symbol, initialiserBody code⟩ :: definitions rest := by
  rw [initialiserLines_append, definitions_define (bodyLines_initialiserBody code)]

/-- **The definitions of a module are its functions in order and then the initialiser.** -/
theorem definitions_module {options : Options} {package symbol : String} {σ ρ τ : Layout}
    {globals : List (Reading GlobalEntry)} {funcs : List (Reading FuncEntry)}
    {vars routines : List Line} (globalVars : GlobalsCode options package σ globals vars ρ)
    (functions : FunctionsCode options package ρ funcs routines τ) (initials : List Instr)
    (rest : List Line) :
    definitions ([.package package, .builtins, .blank] ++ vars ++ globalsEnd globals ++ routines
        ++ initialiserLines symbol initials ++ rest)
      = definitions routines ++ ⟨symbol, initialiserBody initials⟩ :: definitions rest := by
  simp only [List.append_assoc]
  show definitions (vars ++ _) = _
  rw [globalVars.definitions_append, definitions_globalsEnd, functions.definitions_append,
    definitions_initialiserLines]

/-! ## §4. Lines other than the entry point. -/

@[simp] theorem expandLines_append (c d : List Line) :
    expandLines (c ++ d) = expandLines c ++ expandLines d :=
  List.flatMap_append

/-- The line is not the entry point. -/
def Line.isSimple : Line → Bool
  | .entry _ _ => false
  | _ => true

/-- Lines that are no entry point stay as they are. -/
theorem expandLines_eq_self {code : List Line} (simple : ∀ line ∈ code, line.isSimple = true) :
    expandLines code = code := by
  induction code with
  | nil => rfl
  | cons line rest ih =>
    have here := simple line List.mem_cons_self
    have later := ih fun line member => simple line (List.mem_cons_of_mem _ member)
    show line.expand ++ expandLines rest = _
    rw [later]
    cases line with
    | entry => cases here
    | _ => rfl

theorem BodyLines.simple {code : List Line} (inside : BodyLines code) :
    ∀ line ∈ code, line.isSimple = true := by
  intro line member
  have allowed := inside line member
  cases line with
  | entry => cases allowed
  | _ => rfl

theorem FunctionsCode.simple {options : Options} {package : String} {σ τ : Layout}
    {funcs : List (Reading FuncEntry)} {code : List Line}
    (h : FunctionsCode options package σ funcs code τ) : ∀ line ∈ code, line.isSimple = true := by
  induction h with
  | nil => intro line member; cases member
  | external _ _ _ ih =>
    intro line member
    simp only [List.mem_cons] at member
    rcases member with rfl | rfl | later
    · rfl
    · rfl
    · exact ih line later
  | @defined _ _ ω _ _ _ _ code _ _ _ inner _ ih =>
    intro line member
    have body : BodyLines (straight (ω.slots.map .alloca) ++ code) :=
      (bodyLines_straight _).append inner.bodyLines
    simp only [definitionLines, List.cons_append, List.mem_append, List.mem_cons,
      List.not_mem_nil, or_false] at member
    rcases member with rfl | (inside | rfl | rfl | rfl) | later
    · rfl
    · exact body.simple line (List.mem_append.2 inside)
    · rfl
    · rfl
    · rfl
    · exact ih line later

theorem GlobalsCode.simple {options : Options} {package : String} {σ τ : Layout}
    {globals : List (Reading GlobalEntry)} {code : List Line}
    (h : GlobalsCode options package σ globals code τ) : ∀ line ∈ code, line.isSimple = true := by
  induction h with
  | nil => intro line member; cases member
  | cons _ _ ih =>
    intro line member
    rcases List.mem_cons.1 member with rfl | later
    · rfl
    · exact ih line later

/-- Only the entry point of a module changes when it is written out. -/
theorem expandLines_module {options : Options} {package symbol : String} {σ ρ τ : Layout}
    {globals : List (Reading GlobalEntry)} {funcs : List (Reading FuncEntry)}
    {vars routines : List Line} (globalVars : GlobalsCode options package σ globals vars ρ)
    (functions : FunctionsCode options package ρ funcs routines τ) (initials : List Instr)
    (rest : List Line) :
    expandLines ([.package package, .builtins, .blank] ++ vars ++ globalsEnd globals ++ routines
        ++ initialiserLines symbol initials ++ rest)
      = [.package package, .builtins, .blank] ++ vars ++ globalsEnd globals ++ routines
        ++ initialiserLines symbol initials ++ expandLines rest := by
  have separator : expandLines (globalsEnd globals) = globalsEnd globals := by
    cases globals <;> rfl
  have initialiser : expandLines (initialiserLines symbol initials)
      = initialiserLines symbol initials := by
    refine expandLines_eq_self fun line member => ?_
    simp only [initialiserLines, List.cons_append, List.mem_append, List.mem_cons,
      List.not_mem_nil, or_false] at member
    rcases member with rfl | inside | rfl | rfl
    · rfl
    · exact (bodyLines_straight initials).simple line inside
    · rfl
    · rfl
  simp only [expandLines_append, expandLines_eq_self globalVars.simple, separator,
    expandLines_eq_self functions.simple, initialiser]
  rfl

/-- The definition of the entry point, if it is due. -/
def entryDefinitions (options : Options) (file : SourceFile) (due : Bool) : List Definition :=
  if due then
    [entryDefinition (options.symbol file.package.text "init")
      (options.symbol file.package.text "main")]
  else []

theorem definitions_expandLines_entryLine (options : Options) (file : SourceFile) (due : Bool) :
    definitions (expandLines (entryLine options file due)) = entryDefinitions options file due := by
  cases due with
  | false => rfl
  | true => exact definitions_define (bodyLines_straight [.invoke _, .invoke _, .ret]) []

/-! ## §5. Instructions. -/

theorem instrs_definitionLines (symbol : String) (slots : List Slot) (code : List Line) :
    instrs (definitionLines symbol slots code) = instrs (functionBody slots code) := by
  unfold definitionLines functionBody
  rw [instrs_append, instrs_append, instrs_append, instrs_append]
  rfl

theorem FunctionsCode.instr_mem {options : Options} {package : String} {σ τ : Layout}
    {funcs : List (Reading FuncEntry)} {code : List Line}
    (h : FunctionsCode options package σ funcs code τ) :
    ∀ i ∈ instrs code, ∃ d ∈ definitions code, i ∈ instrs d.body := by
  induction h with
  | nil => intro i member; cases member
  | external _ _ _ ih => exact ih
  | @defined _ _ ω _ fn _ _ code _ _ _ inner _ ih =>
    rw [definitions_definitionLines inner.bodyLines]
    intro i member
    rw [instrs_append] at member
    rcases List.mem_append.1 member with here | later
    · refine ⟨_, List.mem_cons_self, ?_⟩
      rw [instrs_definitionLines] at here
      exact here
    · obtain ⟨d, defined, inside⟩ := ih i later
      exact ⟨d, List.mem_cons_of_mem _ defined, inside⟩

theorem GlobalsCode.instrs_eq {options : Options} {package : String} {σ τ : Layout}
    {globals : List (Reading GlobalEntry)} {code : List Line}
    (h : GlobalsCode options package σ globals code τ) : instrs code = [] := by
  induction h with
  | nil => rfl
  | cons _ _ ih => exact ih

/-! ## §6. The text. -/

/-- Writing the entry point out leaves the text of a module as it is. -/
theorem moduleText_expandLines (lines : List Line) :
    moduleText (expandLines lines) = moduleText lines := by
  have texts : "\n".intercalate ((expandLines lines).map Line.text)
      = "\n".intercalate (lines.map Line.text) := by
    induction lines with
    | nil => rfl
    | cons line rest ih =>
      have some_line : line.expand.map Line.text ≠ [] := by
        cases line <;> simp [Line.expand, entryLines]
      show "\n".intercalate ((line.expand ++ expandLines rest).map Line.text) = _
      rw [List.map_append, List.map_cons]
      cases rest with
      | nil =>
        rw [show expandLines [] = [] from rfl, List.map_nil, List.append_nil, Line.text_expand,
          String.intercalate_singleton]
      | cons next rest =>
        have more : (expandLines (next :: rest)).map Line.text ≠ [] := by
          cases next <;> simp [expandLines, Line.expand, entryLines]
        rw [String.intercalate_append_of_ne_nil some_line more, Line.text_expand, ih,
          String.intercalate_cons_of_ne_nil (by simp)]
  rw [moduleText, texts, moduleText]

end SlotIR
