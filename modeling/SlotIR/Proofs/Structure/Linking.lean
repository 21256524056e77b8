/-
  SlotIR.Proofs.Structure.Linking
  ───────────────────────────────
  **WHICH SYMBOLS THE MODULES OF TWO PACKAGES BOTH DEFINE.**

  Modules that are linked together must not define a symbol twice.  A
  symbol is made of the stem, the package and the name with underscores
  between them, and a package or a name may have underscores of its own:

      the name  b_c  of the package  a        @ugo_a_b_c
      the name  c    of the package  a_b      @ugo_a_b_c

  This is the only way in which the symbols of two packages meet
  (`Options.symbol_eq_iff`): the longer package is named like the shorter
  one with an underscore and a middle part, and the middle part stands
  before the name in the shorter one.  The entry point is due in one
  package at most.  Main result:

    • `generate_shared_symbol_iff` — the symbols that two modules both
      define, by the names that the packages define; none, if neither
      package name continues the other after an underscore.
-/
import SlotIR.Proofs.Structure.Symbols

namespace SlotIR

/-! ## §1. What a module defines. -/

/-- The symbols that a line defines, and does not only declare. -/
def Line.defines : Line → List String
  | .global symbol | .define symbol => [symbol]
  | _ => []

/-- The symbols that lines define. -/
def definedSymbols (lines : List Line) : List String := lines.flatMap Line.defines

/-- The function is not defined elsewhere. -/
def FuncEntry.hasBody (fn : FuncEntry) : Bool :=
  match fn.body with
  | .ok .external => false
  | _ => true

/-- The names that a package defines: variables, functions with a body, and the initialiser. -/
def SourceFile.ownNames (file : SourceFile) : List Name :=
  namesOf GlobalEntry.name (readableEntries file.globals)
    ++ namesOf FuncEntry.name ((readableEntries file.funcs).filter (holdsOf FuncEntry.hasBody))
    ++ [.ofText "init"]

@[simp] theorem definedSymbols_append (c d : List Line) :
    definedSymbols (c ++ d) = definedSymbols c ++ definedSymbols d :=
  List.flatMap_append

theorem definedSymbols_headings (lines : List Line) :
    definedSymbols (headings lines) = definedSymbols lines := by
  refine flatMap_headings (fun line other => ?_) lines
  cases line <;> first | rfl | cases other

theorem definedSymbols_globalHeadings (options : Options) (package : String)
    (globals : List (Reading GlobalEntry)) :
    definedSymbols (linesOf (GlobalEntry.heading options package) globals)
      = options.symbols package (namesOf GlobalEntry.name globals) :=
  flatMap_linesOf_all (fun _ => rfl) globals

theorem definedSymbols_funcHeadings (options : Options) (package : String)
    (funcs : List (Reading FuncEntry)) :
    definedSymbols (linesOf (FuncEntry.heading options package) funcs)
      = options.symbols package
          (namesOf FuncEntry.name (funcs.filter (holdsOf FuncEntry.hasBody))) := by
  apply flatMap_linesOf
  intro fn
  obtain ⟨pos, typeName, name, body⟩ := fn
  rcases body with fault | (_ | items) <;> rfl

/-- The symbols that a module defines: those of its package's own names, and the entry point's in
the main package at most. -/
theorem ModuleCode.definedSymbols {options : Options} {file : SourceFile} {slots : List Slot}
    {lines : List Line} {n : Nat} (h : ModuleCode options file slots lines n) :
    ∃ due, (due = true → file.package.same options.mainPackage = true)
      ∧ SlotIR.definedSymbols (expandLines lines)
        = options.symbols file.package.text file.ownNames ++ entrySymbols due := by
  obtain ⟨due, main, all⟩ := h.headings
  have entry : SlotIR.definedSymbols (entryHeadings due) = entrySymbols due := by
    cases due <;> rfl
  refine ⟨due, main, ?_⟩
  rw [← definedSymbols_headings, all]
  simp only [definedSymbols_append, entry, SourceFile.headings, definedSymbols_globalHeadings,
    definedSymbols_funcHeadings, SourceFile.ownNames, Options.symbols, List.map_append]
  rfl

/-! ## §2. Where the symbols of two packages meet. -/

/-- The package `longer` is named like `package` with an underscore and more. -/
def ContinuedBy (package longer : String) : Prop := ∃ middle, longer = package ++ "_" ++ middle

/-- What `longer` has after `package` and an underscore stands before `other`, with an underscore
between, in `name`. -/
def Overlaps (package name longer other : String) : Prop :=
  ∃ middle, longer = package ++ "_" ++ middle ∧ name = middle ++ "_" ++ other

theorem Overlaps.continuedBy {package name longer other : String}
    (h : Overlaps package name longer other) : ContinuedBy package longer := by
  obtain ⟨middle, continued, -⟩ := h
  exact ⟨middle, continued⟩

theorem Overlaps.symbol_eq {package name longer other : String}
    (h : Overlaps package name longer other) (options : Options) :
    options.symbol package name = options.symbol longer other := by
  obtain ⟨middle, rfl, rfl⟩ := h
  unfold Options.symbol
  simp only [String.append_assoc]

/-- A cut at an underscore before another one: the part between the cuts is the overlap. -/
theorem Overlaps.of_toList {package name longer other : String} {c : List Char}
    (different : package ≠ longer) (cut : longer.toList = package.toList ++ c)
    (rest : '_' :: name.toList = c ++ '_' :: other.toList) :
    Overlaps package name longer other := by
  cases c with
  | nil =>
    rw [List.append_nil] at cut
    exact absurd (String.toList_inj.1 cut).symm different
  | cons first middle =>
    rw [List.cons_append, List.cons.injEq] at rest
    obtain ⟨rfl, name_eq⟩ := rest
    refine ⟨String.ofList middle, String.toList_inj.1 ?_, String.toList_inj.1 ?_⟩
    · simp [String.toList_append, cut]
    · simp [String.toList_append, name_eq]

/-- **Names of two packages have one symbol only where the packages and the names overlap.** -/
theorem Options.symbol_eq_iff (options : Options) {package package' name name' : String}
    (different : package ≠ package') :
    options.symbol package name = options.symbol package' name'
      ↔ Overlaps package name package' name' ∨ Overlaps package' name' package name := by
  constructor
  · intro h
    have lists := congrArg String.toList h
    rw [Options.toList_symbol, Options.toList_symbol, List.cons.injEq, List.append_cancel_left_eq,
      List.cons.injEq] at lists
    -- one of the two packages ends first
    rcases List.append_eq_append_iff.1 lists.2.2 with ⟨c, cut, rest⟩ | ⟨c, cut, rest⟩
    · exact .inl (.of_toList different cut rest)
    · exact .inr (.of_toList different.symm cut rest)
  · intro h
    rcases h with first | second
    · exact first.symbol_eq options
    · exact (second.symbol_eq options).symm

/-! ## §3. What two modules both define. -/

theorem Options.mem_symbols {options : Options} {package symbol : String} {names : List Name} :
    symbol ∈ options.symbols package names
      ↔ ∃ name ∈ names, symbol = options.symbol package name.text := by
  simp only [Options.symbols, List.mem_map, eq_comm]

theorem mem_entrySymbols {due : Bool} {symbol : String} :
    symbol ∈ entrySymbols due ↔ due = true ∧ symbol = "@main" := by
  cases due <;> simp [entrySymbols]

theorem SourceFile.isText_package {file : SourceFile} (typed : file.typed = true) :
    file.package.isText = true := by
  simp only [SourceFile.typed, Bool.and_eq_true] at typed
  exact typed.1.1.2

/-- Only one package is the one that a program starts in. -/
theorem SourceFile.package_eq_of_same {a b : SourceFile} {main : Name} (typed : a.typed = true)
    (typed' : b.typed = true) (first : a.package.same main = true)
    (second : b.package.same main = true) : a.package = b.package := by
  rw [Name.eq_ofText (SourceFile.isText_package typed)] at first ⊢
  rw [Name.eq_ofText (SourceFile.isText_package typed')] at second ⊢
  rw [← Name.eq_ofText_of_same first, ← Name.eq_ofText_of_same second]

/-- A name that `a` defines and one that `b` defines have the same symbol. -/
inductive Meet (options : Options) (a b : SourceFile) : String → Prop
  | intro {x y : Name} (own : x ∈ a.ownNames) (own' : y ∈ b.ownNames)
      (overlap : Overlaps a.package.text x.text b.package.text y.text
        ∨ Overlaps b.package.text y.text a.package.text x.text) :
      Meet options a b (options.symbol a.package.text x.text)

/-- **What the modules of two packages both define.** -/
theorem ModuleCode.defines_both_iff {options : Options} {a b : SourceFile}
    {slots slots' : List Slot} {lines lines' : List Line} {n n' : Nat}
    (h : ModuleCode options a slots lines n) (h' : ModuleCode options b slots' lines' n')
    (typed : a.typed = true) (typed' : b.typed = true) (different : a.package ≠ b.package)
    (symbol : String) :
    (symbol ∈ SlotIR.definedSymbols (expandLines lines)
        ∧ symbol ∈ SlotIR.definedSymbols (expandLines lines'))
      ↔ Meet options a b symbol := by
  have texts : a.package.text ≠ b.package.text := by
    rw [Ne, Name.text_eq_iff (SourceFile.isText_package typed) (SourceFile.isText_package typed')]
    exact different
  obtain ⟨due, main, all⟩ := h.definedSymbols
  obtain ⟨due', main', all'⟩ := h'.definedSymbols
  rw [all, all', List.mem_append, List.mem_append, Options.mem_symbols, Options.mem_symbols,
    mem_entrySymbols, mem_entrySymbols]
  constructor
  -- a name's symbol is never the entry point's, and the entry points are not both due
  · rintro ⟨⟨x, own, rfl⟩ | ⟨due, rfl⟩, ⟨y, own', same⟩ | ⟨due', same⟩⟩
    · exact .intro own own' ((options.symbol_eq_iff texts).1 same)
    · exact absurd same (options.symbol_ne_main _ _)
    · exact absurd same.symm (options.symbol_ne_main _ _)
    · exact absurd (SourceFile.package_eq_of_same typed typed' (main due) (main' due')) different
  · rintro ⟨own, own', overlap⟩
    exact ⟨.inl ⟨_, own, rfl⟩, .inl ⟨_, own', (options.symbol_eq_iff texts).2 overlap⟩⟩

theorem Meet.continuedBy {options : Options} {a b : SourceFile} {symbol : String}
    (h : Meet options a b symbol) :
    ContinuedBy a.package.text b.package.text ∨ ContinuedBy b.package.text a.package.text := by
  cases h with
  | intro _ _ overlap => exact overlap.imp Overlaps.continuedBy Overlaps.continuedBy

/-- **The modules of two packages both define a symbol exactly where their names overlap**, and none
unless one package name continues the other after an underscore. -/
theorem generate_shared_symbol_iff (options : Options) (a b : SourceFile) {s t s' t' : State}
    {text text' : String} (typed : a.typed = true) (typed' : b.typed = true)
    (different : a.package ≠ b.package) (h : generate options a s = .ok text t)
    (h' : generate options b s' = .ok text' t') :
    text = moduleText (expandLines t.lines) ∧ text' = moduleText (expandLines t'.lines)
      ∧ (∀ symbol, (symbol ∈ definedSymbols (expandLines t.lines)
            ∧ symbol ∈ definedSymbols (expandLines t'.lines))
          ↔ Meet options a b symbol)
      ∧ ((definedSymbols (expandLines t.lines)).Disjoint (definedSymbols (expandLines t'.lines))
          ∨ ContinuedBy a.package.text b.package.text
          ∨ ContinuedBy b.package.text a.package.text) := by
  obtain ⟨shown, emitted⟩ := generate_sound h
  obtain ⟨shown', emitted'⟩ := generate_sound h'
  have both := emitted.defines_both_iff emitted' typed typed' different
  rw [moduleText_expandLines, moduleText_expandLines]
  refine ⟨shown, shown', both, ?_⟩
  by_cases meeting : ∃ symbol, Meet options a b symbol
  · obtain ⟨symbol, meet⟩ := meeting
    exact .inr meet.continuedBy
  · exact .inl fun symbol first second => meeting ⟨symbol, (both symbol).1 ⟨first, second⟩⟩

/-- A package whose names start like the last part of another package's name. -/
def shortPackage : SourceFile where
  pos := .offset 0
  package := .ofText "a"
  globals := .ok [.ok ⟨.offset 1, "GlobalDecl", .ofText "b_c", .ok none⟩]
  funcs := .ok
    [.ok ⟨.offset 2, "FuncDecl", .ofText "b_d", .ok .external⟩,
     .ok ⟨.offset 3, "FuncDecl", .ofText "b_init", .ok (.stmts (.ok []))⟩]

/-- A package that continues the name of the other. -/
def longPackage : SourceFile where
  pos := .offset 0
  package := .ofText "a_b"
  globals := .ok [.ok ⟨.offset 1, "GlobalDecl", .ofText "c", .ok none⟩]
  funcs := .ok [.ok ⟨.offset 2, "FuncDecl", .ofText "d", .ok (.stmts (.ok []))⟩]

theorem generate_shared_symbol_iff_longPackage :
    shortPackage.typed = true ∧ longPackage.typed = true
      ∧ shortPackage.package ≠ longPackage.package
      ∧ ∃ text t text' t', generate {} shortPackage {} = .ok text t
        ∧ generate {} longPackage {} = .ok text' t'
        ∧ text = moduleText (expandLines t.lines) ∧ text' = moduleText (expandLines t'.lines)
        ∧ (∀ symbol, (symbol ∈ definedSymbols (expandLines t.lines)
              ∧ symbol ∈ definedSymbols (expandLines t'.lines))
            ↔ Meet {} shortPackage longPackage symbol)
        ∧ ((definedSymbols (expandLines t.lines)).Disjoint (definedSymbols (expandLines t'.lines))
            ∨ ContinuedBy shortPackage.package.text longPackage.package.text
            ∨ ContinuedBy longPackage.package.text shortPackage.package.text) := by
  have typed : shortPackage.typed = true := by decide
  have typed' : longPackage.typed = true := by decide
  have different : shortPackage.package ≠ longPackage.package := by decide
  have accepted : Lower.succeeds (generate {} shortPackage {}) = true := by decide +kernel
  have accepted' : Lower.succeeds (generate {} longPackage {}) = true := by decide +kernel
  obtain ⟨text, t, ran⟩ := Lower.exists_of_succeeds accepted
  obtain ⟨text', t', ran'⟩ := Lower.exists_of_succeeds accepted'
  exact ⟨typed, typed', different, text, t, text', t', ran, ran',
    generate_shared_symbol_iff {} _ _ typed typed' different ran ran'⟩

/-- Symbols of the two packages: one of variables, one of a function and an initialiser. -/
def meetingSymbols : List String := ["@ugo_a_b_c", "@ugo_a_b_init"]

/-- Both modules define them. -/
theorem longPackage_meets_shortPackage :
    shortPackage.typed = true ∧ longPackage.typed = true
      ∧ shortPackage.package ≠ longPackage.package
      ∧ ∃ text t text' t', generate {} shortPackage {} = .ok text t
        ∧ generate {} longPackage {} = .ok text' t'
        ∧ text = moduleText (expandLines t.lines) ∧ text' = moduleText (expandLines t'.lines)
        ∧ ∀ symbol ∈ meetingSymbols, symbol ∈ definedSymbols (expandLines t.lines)
            ∧ symbol ∈ definedSymbols (expandLines t'.lines) := by
  have short : Lower.reaches (fun t => ∀ symbol ∈ meetingSymbols,
      symbol ∈ definedSymbols (expandLines t.lines)) (generate {} shortPackage {}) = true := by
    decide +kernel
  have long : Lower.reaches (fun t => ∀ symbol ∈ meetingSymbols,
      symbol ∈ definedSymbols (expandLines t.lines)) (generate {} longPackage {}) = true := by
    decide +kernel
  obtain ⟨text, t, ran, defined⟩ := Lower.exists_of_reaches short
  obtain ⟨text', t', ran', defined'⟩ := Lower.exists_of_reaches long
  refine ⟨by decide, by decide, by decide, text, t, text', t', ran, ran', ?_⟩
  rw [moduleText_expandLines, moduleText_expandLines]
  exact ⟨(generate_sound ran).1, (generate_sound ran').1, fun symbol meets =>
    ⟨of_decide_eq_true defined symbol meets, of_decide_eq_true defined' symbol meets⟩⟩

end SlotIR
