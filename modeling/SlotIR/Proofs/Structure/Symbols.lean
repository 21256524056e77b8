/-
  SlotIR.Proofs.Structure.Symbols
  ───────────────────────────────
  **WHEN THE SYMBOLS OF A MODULE ARE TOLD APART.**

  A module introduces symbols in four ways:

      @ugo_builtin_println, ...    the builtin functions, in the header
      @STEM_PACKAGE_NAME           the variables and functions
      @STEM_PACKAGE_init           the initialiser
      @main                        the entry point

  A package binds a name once and never the initialiser's
  (`BindsAll.keys`), so the symbols of the second and the third kind are
  told apart; and `@main`, without an underscore, is none of them.  But a
  name is not compared with the header: a stem and a package can spell
  out the symbol of a builtin function, in one way only
  (`symbol_mem_builtins_iff`).  Main result:

    • `generate_symbols_nodup_iff` — no symbol is introduced twice, unless
      the package `builtin` declares a builtin function's name under the
      stem `ugo`.
-/
import Mathlib.Data.List.Nodup
import SlotIR.Proofs.Structure.Naming

namespace SlotIR

/-! ## §1. The names that a package declares. -/

/-- The names of the readable ones among entries. -/
def namesOf {α : Type} (name : α → Name) (entries : List (Reading α)) : List Name :=
  entries.filterMap fun entry => entry.toOption.map name

/-- The readable entries of a list that may be unreadable itself. -/
def readableEntries {α : Type} : Reading (List (Reading α)) → List (Reading α)
  | .ok entries => entries
  | .error _ => []

/-- The names that a file declares: those of variables, then those of functions. -/
def SourceFile.names (file : SourceFile) : List Name :=
  namesOf GlobalEntry.name (readableEntries file.globals)
    ++ namesOf FuncEntry.name (readableEntries file.funcs)

@[simp] theorem namesOf_cons {α : Type} (name : α → Name) (a : α) (rest : List (Reading α)) :
    namesOf name (.ok a :: rest) = name a :: namesOf name rest := rfl

/-- Readable entries with typed names have typed names. -/
theorem isText_of_mem_namesOf {α : Type} {name : α → Name} {typed : α → Bool}
    (named : ∀ a, typed a = true → (name a).isText = true) {entries : List (Reading α)}
    (all : entries.all (holdsOf typed) = true) :
    ∀ n ∈ namesOf name entries, n.isText = true := by
  intro n member
  obtain ⟨entry, listed, found⟩ := List.mem_filterMap.1 member
  have holds := List.all_eq_true.1 all entry listed
  cases entry with
  | error fault => cases found
  | ok a =>
    cases found
    exact named a holds

/-- The names of a typed file are texts. -/
theorem SourceFile.isText_of_mem_names {file : SourceFile} (typed : file.typed = true) :
    ∀ name ∈ file.names, name.isText = true := by
  simp only [SourceFile.typed, Bool.and_eq_true] at typed
  obtain ⟨⟨-, typedGlobals⟩, typedFuncs⟩ := typed
  obtain ⟨globals, readable, allGlobals⟩ := exists_of_holdsOf typedGlobals
  obtain ⟨funcs, readable', allFuncs⟩ := exists_of_holdsOf typedFuncs
  intro name member
  rw [SourceFile.names, readable, readable'] at member
  rcases List.mem_append.1 member with var | func
  · refine isText_of_mem_namesOf (fun g ok => ?_) allGlobals name var
    simp only [GlobalEntry.typed, Bool.and_eq_true] at ok
    exact ok.1.2
  · refine isText_of_mem_namesOf (fun fn ok => ?_) allFuncs name func
    simp only [FuncEntry.typed, Bool.and_eq_true] at ok
    exact ok.1.2

/-! ## §2. Binding them. -/

/-- Names of a package are bound one after the other. -/
inductive BindsAll (options : Options) (package : String) :
    Chain Key Storage → List Name → Chain Key Storage → Prop
  | nil {scope : Chain Key Storage} : BindsAll options package scope [] scope
  | cons {σ τ : Layout} {name : Name} {names : List Name} {scope : Chain Key Storage}
      (binds : Binds σ name (options.symbol package name.text) τ)
      (others : BindsAll options package τ.scope names scope) :
      BindsAll options package σ.scope (name :: names) scope

section

variable {options : Options} {package : String}

theorem BindsAll.append {before between after : Chain Key Storage} {first second : List Name}
    (h : BindsAll options package before first between)
    (h' : BindsAll options package between second after) :
    BindsAll options package before (first ++ second) after := by
  induction h with
  | nil => exact h'
  | cons binds _ ih => exact .cons binds (ih h')

theorem GlobalsCode.bindsAll {σ τ : Layout} {globals : List (Reading GlobalEntry)}
    {code : List Line} (h : GlobalsCode options package σ globals code τ) :
    BindsAll options package σ.scope (namesOf GlobalEntry.name globals) τ.scope := by
  induction h with
  | nil => exact .nil
  | cons binds _ ih => exact .cons binds ih

/-- The body of a function leaves the names of the package as they are. -/
theorem FunctionsCode.bindsAll {σ τ : Layout} {funcs : List (Reading FuncEntry)}
    {code : List Line} (h : FunctionsCode options package σ funcs code τ) :
    BindsAll options package σ.scope (namesOf FuncEntry.name funcs) τ.scope := by
  induction h with
  | nil => exact .nil
  | external binds _ _ ih => exact .cons binds ih
  | @defined _ ρ ω _ _ _ _ _ _ binds _ inner _ ih =>
    have after : ω.leave.scope = ρ.scope := inner.tail_scope
    rw [after] at ih
    exact .cons binds ih

/-- The keys that the innermost frame binds, in order. -/
def innerKeys : Chain Key Storage → List Key
  | [] => []
  | frame :: _ => frame.entries.map (·.1)

theorem Frame.notMem_keys_of_find? {κ β : Type} [DecidableEq κ] {frame : Frame κ β} {key : κ}
    (h : frame.find? key = none) : key ∉ frame.entries.map (·.1) := by
  intro member
  obtain ⟨entry, bound, same⟩ := List.mem_map.1 member
  have absent := List.lookup_eq_none_iff.1 h entry bound
  simp [same] at absent

/-- Binding a name of a package adds its key, which is new. -/
theorem Binds.innerKeys {σ τ : Layout} {name : Name} {symbol : String} {key : Key}
    (h : Binds σ name symbol τ) (keyed : name.key = .ok key) :
    key ∉ SlotIR.innerKeys σ.scope
      ∧ SlotIR.innerKeys τ.scope = SlotIR.innerKeys σ.scope ++ [key] := by
  cases h with
  | @intro key' frame outer keyed' opened free _ =>
    obtain rfl : key' = key := by simpa [keyed'] using keyed
    have new : frame.contains key' = false := by simp [Frame.contains, free]
    show key' ∉ SlotIR.innerKeys σ.scope ∧ SlotIR.innerKeys (Chain.declare σ.scope _ _) = _
    rw [opened]
    refine ⟨Frame.notMem_keys_of_find? free, ?_⟩
    show (frame.declare key' _).entries.map (·.1) = _
    rw [Frame.entries_declare_of_not_contains new, List.map_append]
    rfl

/-- **A package binds each of its names once, and never that of the initialiser.** -/
theorem BindsAll.keys {before after : Chain Key Storage} {names : List Name}
    (h : BindsAll options package before names after)
    (typed : ∀ name ∈ names, name.isText = true) :
    SlotIR.innerKeys after = SlotIR.innerKeys before ++ names.map (fun name => Key.text name.text)
      ∧ ((SlotIR.innerKeys before).Nodup → (SlotIR.innerKeys after).Nodup)
      ∧ ∀ name ∈ names, name.text ≠ "init" := by
  induction h with
  | nil => exact ⟨by simp, id, fun _ member => by cases member⟩
  | @cons σ τ name names scope binds others ih =>
    have named : name = .ofText name.text := Name.eq_ofText (typed name List.mem_cons_self)
    have keyed := Name.key_of_isText (typed name List.mem_cons_self)
    obtain ⟨keys, nodup, allowed⟩ := ih fun n member => typed n (List.mem_cons_of_mem _ member)
    obtain ⟨new, here⟩ := binds.innerKeys keyed
    refine ⟨?_, fun distinct => nodup ?_, fun n member => ?_⟩
    · rw [keys, here]
      simp
    · rw [here, List.nodup_append]
      refine ⟨distinct, by simp, fun a old b last same => ?_⟩
      rw [List.mem_singleton.1 last] at same
      exact new (same ▸ old)
    · rcases List.mem_cons.1 member with rfl | later
      · cases binds with
        | intro _ _ _ other =>
          rw [named, Name.same_ofText, decide_eq_false_iff_not] at other
          exact other
      · exact allowed n later

end

/-! ## §3. Symbols and what they are made of. -/

theorem Options.toList_symbol (options : Options) (package name : String) :
    (options.symbol package name).toList
      = '@' :: (options.symbolStem.toList ++ '_' :: (package.toList ++ '_' :: name.toList)) := by
  simp [Options.symbol, String.toList_append]

/-- The names of a package are told apart by their symbols. -/
theorem Options.symbol_inj {options : Options} {package a b : String}
    (h : options.symbol package a = options.symbol package b) : a = b := by
  have lists := congrArg String.toList h
  unfold Options.symbol at lists
  simp only [String.toList_append] at lists
  exact String.toList_injective (List.append_cancel_left lists)

/-- A symbol with two underscores is made of its parts in one way. -/
theorem Options.symbol_parts {options : Options} {package name : String} {a b c : List Char}
    (plain : '_' ∉ a) (plain' : '_' ∉ b) (plain'' : '_' ∉ c)
    (h : (options.symbol package name).toList = '@' :: (a ++ '_' :: (b ++ '_' :: c))) :
    options.symbolStem.toList = a ∧ package.toList = b ∧ name.toList = c := by
  rw [Options.toList_symbol, List.cons.injEq] at h
  have parts := h.2
  -- the right side has two underscores, so the left has no more than the two between its parts
  have counts := congrArg (List.count '_') parts
  simp only [List.count_append, List.count_cons_self, List.count_eq_zero.2 plain,
    List.count_eq_zero.2 plain', List.count_eq_zero.2 plain''] at counts
  have package_plain : '_' ∉ package.toList := List.count_eq_zero.1 (by omega)
  have name_plain : '_' ∉ name.toList := List.count_eq_zero.1 (by omega)
  have regroup : ∀ x y z : List Char,
      x ++ '_' :: (y ++ '_' :: z) = (x ++ '_' :: y) ++ '_' :: z := by
    simp
  rw [regroup, regroup] at parts
  obtain ⟨front, rfl⟩ := append_cons_inj name_plain plain'' parts
  obtain ⟨stem, rfl⟩ := append_cons_inj package_plain plain' front
  exact ⟨stem, rfl, rfl⟩

/-- The symbols of the builtin functions. -/
def Builtins.symbols : List String := Builtins.functions.map (·.2)

/-- The names of the builtin functions. -/
def Builtins.names : List String := Builtins.functions.map (·.1)

/-- **A name has the symbol of a builtin function only in the package `builtin` under the stem
`ugo`**, and then it is that function's name. -/
theorem Options.symbol_mem_builtins_iff (options : Options) (package name : String) :
    options.symbol package name ∈ Builtins.symbols
      ↔ options.symbolStem = "ugo" ∧ package = "builtin" ∧ name ∈ Builtins.names := by
  constructor
  · intro member
    have parts : ∀ word : List Char, '_' ∉ word →
        (options.symbol package name).toList
          = '@' :: (['u', 'g', 'o']
              ++ '_' :: (['b', 'u', 'i', 'l', 't', 'i', 'n'] ++ '_' :: word)) →
        options.symbolStem = "ugo" ∧ package = "builtin" ∧ name = String.ofList word := by
      intro word plain same
      obtain ⟨stem, middle, last⟩ :=
        Options.symbol_parts (by decide) (by decide) plain same
      refine ⟨String.toList_inj.1 stem, String.toList_inj.1 middle, String.toList_inj.1 ?_⟩
      rw [last, String.toList_ofList]
    simp only [Builtins.symbols, Builtins.functions, List.map_cons, List.map_nil, List.mem_cons,
      List.not_mem_nil, or_false] at member
    rcases member with println | exit
    · obtain ⟨stem, middle, last⟩ := parts ['p', 'r', 'i', 'n', 't', 'l', 'n'] (by decide)
        (by rw [println]; rfl)
      exact ⟨stem, middle, by rw [last]; decide⟩
    · obtain ⟨stem, middle, last⟩ := parts ['e', 'x', 'i', 't'] (by decide) (by rw [exit]; rfl)
      exact ⟨stem, middle, by rw [last]; decide⟩
  · rintro ⟨stem, rfl, member⟩
    simp only [Builtins.names, Builtins.functions, List.map_cons, List.map_nil, List.mem_cons,
      List.not_mem_nil, or_false] at member
    rcases member with rfl | rfl <;> (unfold Options.symbol; rw [stem]; decide)

/-- The symbol of the entry point is no name's. -/
theorem Options.symbol_ne_main (options : Options) (package name : String) :
    options.symbol package name ≠ "@main" := by
  intro h
  have member : '_' ∈ ("@main" : String).toList := by
    rw [← h, Options.toList_symbol]
    simp
  revert member
  decide

/-! ## §4. What a module introduces. -/

/-- The line introduces symbols. -/
def Line.isHeading : Line → Bool
  | .builtins | .global _ | .declare _ | .define _ => true
  | _ => false

/-- The lines that introduce symbols. -/
def headings (lines : List Line) : List Line := lines.filter Line.isHeading

@[simp] theorem headings_append (c d : List Line) :
    headings (c ++ d) = headings c ++ headings d :=
  List.filter_append c d

/-- Lines of a body introduce nothing. -/
theorem BodyLines.headings {code : List Line} (inside : BodyLines code) :
    SlotIR.headings code = [] := by
  refine List.filter_eq_nil_iff.2 fun line member => ?_
  have allowed := inside line member
  cases line with
  | instr => exact Bool.false_ne_true
  | label => exact Bool.false_ne_true
  | blank => exact Bool.false_ne_true
  | _ => cases allowed

theorem headings_definitionLines (symbol : String) (slots : List Slot) {code : List Line}
    (inside : BodyLines code) : headings (definitionLines symbol slots code) = [.define symbol] := by
  have body : BodyLines (straight (slots.map .alloca) ++ code ++ straight [.ret]) :=
    ((bodyLines_straight _).append inside).append (bodyLines_straight [.ret])
  have shape : definitionLines symbol slots code
      = [.define symbol] ++ (straight (slots.map .alloca) ++ code ++ straight [.ret])
        ++ [.close, .blank] := by
    simp [definitionLines]
  rw [shape, headings_append, headings_append, body.headings]
  rfl

theorem headings_initialiserLines (symbol : String) (initials : List Instr) :
    headings (initialiserLines symbol initials) = [.define symbol] := by
  have body : BodyLines (straight initials ++ straight [.ret]) :=
    (bodyLines_straight _).append (bodyLines_straight _)
  have shape : initialiserLines symbol initials
      = [.define symbol] ++ (straight initials ++ straight [.ret]) ++ [.close] := by
    simp [initialiserLines]
  rw [shape, headings_append, headings_append, body.headings]
  rfl

/-- The line that introduces a variable of a package. -/
def GlobalEntry.heading (options : Options) (package : String) (g : GlobalEntry) : Line :=
  .global (options.symbol package g.name.text)

/-- The line that introduces a function of a package: one without a body is defined elsewhere. -/
def FuncEntry.heading (options : Options) (package : String) (fn : FuncEntry) : Line :=
  match fn.body with
  | .ok .external => .declare (options.symbol package fn.name.text)
  | _ => .define (options.symbol package fn.name.text)

/-- A line for each of the readable ones among entries. -/
def linesOf {α : Type} (line : α → Line) (entries : List (Reading α)) : List Line :=
  entries.filterMap fun entry => entry.toOption.map line

@[simp] theorem linesOf_cons {α : Type} (line : α → Line) (a : α) (rest : List (Reading α)) :
    linesOf line (.ok a :: rest) = line a :: linesOf line rest := rfl

/-- The lines that introduce the symbols of a file: variables, functions, and the initialiser. -/
def SourceFile.headings (options : Options) (file : SourceFile) : List Line :=
  linesOf (GlobalEntry.heading options file.package.text) (readableEntries file.globals)
    ++ linesOf (FuncEntry.heading options file.package.text) (readableEntries file.funcs)
    ++ [.define (options.symbol file.package.text "init")]

section

variable {options : Options} {package : String} {σ τ : Layout} {code : List Line}

theorem GlobalsCode.headings {globals : List (Reading GlobalEntry)}
    (h : GlobalsCode options package σ globals code τ) :
    SlotIR.headings code = linesOf (GlobalEntry.heading options package) globals := by
  induction h with
  | nil => rfl
  | cons _ _ ih => exact congrArg (List.cons _) ih

theorem FunctionsCode.headings {funcs : List (Reading FuncEntry)}
    (h : FunctionsCode options package σ funcs code τ) :
    SlotIR.headings code = linesOf (FuncEntry.heading options package) funcs := by
  induction h with
  | nil => rfl
  | @external _ _ _ fn _ _ _ body _ ih =>
    have here : fn.heading options package = .declare (options.symbol package fn.name.text) := by
      simp only [FuncEntry.heading, body]
    rw [linesOf_cons, here, ← ih]
    rfl
  | @defined _ _ _ _ fn _ _ _ _ _ body inner _ ih =>
    have here : fn.heading options package = .define (options.symbol package fn.name.text) := by
      simp only [FuncEntry.heading, body]
    rw [headings_append, headings_definitionLines _ _ inner.bodyLines, ih, linesOf_cons, here]
    rfl

end

/-- The line that introduces the entry point, if it is due. -/
def entryHeadings (due : Bool) : List Line := if due then [.define "@main"] else []

theorem headings_expandLines_entryLine (options : Options) (file : SourceFile) (due : Bool) :
    headings (expandLines (entryLine options file due)) = entryHeadings due := by
  cases due <;> rfl

/-- **What introduces the symbols of a module**, in order.  The entry point is due in the main
package only. -/
theorem ModuleCode.headings {options : Options} {file : SourceFile} {slots : List Slot}
    {lines : List Line} {n : Nat} (h : ModuleCode options file slots lines n) :
    ∃ due, (due = true → file.package.same options.mainPackage = true)
      ∧ SlotIR.headings (expandLines lines)
        = [.builtins] ++ file.headings options ++ entryHeadings due := by
  cases h with
  | @intro globals funcs due vars routines initials ρ τ n readable readable' globalVars functions
      initialises entry =>
    refine ⟨due, fun wanted => ?_, ?_⟩
    · by_cases main : file.package.same options.mainPackage = true
      · exact main
      · simp only [EntryDue, main, wanted] at entry
        cases entry
    · have separator : SlotIR.headings (globalsEnd globals) = [] := by cases globals <;> rfl
      rw [expandLines_module globalVars functions]
      simp only [headings_append, globalVars.headings, separator, functions.headings,
        headings_initialiserLines, headings_expandLines_entryLine, SourceFile.headings, readable,
        readable', readableEntries, List.append_assoc]
      rfl

/-- Symbols that are read off headings alone. -/
theorem flatMap_headings {symbolsOf : Line → List String}
    (others : ∀ line, line.isHeading = false → symbolsOf line = []) (lines : List Line) :
    (headings lines).flatMap symbolsOf = lines.flatMap symbolsOf := by
  induction lines with
  | nil => rfl
  | cons line rest ih =>
    by_cases heading : line.isHeading = true
    · rw [headings, List.filter_cons_of_pos heading, List.flatMap_cons, List.flatMap_cons, ← ih]
      rfl
    · rw [headings, List.filter_cons_of_neg heading, List.flatMap_cons,
        others line (eq_false_of_ne_true heading), List.nil_append, ← ih]
      rfl

theorem introduced_headings (lines : List Line) :
    introduced (headings lines) = introduced lines := by
  refine flatMap_headings (fun line other => ?_) lines
  cases line <;> first | rfl | cases other

/-- The symbols of names of a package. -/
def Options.symbols (options : Options) (package : String) (names : List Name) : List String :=
  names.map fun name => options.symbol package name.text

/-- The symbols of the entries that are kept are those of their names. -/
theorem flatMap_linesOf {α : Type} {options : Options} {package : String} {line : α → Line}
    {name : α → Name} {symbolsOf : Line → List String} {keep : Reading α → Bool}
    (each : ∀ a, symbolsOf (line a)
      = if keep (.ok a) then [options.symbol package (name a).text] else [])
    (entries : List (Reading α)) :
    (linesOf line entries).flatMap symbolsOf
      = options.symbols package (namesOf name (entries.filter keep)) := by
  induction entries with
  | nil => rfl
  | cons entry rest ih =>
    cases entry with
    | error fault =>
      -- kept or not, an unreadable entry has no name
      have skipped : namesOf name ((.error fault :: rest).filter keep)
          = namesOf name (rest.filter keep) := by
        by_cases kept : keep (.error fault) = true
        · rw [List.filter_cons_of_pos kept]
          rfl
        · rw [List.filter_cons_of_neg kept]
      rw [skipped, ← ih]
      rfl
    | ok a =>
      rw [linesOf_cons, List.flatMap_cons, each, ih]
      by_cases kept : keep (.ok a) = true
      · rw [if_pos kept, List.filter_cons_of_pos kept]
        rfl
      · rw [if_neg kept, List.filter_cons_of_neg kept]
        rfl

/-- If every line gives the symbol of its entry, all names are there. -/
theorem flatMap_linesOf_all {α : Type} {options : Options} {package : String} {line : α → Line}
    {name : α → Name} {symbolsOf : Line → List String}
    (each : ∀ a, symbolsOf (line a) = [options.symbol package (name a).text])
    (entries : List (Reading α)) :
    (linesOf line entries).flatMap symbolsOf = options.symbols package (namesOf name entries) := by
  have kept : (linesOf line entries).flatMap symbolsOf
      = options.symbols package (namesOf name (entries.filter fun _ => true)) :=
    flatMap_linesOf each entries
  rwa [List.filter_true] at kept

/-- The symbol of the entry point, if it is due. -/
def entrySymbols (due : Bool) : List String := if due then ["@main"] else []

@[simp] theorem introduced_append (c d : List Line) :
    introduced (c ++ d) = introduced c ++ introduced d :=
  List.flatMap_append

theorem introduced_globalHeadings (options : Options) (package : String)
    (globals : List (Reading GlobalEntry)) :
    introduced (linesOf (GlobalEntry.heading options package) globals)
      = options.symbols package (namesOf GlobalEntry.name globals) :=
  flatMap_linesOf_all (fun _ => rfl) globals

theorem introduced_funcHeadings (options : Options) (package : String)
    (funcs : List (Reading FuncEntry)) :
    introduced (linesOf (FuncEntry.heading options package) funcs)
      = options.symbols package (namesOf FuncEntry.name funcs) := by
  apply flatMap_linesOf_all
  intro fn
  unfold FuncEntry.heading
  split <;> rfl

theorem SourceFile.introduced_headings (options : Options) (file : SourceFile) :
    introduced (file.headings options)
      = options.symbols file.package.text (file.names ++ [.ofText "init"]) := by
  simp only [SourceFile.headings, introduced_append, introduced_globalHeadings,
    introduced_funcHeadings, SourceFile.names, Options.symbols, List.map_append]
  rfl

/-- The symbols that a module introduces, in order. -/
theorem ModuleCode.introduced {options : Options} {file : SourceFile} {slots : List Slot}
    {lines : List Line} {n : Nat} (h : ModuleCode options file slots lines n) :
    ∃ due, SlotIR.introduced (expandLines lines)
      = Builtins.symbols
        ++ options.symbols file.package.text (file.names ++ [.ofText "init"])
        ++ entrySymbols due := by
  obtain ⟨due, -, all⟩ := h.headings
  have entry : SlotIR.introduced (entryHeadings due) = entrySymbols due := by cases due <;> rfl
  refine ⟨due, ?_⟩
  rw [← introduced_headings, all, introduced_append, introduced_append, entry,
    file.introduced_headings]
  rfl

/-! ## §5. When no symbol is introduced twice. -/

/-- The names of an accepted file are told apart, and none is the initialiser's. -/
theorem ModuleCode.nodup_names {options : Options} {file : SourceFile} {slots : List Slot}
    {lines : List Line} {n : Nat} (h : ModuleCode options file slots lines n)
    (typed : file.typed = true) :
    (file.names.map Name.text).Nodup ∧ "init" ∉ file.names.map Name.text := by
  have texts := SourceFile.isText_of_mem_names typed
  cases h with
  | @intro globals funcs _ _ _ _ _ _ _ readable readable' globalVars functions _ _ =>
    have names : file.names = namesOf GlobalEntry.name globals ++ namesOf FuncEntry.name funcs := by
      rw [SourceFile.names, readable, readable']
      rfl
    have bound := globalVars.bindsAll.append functions.bindsAll
    rw [← names] at bound
    obtain ⟨keys, nodup, allowed⟩ := bound.keys texts
    -- the frame of the package is empty at first, so its keys are the names
    have distinct := nodup List.nodup_nil
    rw [keys] at distinct
    have twice : file.names.map (fun name => Key.text name.text)
        = (file.names.map Name.text).map Key.text := by
      rw [List.map_map]
      rfl
    have start : innerKeys (Layout.mk [Frame.empty, builtinFrame] 0 slots).scope = [] := rfl
    rw [start, List.nil_append, twice] at distinct
    refine ⟨List.Nodup.of_map _ distinct, fun member => ?_⟩
    obtain ⟨name, listed, same⟩ := List.mem_map.1 member
    exact allowed name listed same

/-- A name of the package has the symbol of a builtin function. -/
def SourceFile.clashes (options : Options) (file : SourceFile) : Prop :=
  options.symbolStem = "ugo" ∧ file.package.text = "builtin"
    ∧ ∃ name ∈ file.names, name.text ∈ Builtins.names

theorem Options.nodup_symbols {options : Options} {package : String} {names : List Name}
    (distinct : (names.map Name.text).Nodup) : (options.symbols package names).Nodup := by
  have shape : options.symbols package names
      = (names.map Name.text).map (options.symbol package) := by
    rw [List.map_map]
    rfl
  rw [shape]
  exact distinct.map fun _ _ => Options.symbol_inj

/-- The initialiser has no symbol of a builtin function. -/
theorem Options.symbols_append_init_disjoint_iff (options : Options) (file : SourceFile) :
    Builtins.symbols.Disjoint
        (options.symbols file.package.text (file.names ++ [.ofText "init"]))
      ↔ ¬ file.clashes options := by
  have init : "init" ∉ Builtins.names := by decide
  constructor
  · rintro apart ⟨stem, package, name, member, builtin⟩
    have symbol := (options.symbol_mem_builtins_iff file.package.text name.text).2
      ⟨stem, package, builtin⟩
    exact apart symbol (List.mem_map.2 ⟨name, List.mem_append_left _ member, rfl⟩)
  · intro apart symbol builtin listed
    obtain ⟨name, member, rfl⟩ := List.mem_map.1 listed
    obtain ⟨stem, package, named⟩ :=
      (options.symbol_mem_builtins_iff file.package.text name.text).1 builtin
    rcases List.mem_append.1 member with declared | last
    · exact apart ⟨stem, package, name, declared, named⟩
    · rw [List.mem_singleton.1 last] at named
      exact init named

theorem entrySymbols_disjoint (due : Bool) (options : Options) (package : String)
    (names : List Name) :
    (Builtins.symbols ++ options.symbols package names).Disjoint (entrySymbols due) := by
  have builtin : "@main" ∉ Builtins.symbols := by decide
  intro symbol before last
  cases due with
  | false => cases last
  | true =>
    rw [List.mem_singleton.1 last] at before
    rcases List.mem_append.1 before with header | named
    · exact builtin header
    · obtain ⟨name, -, same⟩ := List.mem_map.1 named
      exact options.symbol_ne_main package name.text same

/-- The symbols that a package declares are told apart, that of its initialiser included. -/
theorem ModuleCode.nodup_symbols {options : Options} {file : SourceFile} {slots : List Slot}
    {lines : List Line} {n : Nat} (h : ModuleCode options file slots lines n)
    (typed : file.typed = true) :
    (options.symbols file.package.text (file.names ++ [.ofText "init"])).Nodup := by
  obtain ⟨distinct, other⟩ := h.nodup_names typed
  refine Options.nodup_symbols ?_
  rw [List.map_append, List.nodup_append]
  refine ⟨distinct, by simp, fun a declared b last same => ?_⟩
  rw [same, List.mem_singleton.1 last] at declared
  exact other declared

/-- **The symbols of a module are told apart, unless a name of the package has the symbol of a
builtin function.** -/
theorem ModuleCode.nodup_introduced_iff {options : Options} {file : SourceFile} {slots : List Slot}
    {lines : List Line} {n : Nat} (h : ModuleCode options file slots lines n)
    (typed : file.typed = true) :
    (SlotIR.introduced (expandLines lines)).Nodup ↔ ¬ file.clashes options := by
  obtain ⟨due, all⟩ := h.introduced
  have builtins : Builtins.symbols.Nodup := by decide
  have entry : (entrySymbols due).Nodup := by cases due <;> decide
  rw [all, List.nodup_append', List.nodup_append', ← options.symbols_append_init_disjoint_iff]
  constructor
  · rintro ⟨⟨-, -, apart⟩, -⟩
    exact apart
  · intro apart
    exact ⟨⟨builtins, h.nodup_symbols typed, apart⟩, entry, entrySymbols_disjoint _ _ _ _⟩

/-- **No symbol is introduced twice in an emitted module, unless the package `builtin` declares the
name of a builtin function under the stem `ugo`.** -/
theorem generate_symbols_nodup_iff (options : Options) (file : SourceFile) {s t : State}
    {text : String} (typed : file.typed = true) (h : generate options file s = .ok text t) :
    text = moduleText (expandLines t.lines)
      ∧ ((introduced (expandLines t.lines)).Nodup ↔ ¬ file.clashes options) := by
  obtain ⟨shown, emitted⟩ := generate_sound h
  rw [moduleText_expandLines]
  exact ⟨shown, emitted.nodup_introduced_iff typed⟩

/-- A file whose symbols come close to that of a builtin function: the names meet in the package,
and two of them are the same up to their last part. -/
def nearBuiltin : SourceFile where
  pos := .offset 0
  package := .ofText "builtin"
  globals := .ok [.ok ⟨.offset 1, "GlobalDecl", .ofText "println_exit", .ok none⟩]
  funcs := .ok
    [.ok ⟨.offset 2, "FuncDecl", .ofText "print", .ok .external⟩,
     .ok ⟨.offset 3, "FuncDecl", .ofText "main", .ok (.stmts (.ok []))⟩]

theorem generate_symbols_nodup_nearBuiltin :
    nearBuiltin.typed = true
      ∧ ∃ text t, generate { mainPackage := .ofText "builtin" } nearBuiltin {} = .ok text t
        ∧ text = moduleText (expandLines t.lines)
        ∧ ((introduced (expandLines t.lines)).Nodup
            ↔ ¬ nearBuiltin.clashes { mainPackage := .ofText "builtin" }) := by
  have typed : nearBuiltin.typed = true := by decide
  have accepted : Lower.succeeds
      (generate { mainPackage := .ofText "builtin" } nearBuiltin {}) = true := by decide +kernel
  obtain ⟨text, t, ran⟩ := Lower.exists_of_succeeds accepted
  exact ⟨typed, text, t, ran, generate_symbols_nodup_iff _ nearBuiltin typed ran⟩

/-- A package that defines a function of its own with the symbol of a builtin one. -/
def builtinPackage : SourceFile where
  pos := .offset 0
  package := .ofText "builtin"
  globals := .ok []
  funcs := .ok [.ok ⟨.offset 1, "FuncDecl", .ofText "println", .ok (.stmts (.ok []))⟩]

/-- The header declares the symbol, and the package defines it again. -/
theorem builtinPackage_introduces_twice :
    builtinPackage.typed = true ∧ ∃ text t, generate {} builtinPackage {} = .ok text t
      ∧ ¬ (introduced (expandLines t.lines)).Nodup := by
  have twice : Lower.reaches (fun t => ¬ (introduced (expandLines t.lines)).Nodup)
      (generate {} builtinPackage {}) = true := by decide +kernel
  obtain ⟨text, t, ran, repeats⟩ := Lower.exists_of_reaches twice
  exact ⟨by decide, text, t, ran, of_decide_eq_true repeats⟩

end SlotIR
