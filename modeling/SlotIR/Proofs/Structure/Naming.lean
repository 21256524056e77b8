/-
  SlotIR.Proofs.Structure.Naming
  ──────────────────────────────
  **NO NAME DANGLES, AND NONE IS DEFINED TWICE.**

  In every function of an emitted module

    • each name with a percent sign is defined once: the three families
      of names look different, and inside a family the number in a name
      was drawn once
    • temporaries are defined before their uses, with the right type
    • the slots are reserved before everything else
    • whatever is read, written or called is one of these slots, or at a
      symbol that the module introduces

  (`generate_wellNamed`).  Positions must be offsets, as they are in typed
  files: a text in their place could make a slot look like another one.
-/
import SlotIR.Proofs.Structure.ControlFlow
import SlotIR.Proofs.Structure.Temporaries

namespace SlotIR

/-! ## §1. Well-named definitions. -/

/-- The names with a percent sign that a line defines. -/
def Line.names : Line → List String
  | .instr (.alloca slot) => [slot.text]
  | .instr i => (i.result?.map fun result => tempText result.1).toList
  | .label l => ["%" ++ l.text]
  | _ => []

/-- The names with a percent sign that lines define. -/
def definedNames (lines : List Line) : List String := lines.flatMap Line.names

/-- The slot that an instruction reserves. -/
def Instr.reserved? : Instr → Option Slot
  | .alloca slot => some slot
  | _ => none

/-- The slots that lines reserve. -/
def reserved (lines : List Line) : List Slot := (instrs lines).filterMap Instr.reserved?

/-- The names in a definition are used as they should be; `symbols` are those of its module. -/
structure WellNamed (symbols : List String) (d : Definition) : Prop where
  /-- Each name is defined once. -/
  defined_once : (definedNames d.body).Nodup
  /-- Temporaries are defined before their uses in the same block, with the type of the use. -/
  uses_defined : ∀ b ∈ blocks d.body, UsesDefined b.code
  /-- Branches go to labels of the definition. -/
  targets_defined : ∀ target ∈ targets (instrs d.body), target ∈ labels d.body
  /-- The slots are reserved before everything else. -/
  reserved_first : ∃ (slots : List Slot) (code : List Line),
    d.body = straight (slots.map .alloca) ++ code
      ∧ ∀ slot, Instr.alloca slot ∉ instrs code
  /-- What is read, written or called is a reserved slot, or at one of the symbols. -/
  places_known : KnownPlaces symbols (reserved d.body) (instrs d.body)

/-- The symbols that a line introduces. -/
def Line.introduces : Line → List String
  | .builtins => Builtins.functions.map (·.2)
  | .global symbol | .declare symbol | .define symbol => [symbol]
  | _ => []

/-- The symbols that lines introduce. -/
def introduced (lines : List Line) : List String := lines.flatMap Line.introduces

/-! ## §2. Three families of names. -/

/-- Labels of loops start with a word of their own. -/
def LoopTags (labels : List Label) : Prop := ∀ l ∈ labels, ∃ rest, l.tag = "for." ++ rest

theorem Code.loopTags {σ τ : Layout} {piece : Piece} {code : List Line}
    (h : Code σ piece code τ) : LoopTags (labels code) := by
  induction h with
  | varDecl => intro l member; simp at member
  | assign => intro l member; simp at member
  | block _ ih => exact ih
  | @loop _ _ _ _ pos _ _ _ _ _ _ _ _ _ _ _ _ _ ihInit ihBody ihPost =>
    intro l member
    simp only [loopLines, seam, labels_append, labels_instr, labels_blank, labels_label,
      labels_nil, labels_straight, List.mem_append, List.mem_cons, List.not_mem_nil, or_false,
      false_or] at member
    rcases member with rfl | h | rfl | rfl | h | h | rfl
    · exact ⟨"init.pos" ++ pos.text, by simp [loopLabels, ← String.append_assoc]⟩
    · exact ihInit l h
    · exact ⟨"cond.pos" ++ pos.text, by simp [loopLabels, ← String.append_assoc]⟩
    · exact ⟨"body.pos" ++ pos.text, by simp [loopLabels, ← String.append_assoc]⟩
    · exact ihBody l h
    · exact ihPost l h
    · exact ⟨"end.pos" ++ pos.text, by simp [loopLabels, ← String.append_assoc]⟩
  | expr => intro l member; simp at member
  | absent => intro l member; cases member
  | present _ ih => exact ih
  | nil => intro l member; cases member
  | cons _ _ ihFirst ihOthers =>
    intro l member
    rw [labels_append, List.mem_append] at member
    exact member.elim (ihFirst l) (ihOthers l)

theorem tempText_ne_slot (n : Nat) (slot : Slot) : tempText n ≠ slot.text := by
  intro h
  have lists := congrArg String.toList h
  simp [tempText, Slot.text, String.toList_append] at lists

theorem label_ne_slot {l : Label} (tag : ∃ rest, l.tag = "for." ++ rest) (slot : Slot) :
    "%" ++ l.text ≠ slot.text := by
  obtain ⟨rest, tag⟩ := tag
  intro h
  have lists := congrArg String.toList h
  simp [Label.text, tag, Slot.text, String.toList_append] at lists

theorem tempText_ne_label {l : Label} (tag : ∃ rest, l.tag = "for." ++ rest) (n : Nat) :
    tempText n ≠ "%" ++ l.text := by
  obtain ⟨rest, tag⟩ := tag
  intro h
  have lists := congrArg String.toList h
  simp [Label.text, tag, tempText, String.toList_append] at lists

/-! ## §3. Names are defined once. -/

@[simp] theorem definedNames_append (c d : List Line) :
    definedNames (c ++ d) = definedNames c ++ definedNames d :=
  List.flatMap_append

theorem names_of_isInner {i : Instr} (h : i.isInner = true) :
    (Line.instr i).names = (i.result?.map fun result => tempText result.1).toList := by
  cases i with
  | alloca => cases h
  | _ => rfl

/-- A name that code defines is a temporary or a label. -/
theorem mem_definedNames {code : List Line} (inner : Inner (instrs code)) {name : String}
    (member : name ∈ definedNames code) :
    (∃ n ∈ drawn code, name = tempText n) ∨ ∃ l ∈ labels code, name = "%" ++ l.text := by
  obtain ⟨line, here, defines⟩ := List.mem_flatMap.1 member
  cases line with
  | instr i =>
    have stands : i ∈ instrs code := List.mem_filterMap.2 ⟨_, here, rfl⟩
    rw [names_of_isInner (inner i stands), Option.mem_toList, Option.map_eq_some_iff] at defines
    obtain ⟨result, found, rfl⟩ := defines
    refine .inl ⟨result.1, List.mem_flatMap.2 ⟨_, here, ?_⟩, rfl⟩
    simp [Line.drawn, found]
  | label l =>
    rw [List.mem_singleton.1 defines]
    exact .inr ⟨l, List.mem_filterMap.2 ⟨_, here, rfl⟩, rfl⟩
  | _ => cases defines

/-- The number of a label is one of the drawn ones. -/
theorem number_mem_drawn {code : List Line} {l : Label} (member : l ∈ labels code) :
    l.number ∈ drawn code := by
  obtain ⟨line, here, same⟩ := List.mem_filterMap.1 member
  cases line with
  | label k =>
    cases same
    exact List.mem_flatMap.2 ⟨_, here, List.mem_singleton.2 rfl⟩
  | _ => cases same

theorem Inner.of_cons {line : Line} {rest : List Line} (h : Inner (instrs (line :: rest))) :
    Inner (instrs rest) := by
  intro i member
  obtain ⟨other, there, same⟩ := List.mem_filterMap.1 member
  exact h i (List.mem_filterMap.2 ⟨other, List.mem_cons_of_mem _ there, same⟩)

theorem LoopTags.of_cons {line : Line} {rest : List Line} (h : LoopTags (labels (line :: rest))) :
    LoopTags (labels rest) := by
  intro l member
  obtain ⟨other, there, same⟩ := List.mem_filterMap.1 member
  exact h l (List.mem_filterMap.2 ⟨other, List.mem_cons_of_mem _ there, same⟩)

/-- A line defines at most one name. -/
theorem nodup_names (line : Line) : line.names.Nodup := by
  cases line with
  | instr i => cases i <;> simp [Line.names, Instr.result?]
  | label l => simp [Line.names]
  | _ => exact List.nodup_nil

/-- What a line defines is not defined after it, if no number that it shows stands there. -/
theorem names_notMem {line : Line} {rest : List Line} (inner : Inner (instrs (line :: rest)))
    (tags : LoopTags (labels (line :: rest))) (absent : ∀ n ∈ line.drawn, n ∉ drawn rest) :
    ∀ name ∈ line.names, name ∉ definedNames rest := by
  intro name here there
  -- two names are equal only within one of the families, and there they show one number
  have found := mem_definedNames inner.of_cons there
  cases line with
  | instr i =>
    rw [names_of_isInner (inner i List.mem_cons_self), Option.mem_toList,
      Option.map_eq_some_iff] at here
    obtain ⟨result, defines, rfl⟩ := here
    have mine : result.1 ∈ (Line.instr i).drawn := by simp [Line.drawn, defines]
    rcases found with ⟨n, drawnLater, equal⟩ | ⟨l, labelLater, equal⟩
    · rw [tempText_inj equal] at mine
      exact absent n mine drawnLater
    · exact tempText_ne_label (tags.of_cons l labelLater) _ equal
  | label l =>
    obtain rfl := List.mem_singleton.1 here
    have tag := tags l List.mem_cons_self
    rcases found with ⟨n, -, equal⟩ | ⟨k, labelLater, equal⟩
    · exact tempText_ne_label tag n equal.symm
    · have numbers : l.number = k.number := by
        refine Label.number_eq (String.toList_inj.1 ?_)
        have lists := congrArg String.toList equal
        simpa only [String.toList_append, List.append_cancel_left_eq] using lists
      refine absent l.number (List.mem_singleton.2 rfl) ?_
      rw [numbers]
      exact number_mem_drawn labelLater
  | _ => cases here

/-- **The temporaries and labels of code are defined once**, if each number stands in it at most
once. -/
theorem nodup_definedNames {code : List Line} (inner : Inner (instrs code))
    (tags : LoopTags (labels code)) (once : ∀ i, (drawn code).count i ≤ 1) :
    (definedNames code).Nodup := by
  induction code with
  | nil => exact List.nodup_nil
  | cons line rest ih =>
    have counts : ∀ i, line.drawn.count i + (drawn rest).count i ≤ 1 := by
      intro i
      have all := once i
      rwa [drawn_cons, List.count_append] at all
    have later := ih inner.of_cons tags.of_cons fun i => by
      have both := counts i
      omega
    -- a number that the line shows is shown nowhere after it
    have absent : ∀ n ∈ line.drawn, n ∉ drawn rest := by
      intro n here there
      have first := List.count_pos_iff.2 here
      have second := List.count_pos_iff.2 there
      have both := counts n
      omega
    show (line.names ++ definedNames rest).Nodup
    rw [List.nodup_append]
    refine ⟨nodup_names line, later, ?_⟩
    intro a here b there same
    exact names_notMem inner tags absent a here (same ▸ there)

/-! ## §4. Bodies. -/

theorem definedNames_allocas (slots : List Slot) :
    definedNames (straight (slots.map .alloca)) = slots.map Slot.text := by
  induction slots with
  | nil => rfl
  | cons slot rest ih =>
    show [slot.text] ++ definedNames (straight (rest.map .alloca)) = _
    rw [ih]
    rfl

theorem reserved_allocas (slots : List Slot) :
    (slots.map Instr.alloca).filterMap Instr.reserved? = slots := by
  induction slots with
  | nil => rfl
  | cons slot rest ih =>
    show slot :: (rest.map Instr.alloca).filterMap Instr.reserved? = slot :: rest
    rw [ih]

theorem Inner.alloca_notMem {code : List Instr} (h : Inner code) (slot : Slot) :
    Instr.alloca slot ∉ code := by
  intro member
  cases h _ member

theorem definedNames_functionBody (slots : List Slot) (code : List Line) :
    definedNames (functionBody slots code) = slots.map Slot.text ++ definedNames code := by
  unfold functionBody
  rw [definedNames_append, definedNames_append, definedNames_allocas]
  exact List.append_nil _

theorem scoped_allocas (slots : List Slot) : Scoped [] (straight (slots.map .alloca)) := by
  induction slots with
  | nil => trivial
  | cons slot rest ih => exact ⟨fun _ member => (by cases member), ih⟩

theorem instrs_functionBody (slots : List Slot) (code : List Line) :
    instrs (functionBody slots code) = slots.map .alloca ++ instrs code ++ [.ret] := by
  unfold functionBody
  rw [instrs_append, instrs_append, instrs_straight]
  rfl

/-- A function reserves its slots and no others. -/
theorem Inner.reserved_functionBody {code : List Line} (h : Inner (instrs code))
    (slots : List Slot) : reserved (functionBody slots code) = slots := by
  have inside : (instrs code).filterMap Instr.reserved? = [] := by
    refine List.filterMap_eq_nil_iff.2 fun i member => ?_
    cases i with
    | alloca slot => exact absurd member (h.alloca_notMem slot)
    | _ => rfl
  unfold reserved
  rw [instrs_functionBody, List.filterMap_append, List.filterMap_append, reserved_allocas, inside]
  simp [Instr.reserved?]

theorem KnownPlaces.functionBody {symbols : List String} {slots : List Slot} {code : List Line}
    (h : KnownPlaces symbols slots (instrs code)) :
    KnownPlaces symbols slots (instrs (functionBody slots code)) := by
  have first : KnownPlaces symbols slots (slots.map Instr.alloca) := by
    intro i member place at_place
    obtain ⟨slot, -, rfl⟩ := List.mem_map.1 member
    cases at_place
  rw [instrs_functionBody]
  exact (first.append h).append (.cons_none rfl .nil)

/-- **The names that a function defines are told apart.** -/
theorem Code.nodup_definedNames {σ τ : Layout} {piece : Piece} {code : List Line}
    (h : Code σ piece code τ) (empty : σ.slots = []) (typed : piece.typed = true) :
    (definedNames (functionBody τ.slots code)).Nodup := by
  have distinct := h.distinct (distinct_of_nil empty) typed
  obtain ⟨new, -, draws⟩ := h.draws
  have once : ∀ i, (drawn code).count i ≤ 1 := by
    intro i
    have all := draws.count_le_one i
    rw [List.count_append] at all
    omega
  rw [definedNames_functionBody, List.nodup_append]
  refine ⟨distinct.nodup, SlotIR.nodup_definedNames h.inner h.loopTags once, ?_⟩
  -- slots are named in another way than temporaries and labels
  intro a slotName b codeName same
  subst same
  obtain ⟨slot, -, rfl⟩ := List.mem_map.1 slotName
  rcases mem_definedNames h.inner codeName with ⟨n, -, equal⟩ | ⟨l, member, equal⟩
  · exact tempText_ne_slot n slot equal.symm
  · exact label_ne_slot (h.loopTags l member) slot equal.symm

/-- **The body of a function is well named.** -/
theorem Code.wellNamed {symbols : List String} {symbol : String} {σ τ : Layout} {piece : Piece}
    {code : List Line} (h : Code σ piece code τ) (empty : σ.slots = [])
    (typed : piece.typed = true) (known : KnownScope symbols σ) :
    WellNamed symbols ⟨symbol, functionBody τ.slots code⟩ where
  defined_once := h.nodup_definedNames empty typed
  uses_defined := by
    have last : Scoped [] [.instr .ret] := ⟨fun _ member => (by cases member), trivial⟩
    exact usesDefined_blocks (((scoped_allocas τ.slots).append h.scoped).append last)
  targets_defined := by
    have composed := h.composed τ.slots
    intro target member
    unfold functionBody at member ⊢
    rw [instrs_append, targets_append, List.mem_append] at member
    rw [labels_append, List.mem_append]
    rcases member with inside | atEnd
    · exact .inl (composed.targets_own target inside)
    · cases atEnd
  reserved_first := by
    refine ⟨τ.slots, code ++ [.instr .ret], by simp [functionBody], fun slot => ?_⟩
    rw [instrs_append]
    exact (h.inner.alloca_notMem slot).imp (by simp)
  places_known := by
    obtain ⟨-, places⟩ := h.known known
    show KnownPlaces symbols (reserved (functionBody τ.slots code))
      (instrs (functionBody τ.slots code))
    rw [h.inner.reserved_functionBody]
    exact places.functionBody

theorem InitialsCode.known {symbols : List String} {σ : Layout} {n m : Nat}
    {globals : List (Reading GlobalEntry)} {code : List Instr}
    (h : InitialsCode σ.scope n globals code m) (known : KnownScope symbols σ) :
    KnownPlaces symbols σ.slots code := by
  induction h with
  | nil => exact .nil
  | cons _ code means _ ih => exact (code.known known).append (.cons_some rfl (means.known known) ih)

/-- Straight code without slots, and a return after it, is well named. -/
theorem wellNamed_straight {symbols : List String} {symbol : String} {code : List Instr}
    (inner : ∀ i ∈ code, i.isInner = true ∨ ∃ callee, i = .invoke callee)
    (goes : targets code = []) (once : (definedNames (straight code)).Nodup)
    (ordered : Scoped [] (straight code)) (known : KnownPlaces symbols [] code) :
    WellNamed symbols ⟨symbol, straight code ++ [.instr .ret]⟩ where
  defined_once := by
    show (definedNames (straight code ++ [.instr .ret])).Nodup
    rw [definedNames_append]
    simpa [definedNames, Line.names, Instr.result?] using once
  uses_defined := usesDefined_blocks (ordered.append ⟨fun _ member => (by cases member), trivial⟩)
  targets_defined := by
    intro target member
    rw [instrs_append, instrs_straight, targets_append, goes] at member
    cases member
  reserved_first := by
    refine ⟨[], straight code ++ [.instr .ret], rfl, fun slot => ?_⟩
    rw [instrs_append, instrs_straight]
    intro member
    rcases List.mem_append.1 member with inside | last
    · rcases inner _ inside with stands | ⟨callee, same⟩
      · cases stands
      · cases same
    · simp at last
  places_known := by
    intro i member place at_place
    rw [instrs_append, instrs_straight] at member
    rcases List.mem_append.1 member with inside | last
    · exact (known i inside place at_place).mono fun _ none => by cases none
    · rw [show i = .ret by simpa using last] at at_place
      cases at_place

/-! ## §5. Modules. -/

/-- All that is bound is at one of the symbols. -/
def KnownSymbols (symbols : List String) (scope : Chain Key Storage) : Prop :=
  ∀ place ∈ Chain.values scope, Known symbols [] place

theorem Binds.knownSymbols {symbols : List String} {σ τ : Layout} {name : Name} {symbol : String}
    (h : Binds σ name symbol τ) (known : KnownSymbols symbols σ.scope)
    (member : symbol ∈ symbols) : KnownSymbols symbols τ.scope := by
  cases h with
  | intro =>
    intro place bound
    rcases Chain.values_declare bound with old | rfl
    · exact known place old
    · exact member

theorem GlobalsCode.knownSymbols {symbols : List String} {options : Options} {package : String}
    {σ τ : Layout} {globals : List (Reading GlobalEntry)} {code : List Line}
    (h : GlobalsCode options package σ globals code τ) (known : KnownSymbols symbols σ.scope)
    (subset : ∀ symbol ∈ introduced code, symbol ∈ symbols) : KnownSymbols symbols τ.scope := by
  induction h with
  | nil => exact known
  | cons binds _ ih =>
    refine ih (binds.knownSymbols known (subset _ ?_)) fun symbol member => subset symbol ?_
    · exact List.mem_append_left _ (List.mem_singleton.2 rfl)
    · exact List.mem_append_right _ member

/-- The functions of a list are typed. -/
def typedFuncs (funcs : List (Reading FuncEntry)) : Bool := funcs.all (holdsOf FuncEntry.typed)

theorem typedFuncs_cons {fn : FuncEntry} {rest : List (Reading FuncEntry)}
    (typed : typedFuncs (.ok fn :: rest) = true) : fn.typed = true ∧ typedFuncs rest = true := by
  simpa [typedFuncs, holdsOf] using typed

theorem FuncEntry.typed_items {fn : FuncEntry} {items : List Stmt} (typed : fn.typed = true)
    (body : fn.body = .ok (.stmts (.ok items))) : (Piece.sequence items).typed = true := by
  simp only [FuncEntry.typed, body, holdsOf, Body.typed, typedItems, Bool.and_eq_true] at typed
  exact typed.2

theorem introduced_definitionLines (symbol : String) (slots : List Slot) (code rest : List Line) :
    symbol ∈ introduced (definitionLines symbol slots code ++ rest)
      ∧ ∀ other ∈ introduced rest, other ∈ introduced (definitionLines symbol slots code ++ rest) := by
  constructor
  · exact List.mem_append_left _ (List.mem_singleton.2 rfl)
  · intro other member
    unfold introduced at member ⊢
    rw [List.flatMap_append]
    exact List.mem_append_right _ member

/-- **The functions of a module are well named**, and so are the scopes after them. -/
theorem FunctionsCode.wellNamed {symbols : List String} {options : Options} {package : String}
    {σ τ : Layout} {funcs : List (Reading FuncEntry)} {code : List Line}
    (h : FunctionsCode options package σ funcs code τ) (typed : typedFuncs funcs = true)
    (known : KnownSymbols symbols σ.scope)
    (subset : ∀ symbol ∈ introduced code, symbol ∈ symbols) :
    (∀ d ∈ definitions code, WellNamed symbols d) ∧ KnownSymbols symbols τ.scope := by
  induction h with
  | nil => exact ⟨fun d member => (by cases member), known⟩
  | external binds _ _ ih =>
    refine ih (typedFuncs_cons typed).2 (binds.knownSymbols known (subset _ ?_))
      fun symbol member => subset symbol ?_
    · exact List.mem_append_left _ (List.mem_singleton.2 rfl)
    · exact List.mem_append_right _ member
  | @defined _ ρ ω _ fn _ items code c binds body inner _ ih =>
    obtain ⟨own, later⟩ := introduced_definitionLines
      (options.symbol package fn.name.text) ω.slots code c
    have bound := binds.knownSymbols known (subset _ own)
    have after : ω.leave.scope = ρ.scope := inner.tail_scope
    rw [definitions_definitionLines inner.bodyLines]
    obtain ⟨others, afterAll⟩ := ih (typedFuncs_cons typed).2 (by rw [after]; exact bound)
      fun symbol member => subset symbol (later symbol member)
    refine ⟨fun d member => ?_, afterAll⟩
    rcases List.mem_cons.1 member with rfl | rest
    · exact inner.wellNamed rfl (FuncEntry.typed_items (typedFuncs_cons typed).1 body) bound
    · exact others d rest

/-- Every function of a module introduces its symbol. -/
theorem FunctionsCode.introduces {options : Options} {package : String} {σ τ : Layout}
    {funcs : List (Reading FuncEntry)} {code : List Line}
    (h : FunctionsCode options package σ funcs code τ) {fn : FuncEntry}
    (member : .ok fn ∈ funcs) : options.symbol package fn.name.text ∈ introduced code := by
  induction h with
  | nil => cases member
  | external _ _ _ ih =>
    rcases List.mem_cons.1 member with same | later
    · cases same
      exact List.mem_append_left _ (List.mem_singleton.2 rfl)
    · exact List.mem_append_right _ (ih later)
  | @defined _ _ ω _ fn' _ _ code c _ _ _ _ ih =>
    obtain ⟨own, others⟩ := introduced_definitionLines
      (options.symbol package fn'.name.text) ω.slots code c
    rcases List.mem_cons.1 member with same | later
    · cases same
      exact own
    · exact others _ (ih later)

/-- If there is a function `main` among typed ones, one of them has this name. -/
theorem exists_of_hasMain {funcs : List (Reading FuncEntry)} (typed : typedFuncs funcs = true)
    (h : hasMain funcs = .ok true) : ∃ fn, .ok fn ∈ funcs ∧ fn.name.text = "main" := by
  induction funcs with
  | nil => cases h
  | cons entry rest ih =>
    cases entry with
    | error fault => cases h
    | ok fn =>
      obtain ⟨typedHere, typedRest⟩ := typedFuncs_cons typed
      unfold hasMain at h
      by_cases main : fn.name.same (.ofText "main") = true
      · refine ⟨fn, List.mem_cons_self, ?_⟩
        simp only [FuncEntry.typed, Bool.and_eq_true] at typedHere
        rw [Name.eq_ofText typedHere.1.2, Name.same_ofText, decide_eq_true_eq] at main
        exact main
      · have later : hasMain rest = .ok true := by
          simpa [bind, Except.bind, main] using h
        obtain ⟨fn', member, named⟩ := ih typedRest later
        exact ⟨fn', List.mem_cons_of_mem _ member, named⟩

/-- Lines introduce what some of them introduce. -/
theorem introduced_subset {part whole : List Line} (subset : ∀ line ∈ part, line ∈ whole) :
    ∀ symbol ∈ introduced part, symbol ∈ introduced whole := by
  intro symbol member
  obtain ⟨line, here, introduces⟩ := List.mem_flatMap.1 member
  exact List.mem_flatMap.2 ⟨line, subset line here, introduces⟩

theorem EntryDue.hasMain_eq {options : Options} {file : SourceFile}
    {funcs : List (Reading FuncEntry)} (h : EntryDue options file funcs true) :
    hasMain funcs = .ok true := by
  unfold EntryDue at h
  split at h
  · exact h
  · cases h

/-- The names that the initialiser defines are told apart. -/
theorem InitialsCode.nodup_definedNames {scope : Chain Key Storage} {n m : Nat}
    {globals : List (Reading GlobalEntry)} {code : List Instr}
    (h : InitialsCode scope n globals code m) : (definedNames (straight code)).Nodup := by
  have inner : Inner (instrs (straight code)) := by
    rw [instrs_straight]
    exact h.plain.inner
  have tags : LoopTags (labels (straight code)) := by
    rw [labels_straight]
    intro l member
    cases member
  exact SlotIR.nodup_definedNames inner tags h.draws.count_le_one

theorem InitialsCode.wellNamed {symbols : List String} {symbol : String} {scope : Chain Key Storage}
    {n m : Nat} {globals : List (Reading GlobalEntry)} {code : List Instr}
    (h : InitialsCode scope n globals code m) (known : KnownSymbols symbols scope) :
    WellNamed symbols ⟨symbol, initialiserBody code⟩ := by
  have bare : InitialsCode (Layout.mk scope n []).scope n globals code m := h
  have places : KnownPlaces symbols [] code := bare.known known
  refine wellNamed_straight (fun i member => ?_) h.plain.targets h.nodup_definedNames h.scoped
    places
  exact .inl (Instr.isInner_of_isPlain (h.plain i member))

theorem entryDefinition_wellNamed {symbols : List String} {init main : String}
    (first : init ∈ symbols) (second : main ∈ symbols) :
    WellNamed symbols (entryDefinition init main) := by
  have calls : ∀ i ∈ [Instr.invoke init, .invoke main],
      i.isInner = true ∨ ∃ callee, i = .invoke callee := by
    intro i member
    simp only [List.mem_cons, List.not_mem_nil, or_false] at member
    rcases member with rfl | rfl
    · exact .inr ⟨init, rfl⟩
    · exact .inr ⟨main, rfl⟩
  have places : KnownPlaces symbols [] [Instr.invoke init, .invoke main] :=
    .cons_some rfl first (.cons_some rfl second .nil)
  have ordered : Scoped [] (straight [.invoke init, .invoke main]) :=
    ⟨fun _ member => (by cases member), fun _ member => (by cases member), trivial⟩
  exact wellNamed_straight calls rfl List.nodup_nil ordered places

/-- The builtin functions are introduced by the header. -/
theorem knownSymbols_builtins {symbols : List String}
    (subset : ∀ symbol ∈ Line.builtins.introduces, symbol ∈ symbols) :
    KnownSymbols symbols [Frame.empty, builtinFrame] := by
  have bound : Chain.values [Frame.empty, builtinFrame]
      = Line.builtins.introduces.map Storage.symbol := by decide +kernel
  intro place member
  rw [bound] at member
  obtain ⟨symbol, inside, rfl⟩ := List.mem_map.1 member
  exact subset symbol inside

/-- The functions of a typed file are typed. -/
theorem SourceFile.typed_funcs {file : SourceFile} {funcs : List (Reading FuncEntry)}
    (typed : file.typed = true) (readable : file.funcs = .ok funcs) : typedFuncs funcs = true := by
  simp only [SourceFile.typed, readable, holdsOf, Bool.and_eq_true] at typed
  exact typed.2

theorem ModuleCode.wellNamed {options : Options} {file : SourceFile} {slots : List Slot}
    {lines : List Line} {n : Nat} (h : ModuleCode options file slots lines n)
    (typed : file.typed = true) :
    ∀ d ∈ definitions (expandLines lines), WellNamed (introduced (expandLines lines)) d := by
  cases h with
  | @intro globals funcs due vars routines initials ρ τ n _ readable globalVars functions initialises
      entry =>
    have typedFns := SourceFile.typed_funcs typed readable
    rw [expandLines_module globalVars functions, definitions_module globalVars functions,
      definitions_expandLines_entryLine]
    -- all lines, as the symbols may be introduced anywhere among them
    generalize whole : ([.package file.package.text, .builtins, .blank] ++ vars
      ++ globalsEnd globals ++ routines
      ++ initialiserLines (options.symbol file.package.text "init") initials
      ++ expandLines (entryLine options file due) : List Line) = all
    have varLines : ∀ line ∈ vars, line ∈ all := by
      intro line member
      simp [← whole, member]
    have routineLines : ∀ line ∈ routines, line ∈ all := by
      intro line member
      simp [← whole, member]
    have headerLine : Line.builtins ∈ all := by simp [← whole]
    have initLine : Line.define (options.symbol file.package.text "init") ∈ all := by
      simp [← whole, initialiserLines]
    have builtins : KnownSymbols (introduced all) [Frame.empty, builtinFrame] :=
      knownSymbols_builtins fun symbol member => List.mem_flatMap.2 ⟨_, headerLine, member⟩
    have afterVars := globalVars.knownSymbols builtins (introduced_subset varLines)
    obtain ⟨routinesNamed, afterAll⟩ :=
      functions.wellNamed typedFns afterVars (introduced_subset routineLines)
    intro d member
    rcases List.mem_append.1 member with func | others
    · exact routinesNamed d func
    · rcases List.mem_cons.1 others with rfl | atEnd
      · exact initialises.wellNamed afterAll
      -- the entry point calls the initialiser and `main`, which is among the functions
      · cases due with
        | false => cases atEnd
        | true =>
          rw [List.mem_singleton.1 atEnd]
          refine entryDefinition_wellNamed ?_ ?_
          · exact List.mem_flatMap.2 ⟨_, initLine, List.mem_singleton.2 rfl⟩
          · obtain ⟨fn, listed, main⟩ := exists_of_hasMain typedFns entry.hasMain_eq
            have own := functions.introduces listed
            rw [main] at own
            exact introduced_subset routineLines _ own

/-- Every instruction of a module stands in a definition. -/
theorem ModuleCode.instr_mem {options : Options} {file : SourceFile} {slots : List Slot}
    {lines : List Line} {n : Nat} (h : ModuleCode options file slots lines n) :
    ∀ i ∈ instrs (expandLines lines),
      ∃ d ∈ definitions (expandLines lines), i ∈ instrs d.body := by
  cases h with
  | @intro globals funcs due vars routines initials ρ τ n _ _ globalVars functions initialises _ =>
    rw [expandLines_module globalVars functions, definitions_module globalVars functions,
      definitions_expandLines_entryLine]
    have header : instrs [.package file.package.text, .builtins, .blank] = [] := rfl
    have separator : instrs (globalsEnd globals) = [] := by cases globals <;> rfl
    have initialiser : instrs (initialiserLines (options.symbol file.package.text "init") initials)
        = instrs (initialiserBody initials) := by
      unfold initialiserLines initialiserBody
      rw [instrs_append, instrs_append]
      rfl
    simp only [instrs_append, header, globalVars.instrs_eq, separator, initialiser,
      List.nil_append, List.mem_append]
    rintro i ((func | init) | entry)
    · obtain ⟨d, member, inside⟩ := functions.instr_mem i func
      exact ⟨d, .inl member, inside⟩
    · exact ⟨_, .inr List.mem_cons_self, init⟩
    · cases due with
      | false => cases entry
      | true => exact ⟨_, .inr (List.mem_cons_of_mem _ (List.mem_singleton.2 rfl)), entry⟩

/-- **No name in an emitted module dangles, and none is defined twice.** -/
theorem generate_wellNamed (options : Options) (file : SourceFile) {s t : State} {text : String}
    (typed : file.typed = true) (h : generate options file s = .ok text t) :
    text = moduleText (expandLines t.lines)
      ∧ (∀ i ∈ instrs (expandLines t.lines),
          ∃ d ∈ definitions (expandLines t.lines), i ∈ instrs d.body)
      ∧ ∀ d ∈ definitions (expandLines t.lines),
          WellNamed (introduced (expandLines t.lines)) d := by
  obtain ⟨shown, emitted⟩ := generate_sound h
  rw [moduleText_expandLines]
  exact ⟨shown, emitted.instr_mem, emitted.wellNamed typed⟩

/-- A file in which nodes share a position, so that slots need a number, and a function `main` calls
a function that another module defines. -/
def sharedPositions : SourceFile where
  pos := .offset 0
  package := .ofText "main"
  globals := .ok [.ok ⟨.offset 0, "GlobalDecl", .ofText "g", .ok none⟩]
  funcs := .ok
    [.ok ⟨.offset 0, "FuncDecl", .ofText "outside", .ok .external⟩,
     .ok ⟨.offset 0, "FuncDecl", .ofText "main", .ok (.stmts (.ok
      [.varDecl (.offset 0) (.ofText "x") (some (.ident ⟨.offset 0, .ofText "g"⟩)),
       .loop (.offset 0)
        (.block (.offset 0) (.ok
          [.varDecl (.offset 0) (.ofText "x") none,
           .exprStmt (.offset 0) (.call (.offset 0) (.ok ⟨.offset 0, .ofText "outside"⟩)
             (.ok [.ident ⟨.offset 0, .ofText "x"⟩]))]))
        (some (.varDecl (.offset 0) (.ofText "x") none))
        (some (.binary (.offset 0) (.known (.compare .lt)) (.ident ⟨.offset 0, .ofText "x"⟩)
          (.number (.offset 0) (.ok 3))))
        none]))⟩]

theorem generate_wellNamed_sharedPositions :
    sharedPositions.typed = true ∧ ∃ text t, generate {} sharedPositions {} = .ok text t
      ∧ text = moduleText (expandLines t.lines)
      ∧ (∀ i ∈ instrs (expandLines t.lines),
          ∃ d ∈ definitions (expandLines t.lines), i ∈ instrs d.body)
      ∧ ∀ d ∈ definitions (expandLines t.lines),
          WellNamed (introduced (expandLines t.lines)) d := by
  have typed : sharedPositions.typed = true := by decide
  have accepted : Lower.succeeds (generate {} sharedPositions {}) = true := by decide +kernel
  obtain ⟨text, t, ran⟩ := Lower.exists_of_succeeds accepted
  exact ⟨typed, text, t, ran, generate_wellNamed {} sharedPositions typed ran⟩

end SlotIR
