/-
  SlotIR.Proofs.Positions.Invariance
  ──────────────────────────────────
  **POSITIONS AFFECT NOTHING BUT NAMES.**

  Of two files that differ only in positions either both are refused, with
  the same fault, or both are lowered, and the modules correspond line by
  line (`Corresponds`):

      outside of functions   the lines are the same
      inside of a function   the lines are the same up to a bijection of
                             the names of that function

  Each file is compared with the one without positions.  Since being alike
  goes in both directions and over a third module, so are the two files
  with each other.  Main result: `generate_positions`.
-/
import Mathlib.Data.List.Nodup
import SlotIR.Proofs.Positions.Parallel
import SlotIR.Proofs.Checking.Outcome

namespace SlotIR

/-! ## §1. Modules that correspond. -/

/-- Outside of functions the lines are the same; functions follow one another with the same symbols,
and their bodies are related. -/
inductive Corresponds (S : List Line → List Line → Prop) : List Line → List Line → Prop
  | nil : Corresponds S [] []
  | outside {line : Line} {rest rest' : List Line} (opens : ∀ symbol, line ≠ .define symbol)
      (others : Corresponds S rest rest') : Corresponds S (line :: rest) (line :: rest')
  | function {symbol : String} {body body' rest rest' : List Line} (inside : BodyLines body)
      (inside' : BodyLines body') (same : S body body') (others : Corresponds S rest rest') :
      Corresponds S (.define symbol :: (body ++ .close :: rest))
        (.define symbol :: (body' ++ .close :: rest'))

/-- A body ends where its function is closed. -/
theorem body_inj {body body' rest rest' : List Line} (inside : BodyLines body)
    (inside' : BodyLines body') (h : body ++ .close :: rest = body' ++ .close :: rest') :
    body = body' ∧ rest = rest' := by
  have same : body = body' := by
    rw [← takeWhile_body inside rest, h, takeWhile_body inside']
  subst same
  exact ⟨rfl, by simpa using h⟩

section

variable {S T U : List Line → List Line → Prop} {c c' d d' : List Line}

theorem Corresponds.mono (h : Corresponds S c c')
    (weaker : ∀ body body', S body body' → T body body') : Corresponds T c c' := by
  induction h with
  | nil => exact .nil
  | outside opens _ ih => exact .outside opens ih
  | function inside inside' same _ ih => exact .function inside inside' (weaker _ _ same) ih

theorem Corresponds.append (h : Corresponds S c c') (h' : Corresponds S d d') :
    Corresponds S (c ++ d) (c' ++ d') := by
  induction h with
  | nil => exact h'
  | outside opens _ ih => exact .outside opens ih
  | function inside inside' same _ ih =>
    simp only [List.cons_append, List.append_assoc]
    exact .function inside inside' same ih

theorem Corresponds.symm (h : Corresponds S c c')
    (turn : ∀ body body', S body body' → T body' body) : Corresponds T c' c := by
  induction h with
  | nil => exact .nil
  | outside opens _ ih => exact .outside opens ih
  | function inside inside' same _ ih => exact .function inside' inside (turn _ _ same) ih

theorem Corresponds.trans {e : List Line} (h : Corresponds S c d) (h' : Corresponds T d e)
    (compose : ∀ x y z, S x y → T y z → U x z) : Corresponds U c e := by
  induction h generalizing e with
  | nil =>
    cases h'
    exact .nil
  | outside opens _ ih =>
    cases h' with
    | outside _ others' => exact .outside opens (ih others')
    | function => exact absurd rfl (opens _)
  | @function symbol body body' rest rest' inside inside' same _ ih =>
    generalize lines : Line.define symbol :: (body' ++ .close :: rest') = middle at h'
    cases h' with
    | nil => cases lines
    | outside opens =>
      injection lines with first
      exact absurd first.symm (opens symbol)
    | function inside₂ inside₃ same' others' =>
      injection lines with first later
      cases first
      obtain ⟨rfl, rfl⟩ := body_inj inside' inside₂ later
      exact .function inside inside₃ (compose _ _ _ same same') (ih others')

theorem Corresponds.length_eq (h : Corresponds S c c')
    (lengths : ∀ body body', S body body' → body.length = body'.length) : c.length = c'.length := by
  induction h with
  | nil => rfl
  | outside _ _ ih => simp [ih]
  | function _ _ same _ ih => simp [ih, lengths _ _ same]

end

/-! ## §2. Bodies. -/

/-- Names that are listed once on both sides correspond one to one. -/
theorem Parallel.alikeBodies {table : NameTable} {body body' : List Line}
    (h : Parallel [] table body body') (nodup : (definedNames body).Nodup)
    (nodup' : (definedNames body').Nodup) : AlikeBodies body body' := by
  refine ⟨fun a b => (a, b) ∈ table, fun a b a' b' first second => ⟨?_, ?_⟩, ?_⟩
  · rintro rfl
    rw [← h.names] at nodup
    exact congrArg Prod.snd (List.inj_on_of_nodup_map nodup first second rfl)
  · rintro rfl
    rw [← h.names'] at nodup'
    exact congrArg Prod.fst (List.inj_on_of_nodup_map nodup' first second rfl)
  · exact h.alike _ (fun _ member => member) holds_nil

/-- The reservations of paired slots. -/
theorem Parallel.allocas {table : NameTable} {slots slots' : List Slot}
    (texts : table.map Prod.fst = slots.map Slot.text)
    (texts' : table.map Prod.snd = slots'.map Slot.text) :
    Parallel [] table (straight (slots.map .alloca)) (straight (slots'.map .alloca)) where
  names := by rw [definedNames_allocas, texts]
  names' := by rw [definedNames_allocas, texts']
  alike := by
    intro R own _
    induction table generalizing slots slots' with
    | nil =>
      obtain rfl : slots = [] := List.map_eq_nil_iff.1 texts.symm
      obtain rfl : slots' = [] := List.map_eq_nil_iff.1 texts'.symm
      exact .nil
    | cons entry rest ih =>
      obtain ⟨slot, more, rfl, same, others⟩ := List.map_eq_cons_iff.1 texts.symm
      obtain ⟨slot', more', rfl, same', others'⟩ := List.map_eq_cons_iff.1 texts'.symm
      rw [holds_cons, ← same, ← same'] at own
      exact .cons (.alloca own.1) (ih others.symm others'.symm own.2)

theorem Parallel.ret {slots : NameTable} : Parallel slots [] [.instr .ret] [.instr .ret] :=
  .quiet rfl rfl fun _ _ => .cons (.plain rfl) .nil

/-- **The body of a function is alike with and without positions.** -/
theorem Code.alikeBodies {σ σ' τ τ' : Layout} {piece : Piece} {code code' : List Line}
    (h : Code σ piece code τ) (h' : Code σ' piece.unplaced code' τ') (empty : σ.slots = [])
    (empty' : σ'.slots = []) (typed : piece.typed = true) (typed' : piece.unplaced.typed = true)
    (related : Chain.Related (SamePlace []) σ.scope σ'.scope) :
    AlikeBodies (functionBody τ.slots code) (functionBody τ'.slots code') := by
  have aligned : Aligned [] σ σ' := ⟨by simp [empty], by simp [empty'], related⟩
  obtain ⟨new, table, after, parallel⟩ := h.parallel h' aligned
  have body := ((Parallel.allocas after.texts after.texts').snoc parallel).append Parallel.ret
  exact body.alikeBodies (h.nodup_definedNames empty typed) (h'.nodup_definedNames empty' typed')

/-! ## §3. Declarations. -/

section

variable {options : Options} {package : String} {σ σ' τ τ' : Layout}

/-- A name of a package is bound on both sides. -/
theorem Binds.related {name : Name} {symbol : String} (h : Binds σ name symbol τ)
    (h' : Binds σ' name symbol τ') (related : Chain.Related (SamePlace []) σ.scope σ'.scope) :
    Chain.Related (SamePlace []) τ.scope τ'.scope := by
  cases h with
  | @intro key _ _ keyed =>
    cases h' with
    | @intro key' _ _ keyed' =>
      obtain rfl : key = key' := by simpa [keyed] using keyed'
      exact related.declare key (.symbol symbol)

theorem GlobalsCode.corresponds {globals : List (Reading GlobalEntry)} {code code' : List Line}
    (h : GlobalsCode options package σ globals code τ)
    (h' : GlobalsCode options package σ' (unplacedGlobals globals) code' τ')
    (related : Chain.Related (SamePlace []) σ.scope σ'.scope) :
    Corresponds AlikeBodies code code' ∧ Chain.Related (SamePlace []) τ.scope τ'.scope := by
  induction h generalizing σ' code' with
  | nil =>
    cases h' with
    | nil => exact ⟨.nil, related⟩
  | cons binds _ ih =>
    cases h' with
    | cons binds' others' =>
      obtain ⟨later, after⟩ := ih others' (binds.related binds' related)
      exact ⟨.outside (by simp) later, after⟩

/-- **Functions correspond to those without positions.** -/
theorem FunctionsCode.corresponds {funcs : List (Reading FuncEntry)} {code code' : List Line}
    (h : FunctionsCode options package σ funcs code τ)
    (h' : FunctionsCode options package σ' (unplacedFuncs funcs) code' τ')
    (typed : typedFuncs funcs = true) (typed' : typedFuncs (unplacedFuncs funcs) = true)
    (related : Chain.Related (SamePlace []) σ.scope σ'.scope) :
    Corresponds AlikeBodies code code' ∧ Chain.Related (SamePlace []) τ.scope τ'.scope := by
  induction h generalizing σ' code' with
  | nil =>
    cases h' with
    | nil => exact ⟨.nil, related⟩
  | external binds body _ ih =>
    cases h' with
    | external binds' _ others' =>
      obtain ⟨later, after⟩ := ih others' (typedFuncs_cons typed).2 (typedFuncs_cons typed').2
        (binds.related binds' related)
      exact ⟨.outside (by simp) (.outside (by simp) later), after⟩
    | defined _ body' =>
      simp [FuncEntry.unplaced, body, Except.map, Body.unplaced] at body'
  | @defined σ ρ ω τ fn rest items code c binds body inner _ ih =>
    cases h' with
    | external _ body' => simp [FuncEntry.unplaced, body, Except.map, Body.unplaced] at body'
    | @defined _ ρ' ω' _ _ _ items' code' c' binds' body' inner' others' =>
      obtain rfl : items' = unplacedStmts items := by
        simpa [FuncEntry.unplaced, body, Except.map, Body.unplaced, unplacedItems] using body'.symm
      have bound := binds.related binds' related
      -- a body leaves the frames of the package as they were
      have frames : ω.leave.scope = ρ.scope := inner.tail_scope
      have frames' : ω'.leave.scope = ρ'.scope := inner'.tail_scope
      obtain ⟨typedFn, typedRest⟩ := typedFuncs_cons typed
      obtain ⟨typedFn', typedRest'⟩ := typedFuncs_cons typed'
      obtain ⟨later, after⟩ := ih others' typedRest typedRest'
        (by rw [frames, frames']; exact bound)
      have alike := Code.alikeBodies inner inner' rfl rfl (FuncEntry.typed_items typedFn body)
        (FuncEntry.typed_items typedFn' body') bound.enter
      refine ⟨?_, after⟩
      rw [definitionLines_append, definitionLines_append]
      exact .function (bodyLines_functionBody inner.bodyLines _)
        (bodyLines_functionBody inner'.bodyLines _) alike (.outside (by simp) later)

theorem InitialsCode.parallel {scope scope' : Chain Key Storage} {n n' m m' : Nat}
    {globals : List (Reading GlobalEntry)} {code code' : List Instr}
    (h : InitialsCode scope n globals code m)
    (h' : InitialsCode scope' n' (unplacedGlobals globals) code' m')
    (related : Chain.Related (SamePlace []) scope scope') :
    ∃ table, Parallel [] table (straight code) (straight code') := by
  induction h generalizing n' code' with
  | nil =>
    cases h' with
    | nil => exact ⟨[], .nil⟩
  | @cons _ _ _ g _ initial v storage _ _ valued code means _ ih =>
    cases h' with
    | @cons _ _ _ _ _ initial' v' storage' _ _ valued' code' means' others' =>
      obtain rfl : initial' = unplacedExpr? initial := by
        simpa [GlobalEntry.unplaced, valued, Except.map] using valued'.symm
      obtain ⟨table, values, first⟩ := code.parallel related code'
      obtain ⟨later, others⟩ := ih others'
      have same := samePlace_of_means related means means'
      have stores : Parallel ([] ++ table) [] (straight [.store v storage])
          (straight [.store v' storage']) :=
        .quiet rfl rfl fun R used =>
          .cons (.store (values R used) (same.token holds_nil)) .nil
      refine ⟨table ++ [] ++ later, ?_⟩
      have lines := (first.snoc stores).append others
      simpa only [straight_append, straight_cons, straight_nil, List.append_assoc, List.cons_append,
        List.nil_append] using lines

theorem InitialsCode.alikeBodies {scope scope' : Chain Key Storage} {n n' m m' : Nat}
    {globals : List (Reading GlobalEntry)} {code code' : List Instr}
    (h : InitialsCode scope n globals code m)
    (h' : InitialsCode scope' n' (unplacedGlobals globals) code' m')
    (related : Chain.Related (SamePlace []) scope scope') :
    AlikeBodies (initialiserBody code) (initialiserBody code') := by
  obtain ⟨table, parallel⟩ := h.parallel h' related
  have nodup {c : List Instr} (once : (definedNames (straight c)).Nodup) :
      (definedNames (initialiserBody c)).Nodup := by
    rw [initialiserBody, definedNames_append]
    simpa [definedNames, Line.names, Instr.result?] using once
  exact (parallel.append Parallel.ret).alikeBodies (nodup h.nodup_definedNames)
    (nodup h'.nodup_definedNames)

/-- The search for `main` looks at names only. -/
theorem hasMain_unplaced (funcs : List (Reading FuncEntry)) :
    hasMain (unplacedFuncs funcs) = hasMain funcs := by
  induction funcs with
  | nil => rfl
  | cons entry rest ih =>
    cases entry with
    | error fault => rfl
    | ok fn =>
      show (if fn.name.same (.ofText "main") then pure true else hasMain (unplacedFuncs rest)) = _
      rw [ih]
      rfl

/-- Whether the entry point is due does not depend on positions. -/
theorem EntryDue.unplaced {file : SourceFile} {funcs : List (Reading FuncEntry)} {due due' : Bool}
    (h : EntryDue options file funcs due)
    (h' : EntryDue options file.unplaced (unplacedFuncs funcs) due') : due = due' := by
  unfold EntryDue at h h'
  rw [hasMain_unplaced, show file.unplaced.package = file.package from rfl] at h'
  split at h
  · rename_i main
    rw [if_pos main, h] at h'
    exact Except.ok.inj h'
  · rename_i main
    rw [if_neg main] at h'
    rw [h, h']

end

/-! ## §4. Modules. -/

/-- The entry point corresponds to itself. -/
theorem corresponds_entryLine (options : Options) (file : SourceFile) (due : Bool) :
    Corresponds AlikeBodies (expandLines (entryLine options file due))
      (expandLines (entryLine options file due)) := by
  cases due with
  | false => exact .nil
  | true =>
    have inside := bodyLines_straight [.invoke (options.symbol file.package.text "init"),
      .invoke (options.symbol file.package.text "main"), .ret]
    have alike : AlikeBodies
        (straight [.invoke (options.symbol file.package.text "init"),
          .invoke (options.symbol file.package.text "main"), .ret])
        (straight [.invoke (options.symbol file.package.text "init"),
          .invoke (options.symbol file.package.text "main"), .ret]) :=
      ⟨Eq, fun _ _ _ _ first second => by rw [first, second],
        .cons (.plain rfl) (.cons (.plain rfl) (.cons (.plain rfl) .nil))⟩
    exact .outside (by simp) (.function inside inside alike .nil)

/-- At first only the builtin functions are visible, at their symbols. -/
theorem related_builtinFrame :
    Chain.Related (SamePlace []) [Frame.empty, builtinFrame] [Frame.empty, builtinFrame] := by
  refine ⟨[Frame.empty, Frame.ofList (Builtins.functions.map fun builtin =>
    (.text builtin.1, .symbol builtin.2, .symbol builtin.2))], rfl, rfl, ?_⟩
  intro pair member
  have values : pair ∈ Builtins.functions.map fun builtin =>
      (Storage.symbol builtin.2, Storage.symbol builtin.2) := member
  obtain ⟨builtin, -, rfl⟩ := List.mem_map.1 values
  exact .symbol builtin.2

/-- **The module of a file corresponds to that of the file without positions.** -/
theorem ModuleCode.corresponds {options : Options} {file : SourceFile} {slots slots' : List Slot}
    {lines lines' : List Line} {n n' : Nat} (h : ModuleCode options file slots lines n)
    (h' : ModuleCode options file.unplaced slots' lines' n') (typed : file.typed = true) :
    Corresponds AlikeBodies (expandLines lines) (expandLines lines') := by
  cases h with
  | @intro globals funcs due vars routines initials ρ τ n readable readable₂ globalVars functions
      initialises entry =>
    cases h' with
    | @intro globals' funcs' due' vars' routines' initials' ρ' τ' n' readable' readable₂'
        globalVars' functions' initialises' entry' =>
      obtain rfl : globals' = unplacedGlobals globals := by
        simpa [SourceFile.unplaced, readable, Except.map] using readable'.symm
      obtain rfl : funcs' = unplacedFuncs funcs := by
        simpa [SourceFile.unplaced, readable₂, Except.map] using readable₂'.symm
      obtain rfl := entry.unplaced entry'
      rw [expandLines_module globalVars functions, expandLines_module globalVars' functions']
      obtain ⟨vars, afterVars⟩ := globalVars.corresponds globalVars' related_builtinFrame
      obtain ⟨routinesAlike, afterAll⟩ := functions.corresponds functions'
        (SourceFile.typed_funcs typed readable₂)
        (SourceFile.typed_funcs (SourceFile.typed_unplaced typed) readable₂') afterVars
      have initialisers := initialises.alikeBodies initialises' afterAll
      have header : Corresponds AlikeBodies [.package file.package.text, .builtins, .blank]
          [.package file.package.text, .builtins, .blank] :=
        .outside (by simp) (.outside (by simp) (.outside (by simp) .nil))
      have separator : Corresponds AlikeBodies (globalsEnd globals)
          (globalsEnd (unplacedGlobals globals)) := by
        cases globals with
        | nil => exact .nil
        | cons => exact .outside (by simp) .nil
      simp only [List.append_assoc, initialiserLines_append]
      exact header.append (vars.append (separator.append (routinesAlike.append
        (.function (bodyLines_initialiserBody _) (bodyLines_initialiserBody _) initialisers
          (corresponds_entryLine options file due)))))

/-! ## §5. Two files. -/

/-- A file and the file without positions are lowered or refused together. -/
theorem generate_unplaced (options : Options) (file : SourceFile) (typed : file.typed = true)
    (s s' : State) :
    (∃ fault t t', generate options file s = .error fault t
        ∧ generate options file.unplaced s' = .error fault t')
      ∨ ∃ t t', generate options file s = .ok (moduleText t.lines) t
        ∧ generate options file.unplaced s' = .ok (moduleText t'.lines) t'
        ∧ Corresponds AlikeBodies (expandLines t.lines) (expandLines t'.lines) := by
  have same := Check.checkFile_unplaced file
  have verdict := Check.generate_verdict options file.unplaced s'
  rcases Check.generate_verdict options file s with ⟨accepted, t, ran⟩ | ⟨fault, t, refused, ran⟩
  · rcases verdict with ⟨-, t', ran'⟩ | ⟨fault, t', refused', -⟩
    · obtain ⟨-, emitted⟩ := generate_sound ran
      obtain ⟨-, emitted'⟩ := generate_sound ran'
      exact .inr ⟨t, t', ran, ran', emitted.corresponds emitted' typed⟩
    · rw [same, accepted] at refused'
      cases refused'
  · rcases verdict with ⟨accepted', -⟩ | ⟨fault', t', refused', ran'⟩
    · rw [same, refused] at accepted'
      cases accepted'
    · rw [same, refused] at refused'
      cases refused'
      exact .inl ⟨fault, t, t', ran, ran'⟩

/-- **Positions affect nothing but the names inside of functions.**  Of two files that differ only
in positions either both are refused with one fault, or both are lowered, to modules of one length
that are the same outside of functions, and inside of each function up to a bijection of its
names. -/
theorem generate_positions (options : Options) {file file' : SourceFile}
    (typed : file.typed = true) (typed' : file'.typed = true)
    (same : file.unplaced = file'.unplaced) (s s' : State) :
    (∃ fault t t', generate options file s = .error fault t
        ∧ generate options file' s' = .error fault t')
      ∨ ∃ text text' t t', generate options file s = .ok text t
        ∧ generate options file' s' = .ok text' t'
        ∧ text = moduleText (expandLines t.lines) ∧ text' = moduleText (expandLines t'.lines)
        ∧ (expandLines t.lines).length = (expandLines t'.lines).length
        ∧ Corresponds SameUpToNames (expandLines t.lines) (expandLines t'.lines) := by
  have first := generate_unplaced options file typed s {}
  have second := generate_unplaced options file' typed' s' {}
  rw [← same] at second
  rcases first with ⟨fault, t, u, ran, ranMiddle⟩ | ⟨t, u, ran, ranMiddle, alike⟩
  · rcases second with ⟨fault', t', u', ran', ranMiddle'⟩ | ⟨t', u', ran', ranMiddle', -⟩
    · rw [ranMiddle] at ranMiddle'
      cases ranMiddle'
      exact .inl ⟨fault, t, t', ran, ran'⟩
    · rw [ranMiddle] at ranMiddle'
      cases ranMiddle'
  · rcases second with ⟨fault', t', u', ran', ranMiddle'⟩ | ⟨t', u', ran', ranMiddle', alike'⟩
    · rw [ranMiddle] at ranMiddle'
      cases ranMiddle'
    -- both are alike to the module without positions, so they are to each other
    · rw [ranMiddle] at ranMiddle'
      injection ranMiddle' with _ states
      subst states
      have both : Corresponds AlikeBodies (expandLines t.lines) (expandLines t'.lines) :=
        alike.trans (alike'.symm fun _ _ => AlikeBodies.symm) fun _ _ _ => AlikeBodies.trans
      refine .inr ⟨_, _, t, t', ran, ran', (moduleText_expandLines _).symm,
        (moduleText_expandLines _).symm, both.length_eq fun _ _ => AlikeBodies.length_eq,
        both.mono fun _ _ => AlikeBodies.sameUpToNames⟩

/-- A loop whose body hides its variable, with the given positions. -/
def hidingLoop (place : Int → Pos) : SourceFile where
  pos := place 0
  package := .ofText "main"
  globals := .ok [.ok ⟨place 1, "GlobalDecl", .ofText "g", .ok (some (.number (place 2) (.ok 7)))⟩]
  funcs := .ok
    [.ok ⟨place 3, "FuncDecl", .ofText "main", .ok (.stmts (.ok
      [.loop (place 4)
        (.block (place 5) (.ok
          [.varDecl (place 6) (.ofText "i") (some (.ident ⟨place 7, .ofText "i"⟩)),
           .exprStmt (place 8) (.call (place 8) (.ok ⟨place 8, .ofText "println"⟩)
            (.ok [.ident ⟨place 9, .ofText "i"⟩]))]))
        (some (.varDecl (place 10) (.ofText "i") (some (.ident ⟨place 11, .ofText "g"⟩))))
        (some (.binary (place 12) (.known (.compare .lt)) (.ident ⟨place 12, .ofText "i"⟩)
          (.number (place 13) (.ok 9))))
        none]))⟩]

/-- Without positions the second slot takes a number from the counter, and with them none does, so
temporaries and labels have other numbers. -/
theorem generate_positions_hidingLoop :
    (hidingLoop fun _ => noPos).typed = true ∧ (hidingLoop .offset).typed = true
      ∧ (hidingLoop fun _ => noPos).unplaced = (hidingLoop .offset).unplaced
      ∧ ∃ text text' t t', generate {} (hidingLoop fun _ => noPos) {} = .ok text t
        ∧ generate {} (hidingLoop .offset) {} = .ok text' t'
        ∧ text = moduleText (expandLines t.lines) ∧ text' = moduleText (expandLines t'.lines)
        ∧ (expandLines t.lines).length = (expandLines t'.lines).length
        ∧ Corresponds SameUpToNames (expandLines t.lines) (expandLines t'.lines) := by
  have typed : (hidingLoop fun _ => noPos).typed = true := by decide
  have typed' : (hidingLoop .offset).typed = true := by decide
  have same : (hidingLoop fun _ => noPos).unplaced = (hidingLoop .offset).unplaced := rfl
  have accepted : Lower.succeeds (generate {} (hidingLoop .offset) {}) = true := by decide +kernel
  obtain ⟨text, t, ran⟩ := Lower.exists_of_succeeds accepted
  rcases generate_positions {} typed typed' same {} {} with ⟨fault, u, u', -, refused⟩ | lowered
  · rw [ran] at refused
    cases refused
  · exact ⟨typed, typed', same, lowered⟩

end SlotIR
