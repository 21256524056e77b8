/-
  SlotIR.Proofs.Checking.Outcome
  ──────────────────────────────
  **THE OUTCOME OF COMPILING A FILE.**

  The agreement of lowering with the checker, carried from statements to
  functions, initial values and files.  The main result is

      generate options file s  succeeds         if  checkFile file = ok
                               stops at fault   if  checkFile file = fault

  and on a typed file the fault is a refusal: an unresolved name or an
  unsupported construct (`generate_outcome`).

  Two steps of lowering have no counterpart in the checker, and are shown
  never to fail: storing into a variable of the package, which is visible
  as it was bound before, and the search for `main`, as every entry has
  been read before.
-/
import SlotIR.Proofs.Checking.Agreement
import SlotIR.Proofs.Checking.Refusal
import SlotIR.Proofs.Lowering.Steps

namespace SlotIR.Check

open Lower (declareGlobal emit setDecl withFrame)

/-! ## §1. What the checker keeps visible. -/

theorem bind_eq_ok {α β : Type} {x : Verdict α} {f : α → Verdict β} {b : β} :
    (x >>= f) = .ok b ↔ ∃ a, x = .ok a ∧ f a = .ok b := by
  cases x with
  | error fault =>
    constructor
    · intro h
      cases h
    · rintro ⟨_, same, _⟩
      cases same
  | ok a =>
    constructor
    · intro h
      exact ⟨a, rfl, h⟩
    · rintro ⟨_, same, h⟩
      cases same
      exact h

theorem part_eq_ok {α : Type} {reading : Reading α} {a : α} :
    part reading = .ok a ↔ reading = .ok a := by
  cases reading <;> simp [part]

/-- What is visible stays visible. -/
def Grows (v w : Visible) : Prop :=
  ∀ key, (Chain.find? v key).isSome = true → (Chain.find? w key).isSome = true

theorem grows_bindKey (key : Key) (v : Visible) : Grows v (bindKey key v) := by
  intro other visible
  cases v with
  | nil => exact visible
  | cons frame outer =>
    simp only [bindKey, Chain.find?] at visible ⊢
    cases here : frame.find? other with
    | some u => simp [Frame.find?_declare_of_some here]
    | none =>
      rw [here] at visible
      simp only [Option.none_or] at visible
      cases (frame.declare key ()).find? other <;> simp [visible]

theorem find?_bindKey_self {v : Visible} (nonempty : v ≠ []) (key : Key) :
    (Chain.find? (bindKey key v) key).isSome = true := by
  cases v with
  | nil => exact absurd rfl nonempty
  | cons frame outer =>
    simp only [bindKey, Chain.find?]
    cases here : frame.find? key with
    | some u => simp [Frame.find?_declare_of_some here]
    | none => simp [Frame.find?_declare_self here]

theorem bindKey_ne_nil {v : Visible} (nonempty : v ≠ []) (key : Key) : bindKey key v ≠ [] := by
  cases v with
  | nil => exact absurd rfl nonempty
  | cons frame outer => simp [bindKey]

/-- A package's name that is accepted has a key, and is bound by it. -/
theorem bindGlobal_ok {typeName : String} {name : Name} {v w : Visible}
    (h : bindGlobal typeName name v = .ok w) :
    ∃ key, name.key = .ok key ∧ w = bindKey key v := by
  unfold bindGlobal at h
  split at h
  · cases h
  · obtain ⟨key, readable, h⟩ := bind_eq_ok.1 h
    refine ⟨key, part_eq_ok.1 readable, ?_⟩
    split at h
    · cases h
    · cases h
      rfl

/-- The variables of the package are readable and visible. -/
def Binds (v : Visible) (globals : List (Reading GlobalEntry)) : Prop :=
  ∀ entry ∈ globals, ∃ g key, entry = .ok g ∧ g.name.key = .ok key
    ∧ (Chain.find? v key).isSome = true

theorem Binds.grows {v w : Visible} {globals : List (Reading GlobalEntry)}
    (binds : Binds v globals) (grows : Grows v w) : Binds w globals := by
  intro entry member
  obtain ⟨g, key, readable, keyed, visible⟩ := binds entry member
  exact ⟨g, key, readable, keyed, grows key visible⟩

theorem checkGlobals_binds : ∀ (globals : List (Reading GlobalEntry)) {v w : Visible},
    v ≠ [] → checkGlobals globals v = .ok w → Grows v w ∧ Binds w globals
  | [], v, w, _, h => by
    cases h
    exact ⟨fun _ visible => visible, fun _ member => by cases member⟩
  | entry :: rest, v, w, nonempty, h => by
    obtain ⟨g, readable, h⟩ := bind_eq_ok.1 h
    obtain ⟨u, bound, h⟩ := bind_eq_ok.1 h
    obtain ⟨key, keyed, rfl⟩ := bindGlobal_ok bound
    obtain ⟨grows, binds⟩ := checkGlobals_binds rest (bindKey_ne_nil nonempty key) h
    refine ⟨fun other visible => grows other (grows_bindKey key v other visible), ?_⟩
    intro other member
    rcases List.mem_cons.1 member with rfl | later
    · exact ⟨g, key, part_eq_ok.1 readable, keyed, grows key (find?_bindKey_self nonempty key)⟩
    · exact binds other later

theorem checkFunctions_grows : ∀ (funcs : List (Reading FuncEntry)) {v w : Visible},
    checkFunctions funcs v = .ok w → Grows v w ∧ ∀ entry ∈ funcs, ∃ fn, entry = .ok fn
  | [], v, w, h => by
    cases h
    exact ⟨fun _ visible => visible, fun _ member => by cases member⟩
  | entry :: rest, v, w, h => by
    obtain ⟨fn, readable, h⟩ := bind_eq_ok.1 h
    obtain ⟨u, bound, h⟩ := bind_eq_ok.1 h
    obtain ⟨body, _, h⟩ := bind_eq_ok.1 h
    obtain ⟨_, _, h⟩ := bind_eq_ok.1 h
    obtain ⟨key, _, rfl⟩ := bindGlobal_ok bound
    obtain ⟨grows, readables⟩ := checkFunctions_grows rest h
    refine ⟨fun other visible => grows other (grows_bindKey key v other visible), ?_⟩
    intro other member
    rcases List.mem_cons.1 member with rfl | later
    · exact ⟨fn, part_eq_ok.1 readable⟩
    · exact readables other later

/-! ## §2. Functions. -/

section

variable {s t : State} {v : Visible}

theorem declareGlobal_agrees (sees : Sees s none v) (typeName : String) (name : Name)
    (storage : Storage) :
    Agrees (declareGlobal typeName name storage s) (bindGlobal typeName name v)
      (fun _ t w => Leaves s none t w) := by
  unfold Lower.declareGlobal bindGlobal
  split
  · exact .unsupported sees _ _ _
  · refine (declare_agrees sees name storage).bind fun bound t key ⟨left, fresh⟩ => ?_
    rw [fresh]
    cases bound with
    | none => exact left
    | some other => exact .unsupported left.1 _ _ _

theorem lowerDefinition_agrees {decl : Option Decl} (symbol : String)
    (items : Reading (List Stmt)) (sees : Sees s decl v) :
    Agrees (lowerDefinition symbol items s) (checkItems decl items v)
      (fun _ t w => Leaves s decl t w) := by
  unfold lowerDefinition
  refine Agrees.emit (.define symbol) fun t keeps => ?_
  refine Agrees.skip (rfl : lineCount t = .ok t.lines.length t) ?_
  rw [← bind_pure (checkItems _ _ _)]
  refine (lowerItems_agrees items (keeps.sees sees)).bind fun _ u w left => ?_
  exact ⟨left.1.of_eq rfl rfl, left.2.trans (congrArg List.tail keeps.1)⟩

theorem lowerBody_agrees (name : Name) (symbol : String) (body : Body) (sees : Sees s none v) :
    Agrees (lowerBody name symbol body s) (checkBody name v body) (fun _ t _ => Keeps s t) := by
  cases body with
  | external => exact ⟨rfl, rfl⟩
  | stmts items =>
    unfold lowerBody checkBody
    refine Agrees.skip (rfl : startFunction name.text s = .ok () _) ?_
    have inner : Sees { s with decl := some (.func name.text), reserved := .ofSlots [] }
        (some (.func name.text)) v := ⟨rfl, sees.open_scope, sees.visible_eq⟩
    refine (withFrame_agrees ((lowerDefinition_agrees symbol items inner.enter).mono
      fun _ _ _ left => left.within inner)).bind fun _ t _ keeps => ?_
    exact ⟨keeps.1, sees.decl_eq.symm⟩

theorem lowerFunctions_agrees (options : Options) (package : String) :
    ∀ (funcs : List (Reading FuncEntry)) {s : State} {v : Visible}, Sees s none v →
    Agrees (lowerFunctions options package funcs s) (checkFunctions funcs v)
      (fun _ t w => Leaves s none t w)
  | [], s, v, sees => ⟨sees, rfl⟩
  | entry :: rest, s, v, sees => by
    simp only [lowerFunctions, lowerFunction, checkFunctions, bind_assoc]
    refine Agrees.read.bind fun fn t _ same => ?_
    obtain ⟨rfl, rfl⟩ := same
    refine (declareGlobal_agrees sees _ _ _).bind fun _ u w left => ?_
    refine Agrees.read.bind fun body x _ same => ?_
    obtain ⟨rfl, rfl⟩ := same
    refine (lowerBody_agrees fn.name _ body left.1).bind fun _ y _ keeps => ?_
    refine (lowerFunctions_agrees options package rest (keeps.sees left.1)).mono
      fun _ z w' after => ?_
    exact ⟨after.1, after.2.trans ((congrArg List.tail keeps.1).trans left.2)⟩

/-! ## §3. Package variables. -/

theorem lowerGlobals_agrees (options : Options) (package : String) :
    ∀ (globals : List (Reading GlobalEntry)) {s : State} {v : Visible}, Sees s none v →
    Agrees (lowerGlobals options package globals s) (checkGlobals globals v)
      (fun _ t w => Leaves s none t w)
  | [], s, v, sees => ⟨sees, rfl⟩
  | entry :: rest, s, v, sees => by
    simp only [lowerGlobals, checkGlobals]
    refine Agrees.read.bind fun g t _ same => ?_
    obtain ⟨rfl, rfl⟩ := same
    refine (declareGlobal_agrees sees _ _ _).bind fun _ u w left => ?_
    refine Agrees.emit _ fun x keeps => ?_
    refine (lowerGlobals_agrees options package rest (keeps.sees left.1)).mono
      fun _ z w' after => ?_
    exact ⟨after.1, after.2.trans ((congrArg List.tail keeps.1).trans left.2)⟩

/-- A name that is visible is resolved. -/
theorem resolve_visible {decl : Option Decl} (sees : Sees s decl v) (kind : Datum) {name : Name}
    {key : Key} (keyed : name.key = .ok key) (visible : (Chain.find? v key).isSome = true) :
    ∃ storage, Lower.resolve kind name s = .ok storage s := by
  have agrees := resolve_agrees sees kind name
  have accepted : checkVisible decl kind v name = .ok () := by
    simp [checkVisible, keyed, part, visible, bind, Except.bind, pure, Except.pure]
  rw [accepted] at agrees
  cases result : Lower.resolve kind name s with
  | ok storage t =>
    rw [result] at agrees
    exact ⟨storage, by rw [show t = s from agrees]⟩
  | error fault t =>
    rw [result] at agrees
    exact agrees.elim

/-- The declaration at work is no part of what is seen of the scopes. -/
theorem Sees.setDecl {decl : Option Decl} (sees : Sees s decl v) (other : Option Decl) :
    Sees { s with decl := other } other v :=
  ⟨rfl, sees.open_scope, sees.visible_eq⟩

theorem storeInitials_agrees : ∀ (globals : List (Reading GlobalEntry)) {s : State}
    {decl : Option Decl}, Sees s decl v → Binds v globals →
    Agrees (storeInitials globals s) (checkInitials v globals) (fun _ t _ => t.scope = s.scope)
  | [], s, decl, sees, _ => rfl
  | entry :: rest, s, decl, sees, binds => by
    obtain ⟨g, key, rfl, keyed, visible⟩ := binds _ List.mem_cons_self
    have later : Binds v rest := fun entry member => binds entry (List.mem_cons_of_mem _ member)
    simp only [storeInitials, checkInitials]
    refine Agrees.readBoth g ?_
    have working := sees.setDecl (some (.var g.name.text))
    refine Agrees.skip (rfl : setDecl (some (.var g.name.text)) s = .ok () _) ?_
    refine Agrees.read.bind fun initial u _ same => ?_
    obtain ⟨rfl, rfl⟩ := same
    refine (lowerInitial_agrees initial working).bind fun value x _ keeps => ?_
    -- the variable was bound before, so its name is resolved
    obtain ⟨storage, resolved⟩ := resolve_visible (keeps.sees working) (.text "var")
      keyed visible
    refine Agrees.skip resolved ?_
    refine Agrees.emit _ fun y keeps' => ?_
    refine (storeInitials_agrees rest ((keeps.trans keeps').sees working) later).mono
      fun _ z _ after => ?_
    exact after.trans (keeps.trans keeps').1

/-! ## §4. Files. -/

theorem lowerInitialiser_agrees (options : Options) {file : SourceFile}
    {globals : List (Reading GlobalEntry)} (readable : file.globals = .ok globals)
    (sees : Sees s none v) (binds : Binds v globals) :
    Agrees (lowerInitialiser options file s) (checkInitials v globals)
      (fun _ t _ => Keeps s t) := by
  unfold lowerInitialiser
  refine Agrees.emit _ fun t keeps => ?_
  rw [readable]
  refine Agrees.skip (rfl : Lower.read (.ok globals) t = .ok globals t) ?_
  rw [← bind_pure (checkInitials v globals)]
  refine (storeInitials_agrees globals (keeps.sees sees) binds).bind fun _ u _ same => ?_
  exact ⟨same.trans keeps.1, sees.decl_eq.symm⟩

theorem lowerFile_agrees (options : Options) (file : SourceFile) (scope : s.scope = [builtinFrame])
    (undeclared : s.decl = none) :
    Agrees (lowerFile options file s) (checkFile file) (fun _ t _ => Keeps s t) := by
  unfold lowerFile checkFile
  refine withFrame_agrees ?_
  have sees : Sees { s with scope := Frame.empty :: s.scope } none
      (visible [Frame.empty, builtinFrame]) := ⟨undeclared, by simp, by rw [scope]⟩
  -- the package variables are read again for the initialiser
  cases readable : file.globals with
  | error fault => exact (rfl : Fault.unreadable fault = .unreadable fault)
  | ok globals =>
    refine Agrees.readBoth globals ?_
    refine (lowerGlobals_agrees options _ globals sees).bind_of_ok fun _ t vars ok left => ?_
    -- a variable stays bound while the functions are declared, so the initialiser resolves it
    obtain ⟨-, binds⟩ := checkGlobals_binds globals (List.cons_ne_nil _ _) ok
    have ended : ∃ u, endGlobals globals t = .ok () u ∧ Keeps t u := by
      cases globals <;> exact ⟨_, rfl, rfl, rfl⟩
    obtain ⟨u, ended, keeps⟩ := ended
    refine Agrees.skip ended ?_
    refine Agrees.read.bind fun funcs x _ same => ?_
    obtain ⟨rfl, rfl⟩ := same
    refine (lowerFunctions_agrees options _ funcs (keeps.sees left.1)).bind_of_ok
      fun _ y all ok' left' => ?_
    obtain ⟨grows, -⟩ := checkFunctions_grows funcs ok'
    refine (lowerInitialiser_agrees options readable left'.1 (binds.grows grows)).mono
      fun _ z _ keeps' => ?_
    refine ⟨?_, (keeps'.sees left'.1).decl_eq.trans undeclared.symm⟩
    rw [keeps'.1, left'.2, keeps.1, left.2]
    rfl

end

/-- Once a file is accepted, its functions can be searched for `main`. -/
theorem hasMain_ok : ∀ (funcs : List (Reading FuncEntry)),
    (∀ entry ∈ funcs, ∃ fn, entry = .ok fn) → ∃ found, hasMain funcs = .ok found
  | [], _ => ⟨false, rfl⟩
  | entry :: rest, readable => by
    obtain ⟨fn, rfl⟩ := readable entry List.mem_cons_self
    obtain ⟨found, searched⟩ :=
      hasMain_ok rest fun entry member => readable entry (List.mem_cons_of_mem _ member)
    by_cases main : fn.name.same (.ofText "main") = true
    · exact ⟨true, by simp [hasMain, main, bind, Except.bind, pure, Except.pure]⟩
    · exact ⟨found, by simp [hasMain, main, searched, bind, Except.bind]⟩

/-- The functions of a file that is accepted are readable. -/
theorem checkFile_funcs {file : SourceFile} (h : checkFile file = .ok ()) :
    ∃ funcs, file.funcs = .ok funcs ∧ ∀ entry ∈ funcs, ∃ fn, entry = .ok fn := by
  obtain ⟨globals, _, h⟩ := bind_eq_ok.1 h
  obtain ⟨vars, _, h⟩ := bind_eq_ok.1 h
  obtain ⟨funcs, readable, h⟩ := bind_eq_ok.1 h
  obtain ⟨all, accepted, _⟩ := bind_eq_ok.1 h
  exact ⟨funcs, part_eq_ok.1 readable, (checkFunctions_grows funcs accepted).2⟩

/-- The entry point of an accepted file never fails. -/
theorem emitEntry_ok (options : Options) {file : SourceFile} (h : checkFile file = .ok ())
    (s : State) : ∃ t, emitEntry options file s = .ok () t := by
  obtain ⟨funcs, readable, entries⟩ := checkFile_funcs h
  obtain ⟨found, searched⟩ := hasMain_ok funcs entries
  unfold emitEntry
  split
  · have read : Lower.read (hasMain funcs) s = .ok found s := by
      rw [searched]
      rfl
    cases found with
    | true =>
      exact ⟨_, Lower.bind_eq_ok.2 ⟨funcs, s, by rw [readable]; rfl,
        Lower.bind_eq_ok.2 ⟨true, s, read, rfl⟩⟩⟩
    | false =>
      exact ⟨s, Lower.bind_eq_ok.2 ⟨funcs, s, by rw [readable]; rfl,
        Lower.bind_eq_ok.2 ⟨false, s, read, rfl⟩⟩⟩
  · exact ⟨s, rfl⟩

/-- **Lowering a file agrees with checking it**, whatever the state it starts from. -/
theorem generate_agrees (options : Options) (file : SourceFile) (s : State) :
    Agrees (generate options file s) (checkFile file)
      (fun text t _ => text = moduleText t.lines) := by
  unfold generate
  -- the state before is forgotten, so what it holds makes no difference
  refine Agrees.skip (rfl : startModule s = .ok () _) ?_
  refine Agrees.skip (rfl : emitHeader _ _ = .ok () _) ?_
  rw [← bind_pure (checkFile file)]
  refine (lowerFile_agrees options file rfl rfl).bind_of_ok fun _ t _ accepted _ => ?_
  obtain ⟨u, entered⟩ := emitEntry_ok options accepted t
  exact Agrees.skip entered rfl

/-- Lowering and the checker give one verdict: a module of an accepted file, and the first violation
otherwise. -/
theorem generate_verdict (options : Options) (file : SourceFile) (s : State) :
    (checkFile file = .ok () ∧ ∃ t, generate options file s = .ok (moduleText t.lines) t)
      ∨ ∃ fault t, checkFile file = .error fault ∧ generate options file s = .error fault t := by
  have agrees := generate_agrees options file s
  cases result : generate options file s with
  | ok text t =>
    cases checked : checkFile file with
    | ok _ =>
      rw [result, checked] at agrees
      exact .inl ⟨rfl, t, by rw [show text = moduleText t.lines from agrees]⟩
    | error fault =>
      rw [result, checked] at agrees
      exact agrees.elim
  | error fault t =>
    cases checked : checkFile file with
    | ok _ =>
      rw [result, checked] at agrees
      exact agrees.elim
    | error violation =>
      rw [result, checked] at agrees
      have same : fault = violation := agrees
      subst same
      exact .inr ⟨fault, t, rfl, rfl⟩

/-- **The outcome of compiling a typed file is that of checking it**: the text of a module if the
checker accepts the file, and otherwise the first violation, which is an unresolved name or an
unsupported construct. -/
theorem generate_outcome (options : Options) (file : SourceFile) (s : State)
    (typed : file.typed = true) :
    (checkFile file = .ok () ∧ ∃ t, generate options file s = .ok (moduleText t.lines) t)
      ∨ ∃ fault t, checkFile file = .error fault ∧ generate options file s = .error fault t
          ∧ fault.isRefusal = true := by
  rcases generate_verdict options file s with accepted | ⟨fault, t, refused, stopped⟩
  · exact .inl accepted
  · exact .inr ⟨fault, t, refused, stopped, checkFile_refuses typed fault refused⟩

/-- A file in which a loop of the first function calls the second, which is not visible yet, and
assigns to a name that nothing binds. -/
def earlyCall : SourceFile where
  pos := .offset 0
  package := .ofText "main"
  globals := .ok [.ok ⟨.offset 1, "GlobalDecl", .ofText "x", .ok none⟩]
  funcs := .ok
    [.ok ⟨.offset 2, "FuncDecl", .ofText "first", .ok (.stmts (.ok
      [.loop (.offset 3)
        (.exprStmt (.offset 4) (.call (.offset 5) (.ok ⟨.offset 5, .ofText "second"⟩)
          (.ok [.ident ⟨.offset 6, .ofText "x"⟩])))
        none none none,
       .assign (.offset 7) (.known .assign) (.ok [.ok ⟨.offset 7, .ofText "y"⟩])
        (.ok [.number (.offset 8) (.ok 1)])]))⟩,
     .ok ⟨.offset 9, "FuncDecl", .ofText "second", .ok (.stmts (.ok []))⟩]

/-- The call is reported, as it comes first. -/
theorem generate_outcome_earlyCall :
    earlyCall.typed = true
      ∧ checkFile earlyCall
          = .error (.unresolved (.text "func") (.ofText "second") (some (.func "first")))
      ∧ ∃ t, generate {} earlyCall {}
          = .error (.unresolved (.text "func") (.ofText "second") (some (.func "first"))) t := by
  have checked : checkFile earlyCall
      = .error (.unresolved (.text "func") (.ofText "second") (some (.func "first"))) := by
    rfl
  have typed : earlyCall.typed = true := by decide
  refine ⟨typed, checked, ?_⟩
  rcases generate_outcome {} earlyCall {} typed with ⟨accepted, _⟩ | ⟨fault, t, same, stopped, _⟩
  · rw [checked] at accepted
    cases accepted
  · rw [checked] at same
    cases same
    exact ⟨t, stopped⟩

end SlotIR.Check
