/-
  SlotIR.Proofs.Access.Visibility
  ───────────────────────────────
  **WHAT IS STORED IS READ NEXT.**

  A declaration or an assignment stores a value for each name that it
  GIVES.  Where a store goes and where the name is read afterwards are
  decided in two places, by the slot that is reserved and by the scope.
  They agree on every name, whether it is new, hidden, bound already or
  given twice, with one exception: the first declaration of a name in a
  frame stays.

      REDECLARED   the value goes to a slot of its own, which no name is
                   bound to, and the scope is as before

  Nothing is assumed of the scope.  It may keep two names at one address,
  and then either is read as what was stored there last.  Main result:

    • `lowerStmt_readBack` — each name that a statement gives is read from
      the address of the last store for it, unless it is redeclared.
-/
import SlotIR.Proofs.Emission.Assignment
import SlotIR.Proofs.Lowering.Frames
import SlotIR.Proofs.Meaning.Straight
import Mathlib.Data.List.Find
import Mathlib.Data.List.Forall2
import Mathlib.Data.List.Induction

namespace SlotIR

/-! ## §1. Stores. -/

/-- What an instruction stores, and where. -/
def Instr.write? : Instr → Option (Operand × Storage)
  | .store v place => some (v, place)
  | _ => none

/-- What code stores, and where, in order. -/
def writes (code : List Instr) : List (Operand × Storage) := code.filterMap Instr.write?

/-- What code stores last at an address. -/
def lastWrite (code : List Instr) (address : String) : Option Operand :=
  ((writes code).findRev? (·.2.text == address)).map (·.1)

/-- The instructions that store values in order. -/
def writing (pairs : List (Operand × Storage)) : List Instr :=
  pairs.map fun pair => .store pair.1 pair.2

@[simp] theorem writing_append (first second : List (Operand × Storage)) :
    writing (first ++ second) = writing first ++ writing second := List.map_append

@[simp] theorem writes_append (first second : List Instr) :
    writes (first ++ second) = writes first ++ writes second := List.filterMap_append

@[simp] theorem writes_writing (pairs : List (Operand × Storage)) :
    writes (writing pairs) = pairs := by
  unfold writes writing
  rw [List.filterMap_map]
  exact List.filterMap_some

/-- Code that defines temporaries stores nothing. -/
theorem writes_of_defines {code : List Instr}
    (defines : code.all (fun i => i.result?.isSome) = true) : writes code = [] := by
  refine List.filterMap_eq_nil_iff.2 fun i member => ?_
  have defined := List.all_eq_true.1 defines i member
  cases i with
  | store => cases defined
  | _ => rfl

theorem lastWrite_concat (code : List Instr) (v : Operand) (place : Storage) (address : String) :
    lastWrite (code ++ [.store v place]) address
      = if place.text = address then some v else lastWrite code address := by
  unfold lastWrite
  rw [List.findRev?_eq_find?_reverse, List.findRev?_eq_find?_reverse, writes_append,
    List.reverse_append]
  show Option.map _ (List.find? _ ((v, place) :: (writes code).reverse)) = _
  by_cases here : place.text = address
  · simp [here]
  · simp [here]

/-! ## §2. Runs of stores. -/

theorem executeAll_append_of_ok {handler : Handler} {first second : List Instr} {c d : Cells}
    (ran : executeAll handler first c = .ok () d) :
    executeAll handler (first ++ second) c = executeAll handler second d := by
  rw [executeAll_append]
  show EStateM.bind _ _ c = _
  rw [EStateM.bind, ran]

/-- A run of instructions one after the other is a run of each. -/
theorem executeAll_append_eq_ok {handler : Handler} {first second : List Instr} {c d : Cells}
    (ran : executeAll handler (first ++ second) c = .ok () d) :
    ∃ e, executeAll handler first c = .ok () e ∧ executeAll handler second e = .ok () d := by
  cases result : executeAll handler first c with
  | ok u e =>
    rw [executeAll_append_of_ok result] at ran
    exact ⟨e, rfl, ran⟩
  | error =>
    rw [executeAll_append] at ran
    change EStateM.bind _ _ c = _ at ran
    rw [EStateM.bind, result] at ran
    cases ran

theorem Instr.execute_store {handler : Handler} {v : Operand} {place : Storage} {c d : Cells}
    (ran : (Instr.store v place).execute handler c = .ok () d) :
    ∃ a, c.value v = some a ∧ d = { c with memory := c.memory.update place.text a } := by
  unfold execute at ran
  cases found : c.value v with
  | none =>
    simp only [found] at ran
    cases ran
  | some a =>
    simp only [found] at ran
    cases ran
    exact ⟨a, rfl, rfl⟩

/-- After stores, each address holds what was stored there last. -/
theorem executeAll_writing {handler : Handler} {pairs : List (Operand × Storage)} {c d : Cells}
    {address : String} {v : Operand} (ran : executeAll handler (writing pairs) c = .ok () d)
    (last : lastWrite (writing pairs) address = some v) : d.value v = some (d.memory address) := by
  -- from the last store backward, since it is the one that counts
  induction pairs using List.reverseRecOn generalizing d with
  | nil => cases last
  | append_singleton earlier pair ih =>
    obtain ⟨w, place⟩ := pair
    rw [writing_append] at ran last
    obtain ⟨e, before, stored⟩ := executeAll_append_eq_ok ran
    replace stored : (Instr.store w place).execute handler e = .ok () d := by
      rwa [← executeAll_one]
    obtain ⟨a, value, rfl⟩ := Instr.execute_store stored
    -- a store changes no temporary, so the operands keep their values
    show e.value v = some (e.memory.update place.text a address)
    replace last := (lastWrite_concat (writing earlier) w place address).symm.trans last
    by_cases here : place.text = address
    · rw [if_pos here] at last
      cases last
      rw [value, Globals.update, if_pos here.symm]
    · rw [if_neg here] at last
      rw [ih before last, Globals.update, if_neg (Ne.symm here)]

/-! ## §3. What a statement gives. -/

/-- The names that targets have, in order. -/
def targetNames (targets : List (Reading Ident)) : List Name :=
  targets.filterMap fun target => (readable target).map (·.name)

/-- The names that a statement gives values to, in the order of its stores. -/
def Stmt.given : Stmt → List Name
  | .varDecl _ name _ => [name]
  | .assign _ _ (.ok targets) _ => targetNames targets
  | _ => []

/-- The statement declares a name that the current frame binds. -/
def Stmt.redeclares (scope : Chain Key Storage) : Stmt → Bool
  | .varDecl _ name _ => name.key.toOption.any scope.bindsHere
  | _ => false

/-- A name that the innermost frame does not bind means what it is declared to be, whatever it means
further out. -/
theorem Local.means_of_not_bindsHere {σ τ : Layout} {name : Name} {pos : Pos} {slot : Slot}
    (h : Local σ name pos slot τ) (free : name.key.toOption.any σ.scope.bindsHere = false) :
    Means τ.scope name (.slot slot) := by
  cases h with
  | @intro key _ keyed opened _ =>
    obtain ⟨frame, outer, frames⟩ := List.exists_cons_of_ne_nil opened
    refine ⟨key, keyed, ?_⟩
    rw [keyed, frames] at free
    have freeHere : frame.find? key = none := by
      simpa [Except.toOption, Chain.bindsHere, Frame.contains] using free
    rw [frames, Chain.declare_cons, Chain.find?, Frame.find?_declare_self freeHere]
    rfl

/-- A name that the innermost frame binds has a meaning, and a declaration does not change it. -/
theorem Local.scope_of_bindsHere {σ τ : Layout} {name : Name} {pos : Pos} {slot : Slot}
    (h : Local σ name pos slot τ) (bound : name.key.toOption.any σ.scope.bindsHere = true) :
    τ.scope = σ.scope ∧ τ.slots = σ.slots ++ [slot] ∧ ∃ old, Means σ.scope name old := by
  cases h with
  | @intro key _ keyed opened _ =>
    obtain ⟨frame, outer, frames⟩ := List.exists_cons_of_ne_nil opened
    rw [keyed, frames] at bound
    have boundHere : frame.contains key = true := by
      simpa [Except.toOption, Chain.bindsHere] using bound
    refine ⟨?_, rfl, ?_⟩
    · show Chain.declare σ.scope key (.slot slot) = σ.scope
      rw [frames, Chain.declare_cons, Frame.declare_of_contains boundHere]
    · obtain ⟨old, found⟩ := Option.isSome_iff_exists.1 boundHere
      refine ⟨old, key, keyed, ?_⟩
      rw [frames, Chain.find?, found]
      rfl

/-- The stores of an assignment go where its targets are kept. -/
theorem Stores.forall₂ {scope : Chain Key Storage} {targets : List (Reading Ident)} {ds : List Nat}
    {code : List Instr} (h : Stores scope (targets.zip ds) code)
    (lengths : ds.length = targets.length) :
    ∃ pairs, code = writing pairs
      ∧ List.Forall₂ (fun name pair => Means scope name pair.2) (targetNames targets) pairs := by
  induction targets generalizing ds code with
  | nil =>
    cases h
    exact ⟨[], rfl, .nil⟩
  | cons target targets ih =>
    obtain ⟨d, ds, rfl⟩ := List.exists_cons_of_length_eq_add_one lengths
    cases h with
    | cons means others =>
      obtain ⟨pairs, rfl, kept⟩ := ih others (Nat.succ.inj lengths)
      exact ⟨(.temp d, _) :: pairs, rfl, .cons means kept⟩

/-- The code of expressions defines temporaries. -/
theorem ExprsCode.defines {scope : Chain Key Storage} {n m : Nat} {es : List Expr}
    {code : List Instr} {ds : List Nat} (h : ExprsCode scope n es code ds m) :
    code.all (fun i => i.result?.isSome) = true := by
  induction h with
  | nil => rfl
  | cons first _ ih => rw [List.all_append, first.defines, ih, Bool.and_self]

theorem InitialCode.defines {scope : Chain Key Storage} {n m : Nat} {value : Option Expr}
    {code : List Instr} {v : Operand} (h : InitialCode scope n value code v m) :
    code.all (fun i => i.result?.isSome) = true := by
  cases h with
  | zero => rfl
  | value code => exact code.defines

/-- The code of a statement that gives names: it defines temporaries, and then it stores once for
each name, where the name is kept unless it is redeclared. -/
theorem Code.gives {σ τ : Layout} {stmt : Stmt} {lines : List Line} {name : Name}
    (h : Code σ (.stmt stmt) lines τ) (given : name ∈ stmt.given) :
    ∃ c pairs, lines = straight (c ++ writing pairs)
      ∧ c.all (fun i => i.result?.isSome) = true
      ∧ pairs.length = stmt.given.length
      ∧ (stmt.redeclares σ.scope = false →
          List.Forall₂ (fun name pair => Means τ.scope name pair.2) stmt.given pairs)
      ∧ (stmt.redeclares σ.scope = true → stmt.given = [name] ∧ τ.scope = σ.scope
          ∧ (∃ old, Means σ.scope name old)
          ∧ ∃ v slot, pairs = [(v, .slot slot)] ∧ τ.slots = σ.slots ++ [slot]) := by
  cases h with
  | @varDecl _ _ pos declared value c v n slot initial new =>
    -- one name is given, and one slot is reserved for it whatever the scope binds
    obtain rfl : name = declared := List.mem_singleton.1 given
    refine ⟨c, [(v, .slot slot)], rfl, initial.defines, rfl, fun free => ?_, fun bound => ?_⟩
    · exact .cons (new.means_of_not_bindsHere free) .nil
    · obtain ⟨scope, slots, old⟩ := new.scope_of_bindsHere bound
      exact ⟨rfl, scope, old, v, slot, rfl, slots⟩
  | assign lengths evaluates _ stores =>
    obtain ⟨pairs, rfl, kept⟩ := stores.forall₂ (evaluates.length_eq.trans lengths.symm)
    exact ⟨_, pairs, rfl, evaluates.defines, kept.length_eq.symm, fun _ => kept, nofun⟩
  | block | loop | expr => cases given

/-! ## §4. The store that is read. -/

/-- What code stores for the last occurrence of a name, and where, if it stores once for each of the
names. -/
def writeFor (names : List Name) (code : List Instr) (name : Name) : Option (Operand × Storage) :=
  ((names.zip (writes code)).findRev? (·.1 == name)).map (·.2)

/-- No other of the names is kept at the address. -/
def KeptAlone (scope : Chain Key Storage) (names : List Name) (name : Name) (address : String) :
    Prop :=
  ∀ other ∈ names, other ≠ name → ∀ place, Means scope other place → place.text ≠ address

section

variable {scope : Chain Key Storage} {names : List Name} {name : Name} {code : List Instr}

/-- The last store for a name is one for it. -/
theorem exists_writeFor (lengths : names.length = (writes code).length) (given : name ∈ names) :
    ∃ v place, writeFor names code name = some (v, place)
      ∧ (name, v, place) ∈ names.zip (writes code) := by
  have named : name ∈ (names.zip (writes code)).map Prod.fst := by
    rwa [List.map_fst_zip (Nat.le_of_eq lengths)]
  obtain ⟨entry, member, same⟩ := List.mem_map.1 named
  have isSome : ((names.zip (writes code)).reverse.find? (·.1 == name)).isSome := by
    rw [List.find?_isSome]
    exact ⟨entry, List.mem_reverse.2 member, beq_iff_eq.2 same⟩
  obtain ⟨⟨other, v, place⟩, found⟩ := Option.isSome_iff_exists.1 isSome
  have matched := List.find?_some found
  obtain rfl : other = name := beq_iff_eq.1 matched
  refine ⟨v, place, ?_, List.mem_reverse.1 (List.mem_of_find?_eq_some found)⟩
  rw [writeFor, List.findRev?_eq_find?_reverse, found]
  rfl

/-- Stores for names, taken together with them. -/
theorem lastWrite_eq_zip (lengths : names.length = (writes code).length) (address : String) :
    lastWrite code address
      = ((names.zip (writes code)).findRev? (·.2.2.text == address)).map (·.2.1) := by
  have stores : (names.zip (writes code)).map Prod.snd = writes code :=
    List.map_snd_zip (Nat.le_of_eq lengths.symm)
  rw [lastWrite, ← stores, List.findRev?_eq_find?_reverse, List.findRev?_eq_find?_reverse,
    ← List.map_reverse, List.find?_map, Option.map_map, stores]
  rfl

/-- A name is kept where the last store for it goes.  That address is stored to, and last with the
same value unless another of the names is kept there too. -/
theorem writeFor_of_forall₂
    (kept : List.Forall₂ (fun name pair => Means scope name pair.2) names (writes code))
    (given : name ∈ names) :
    ∃ v place w, writeFor names code name = some (v, place) ∧ Means scope name place
      ∧ lastWrite code place.text = some w
      ∧ (KeptAlone scope names name place.text → w = v) := by
  have lengths := kept.length_eq
  obtain ⟨v, place, written, member⟩ := exists_writeFor lengths given
  have means : Means scope name place := List.forall₂_zip kept member
  have isSome : ((names.zip (writes code)).reverse.find? (·.2.2.text == place.text)).isSome := by
    rw [List.find?_isSome]
    exact ⟨_, List.mem_reverse.2 member, BEq.rfl⟩
  obtain ⟨last, found⟩ := Option.isSome_iff_exists.1 isSome
  refine ⟨v, place, last.2.1, written, means, ?_, fun alone => ?_⟩
  · rw [lastWrite_eq_zip lengths, List.findRev?_eq_find?_reverse, found]
    rfl
  -- a store goes to the address if, and only if, it is one for the name
  have agree (entry : Name × Operand × Storage)
      (member : entry ∈ (names.zip (writes code)).reverse) :
      (entry.2.2.text == place.text) = (entry.1 == name) := by
    have inside := List.mem_reverse.1 member
    have means' : Means scope entry.1 entry.2.2 := List.forall₂_zip kept inside
    by_cases same : entry.1 = name
    · rw [same] at means'
      rw [means'.unique means, same, BEq.rfl, BEq.rfl]
    · rw [beq_false_of_ne same, beq_false_of_ne]
      exact alone _ (List.of_mem_zip inside).1 same _ means'
  rw [writeFor, List.findRev?_eq_find?_reverse, ← List.find?_congr agree, found] at written
  exact congrArg Prod.fst (Option.some.inj written)

end

/-! ## §5. The next read. -/

/-- The name is kept at a place, from which it is read next; and after code has run, what is read is
what the code stored there last. -/
structure ReadBack (code : List Instr) (t : State) (name : Name) (place : Storage) : Prop where
  means : Means t.scope name place
  loads : ∀ pos, lowerExpr (.ident ⟨pos, name⟩) t
    = .ok t.nextId (t.extend [.instr (.load t.nextId place)] (t.layout.drawTo (t.nextId + 1)))
  value : ∀ handler before after, executeAll handler code before = .ok () after →
    ∃ v a, lastWrite code place.text = some v ∧ after.value v = some a
      ∧ executeAll handler (code ++ [.load t.nextId place]) before
          = .ok () (after.define t.nextId (.i32 a))

/-- A name is read from the place that it means. -/
theorem lowerExpr_ident {t : State} {name : Name} {place : Storage}
    (means : Means t.scope name place) (pos : Pos) :
    lowerExpr (.ident ⟨pos, name⟩) t
      = .ok t.nextId (t.extend [.instr (.load t.nextId place)]
          (t.layout.drawTo (t.nextId + 1))) := by
  rw [lowerExpr, Lower.bind_eq_ok]
  exact ⟨place, t, Lower.resolve_eq_ok.2 ⟨means, rfl⟩, Lower.define_eq_ok.2 ⟨rfl, rfl⟩⟩

/-- **What a statement gives to a name is what is read of it next.**  The last store of the
statement for the name goes to the place that the name means afterwards, and a read of it gets what
was stored there last.  A name that is redeclared has a store of its own, to a new slot, and means
what it meant before. -/
theorem lowerStmt_readBack {stmt : Stmt} {s t : State} {u : Unit} {name : Name}
    (h : lowerStmt stmt s = .ok u t) (given : name ∈ stmt.given) :
    ∃ code v place, t.lines = s.lines ++ straight code
      ∧ (writes code).length = stmt.given.length
      ∧ writeFor stmt.given code name = some (v, place)
      ∧ if stmt.redeclares s.scope then
          t.scope = s.scope ∧ (∃ old, Means s.scope name old)
            ∧ ∃ slot, place = .slot slot ∧ t.slots = s.slots ++ [slot]
        else
          ReadBack code t name place
            ∧ (KeptAlone t.scope stmt.given name place.text →
                lastWrite code place.text = some v) := by
  obtain ⟨lines, τ, emitted, rfl⟩ := lowerStmt_sound stmt h
  obtain ⟨c, pairs, rfl, defines, lengths, keeps, redeclares⟩ := emitted.gives given
  -- evaluation stores nothing, so all stores are those for the given names
  have stores : writes (c ++ writing pairs) = pairs := by
    rw [writes_append, writes_of_defines defines, writes_writing, List.nil_append]
  cases redeclared : stmt.redeclares s.scope with
  | true =>
    -- the one store goes to the reserved slot, and no name is bound to it
    obtain ⟨only, scope, old, v, slot, rfl, slots⟩ := redeclares redeclared
    refine ⟨_, v, .slot slot, rfl, by rw [stores, lengths], ?_, ?_⟩
    · simp [writeFor, stores, only]
    · rw [if_pos rfl]
      exact ⟨scope, old, slot, rfl, slots⟩
  | false =>
    have kept := keeps redeclared
    rw [← stores] at kept
    obtain ⟨v, place, w, written, means, last, alone⟩ := writeFor_of_forall₂ kept given
    refine ⟨_, v, place, rfl, by rw [stores, lengths], written, ?_⟩
    rw [if_neg Bool.false_ne_true]
    refine ⟨⟨means, lowerExpr_ident means, fun handler before after ran => ?_⟩, fun only => ?_⟩
    · obtain ⟨between, -, stored⟩ := executeAll_append_eq_ok ran
      have held : lastWrite (writing pairs) place.text = some w := by
        rw [← last, lastWrite, lastWrite, stores, writes_writing]
      refine ⟨w, _, last, executeAll_writing stored held, ?_⟩
      rw [executeAll_append_of_ok ran]
      rfl
    · rw [last, alone only]

/-- Where only `x` is bound, `y, x, y := 1, 2, 3` declares `y` once and stores to it twice. -/
theorem lowerStmt_readBack_defineBoth :
    Stmt.redeclares insideFunction.scope defineBoth = false
      ∧ ∃ t, lowerStmt defineBoth insideFunction = .ok () t
        ∧ ∃ code v place, t.lines = insideFunction.lines ++ straight code
          ∧ (writes code).length = 3
          ∧ writeFor defineBoth.given code (.ofText "y") = some (v, place)
          ∧ ReadBack code t (.ofText "y") place
          ∧ (KeptAlone t.scope defineBoth.given (.ofText "y") place.text →
              lastWrite code place.text = some v) := by
  have accepted : Lower.succeeds (lowerStmt defineBoth insideFunction) = true := by decide +kernel
  have given : Name.ofText "y" ∈ defineBoth.given := by decide
  obtain ⟨u, t, ran⟩ := Lower.exists_of_succeeds accepted
  obtain ⟨code, v, place, lines, lengths, written, rest⟩ := lowerStmt_readBack ran given
  exact ⟨rfl, t, ran, code, v, place, lines, lengths, written, rest⟩

/-- `var x = 2`. -/
def secondX : Stmt :=
  .varDecl (.offset 9) (.ofText "x") (some (.number (.offset 13) (.ok 2)))

/-- A state with two names at one address. -/
def sharedAddress : State where
  scope := [Frame.ofList [(.text "x", .symbol "@g"), (.text "y", .symbol "@g")]]

/-- `x, y = 1, 2`. -/
def assignShared : Stmt :=
  .assign (.offset 1) (.known .assign)
    (.ok [.ok ⟨.offset 1, .ofText "x"⟩, .ok ⟨.offset 2, .ofText "y"⟩])
    (.ok [.number (.offset 3) (.ok 1), .number (.offset 4) (.ok 2)])

/-- The code of `x, y = 1, 2` there. -/
def sharedStores : List Instr :=
  [.arith 0 .add (.const 0) (.const 1), .arith 1 .add (.const 0) (.const 2),
    .store (.temp 0) (.symbol "@g"), .store (.temp 1) (.symbol "@g")]

/-- A name that is redeclared is not read from where it was stored, and a name that shares its
address is not read as what was stored for it. -/
theorem redeclared_and_shared_not_readBack :
    (∃ t, lowerStmt secondX insideFunction = .ok () t
        ∧ t.lines = insideFunction.lines ++ straight [.arith 3 .add (.const 0) (.const 2),
            .store (.temp 3) (.slot ⟨"x", .offset 9, none⟩)]
        ∧ Means t.scope (.ofText "x") (.slot ⟨"x", .offset 1, none⟩)
        ∧ (⟨"x", .offset 1, none⟩ : Slot).text ≠ (⟨"x", .offset 9, none⟩ : Slot).text)
      ∧ ∃ t, lowerStmt assignShared sharedAddress = .ok () t
        ∧ t.lines = straight sharedStores
        ∧ writeFor assignShared.given sharedStores (.ofText "x") = some (.temp 0, .symbol "@g")
        ∧ Means t.scope (.ofText "x") (.symbol "@g")
        ∧ lastWrite sharedStores "@g" = some (.temp 1) := by
  constructor
  · have reaches : Lower.reaches (fun t => decide (t.lines = insideFunction.lines ++ straight
          [.arith 3 .add (.const 0) (.const 2), .store (.temp 3) (.slot ⟨"x", .offset 9, none⟩)])
        && decide (Chain.find? t.scope (.text "x") = some (.slot ⟨"x", .offset 1, none⟩)))
        (lowerStmt secondX insideFunction) = true := by
      decide +kernel
    obtain ⟨u, t, ran, holds⟩ := Lower.exists_of_reaches reaches
    rw [Bool.and_eq_true, decide_eq_true_eq, decide_eq_true_eq] at holds
    exact ⟨t, ran, holds.1, ⟨_, rfl, holds.2⟩, by decide +kernel⟩
  · have reaches : Lower.reaches (fun t => decide (t.lines = straight sharedStores)
        && decide (Chain.find? t.scope (.text "x") = some (.symbol "@g")))
        (lowerStmt assignShared sharedAddress) = true := by
      decide +kernel
    obtain ⟨u, t, ran, holds⟩ := Lower.exists_of_reaches reaches
    rw [Bool.and_eq_true, decide_eq_true_eq, decide_eq_true_eq] at holds
    exact ⟨t, ran, holds.1, by decide +kernel, ⟨_, rfl, holds.2⟩, by decide +kernel⟩

end SlotIR
