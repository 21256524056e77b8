/-
  SlotIR.Proofs.Flow.Initialised
  ──────────────────────────────
  **NO LOCAL VARIABLE IS READ BEFORE IT IS WRITTEN.**

  Slots are reserved without a value.  That each is written before it is
  read rests on one invariant of lowering: WHATEVER SLOT A NAME IS BOUND
  TO IS STORED, since a declaration binds its name together with the first
  store (`Code.storesBound`).  For a loop this gives the table of its
  labels:

      for.init              what was bound before the loop
      for.cond, for.body,   that, and what the initial statement declares;
      for.end               the frames of the rounds are left again, and
                            with them what the body declares

  A round can only add stores, so the branch back to `for.cond` agrees
  with the table as well (`StoresBound.loop`).  Main result:
  `generate_loads_after_stores`.
-/
import Mathlib.Data.List.Nodup
import SlotIR.Proofs.Emission.Assignment
import SlotIR.Proofs.Flow.Paths
import SlotIR.Proofs.Structure.Naming

namespace SlotIR

/-! ## §1. Slots that are bound. -/

/-- The slots that names are bound to, also where an inner frame hides them. -/
def boundSlots (scope : Chain Key Storage) : Set Slot := {slot | .slot slot ∈ Chain.values scope}

theorem Means.boundSlots {scope : Chain Key Storage} {name : Name} {slot : Slot}
    (h : Means scope name (.slot slot)) : slot ∈ SlotIR.boundSlots scope := h.mem_values

/-- A new variable binds its slot and no other. -/
theorem Local.boundSlots_subset {σ τ : Layout} {name : Name} {pos : Pos} {slot : Slot}
    (h : Local σ name pos slot τ) : boundSlots τ.scope ⊆ boundSlots σ.scope ∪ {slot} := by
  cases h with
  | intro =>
    intro other bound
    rcases Chain.values_declare bound with old | new
    · exact .inl old
    · cases new
      exact .inr rfl

/-- A frame that is left takes bindings away and adds none. -/
theorem boundSlots_leave (σ : Layout) : boundSlots σ.leave.scope ⊆ boundSlots σ.scope := by
  intro slot bound
  show Storage.slot slot ∈ Chain.values σ.scope
  have outer : Storage.slot slot ∈ Chain.values σ.scope.tail := bound
  cases frames : σ.scope with
  | nil =>
    rw [frames] at outer
    cases outer
  | cons frame rest =>
    rw [frames] at outer
    exact List.mem_append_right _ outer

theorem Code.boundSlots_subset {σ τ : Layout} {piece : Piece} {code : List Line}
    (h : Code σ piece code τ) : boundSlots σ.scope ⊆ boundSlots τ.scope :=
  fun slot bound => h.values_subset (.slot slot) bound

/-! ## §2. Expressions. -/

/-- The slots that instructions load are among the given ones. -/
def LoadsFrom (W : Set Slot) (code : List Instr) : Prop :=
  ∀ i ∈ code, ∀ slot, i.loaded? = some slot → slot ∈ W

section

variable {E : Nat → Set Slot} {W : Set Slot} {scope : Chain Key Storage}

theorem LoadsFrom.nil : LoadsFrom W [] := fun _ member => by cases member

theorem LoadsFrom.append {c d : List Instr} (first : LoadsFrom W c) (second : LoadsFrom W d) :
    LoadsFrom W (c ++ d) := by
  intro i member
  rcases List.mem_append.1 member with here | there
  · exact first i here
  · exact second i there

/-- An instruction that loads nothing from a slot. -/
theorem LoadsFrom.one {i : Instr} (none : i.loaded? = none) : LoadsFrom W [i] := by
  intro j member slot loads
  rw [List.mem_singleton.1 member, none] at loads
  cases loads

theorem LoadsFrom.mono {V : Set Slot} {code : List Instr} (h : LoadsFrom V code)
    (subset : V ⊆ W) : LoadsFrom W code :=
  fun i member slot loads => subset (h i member slot loads)

/-- An expression loads slots that names are bound to. -/
theorem ExprCode.loadsFrom {n m d : Nat} {e : Expr} {code : List Instr}
    (h : ExprCode scope n e code d m) : LoadsFrom (boundSlots scope) code := by
  induction h with
  | ident means =>
    intro i member slot loads
    rw [List.mem_singleton.1 member] at loads
    unfold Instr.loaded? at loads
    split at loads
    · rename_i same
      cases same
      cases loads
      exact means.boundSlots
    · cases loads
  | number => exact .one rfl
  | arith _ _ ihLeft ihRight => exact (ihLeft.append ihRight).append (.one rfl)
  | compare _ _ ihLeft ihRight =>
    exact (ihLeft.append ihRight).append ((LoadsFrom.one rfl).append (.one rfl))
  | minus _ ih => exact ih.append (.one rfl)
  | plus _ ih => exact ih
  | paren _ ih => exact ih
  | call _ _ ih => exact ih.append (.one rfl)

theorem ExprsCode.loadsFrom {n m : Nat} {es : List Expr} {code : List Instr} {ds : List Nat}
    (h : ExprsCode scope n es code ds m) : LoadsFrom (boundSlots scope) code := by
  induction h with
  | nil => exact .nil
  | cons first _ ih => exact first.loadsFrom.append ih

theorem InitialCode.loadsFrom {n m : Nat} {value : Option Expr} {code : List Instr} {v : Operand}
    (h : InitialCode scope n value code v m) : LoadsFrom (boundSlots scope) code := by
  cases h with
  | zero => exact .nil
  | value code => exact code.loadsFrom

theorem Stores.loadsFrom {pairs : List (Reading Ident × Nat)} {code : List Instr}
    (h : Stores scope pairs code) : LoadsFrom W code := by
  induction h with
  | nil => exact .nil
  | cons _ _ ih => exact (LoadsFrom.one rfl).append ih

theorem InitialsCode.loadsFrom {n m : Nat} {globals : List (Reading GlobalEntry)}
    {code : List Instr} (h : InitialsCode scope n globals code m) :
    LoadsFrom (boundSlots scope) code := by
  induction h with
  | nil => exact .nil
  | cons _ code _ _ ih => exact code.loadsFrom.append ((LoadsFrom.one rfl).append ih)

/-- Instructions that branch nowhere agree with every table. -/
theorem LoadsFrom.flows {code : List Instr} (h : LoadsFrom W code) (goes : targets code = []) :
    Flows E W (straight code) := by
  induction code generalizing W with
  | nil => trivial
  | cons i rest ih =>
    obtain ⟨stays, staysLater⟩ :=
      List.append_eq_nil_iff.1 (show i.targets ++ targets rest = [] from goes)
    have later : LoadsFrom W rest := fun j member => h j (List.mem_cons_of_mem _ member)
    refine ⟨h i List.mem_cons_self, ?_, ih (later.mono Set.subset_union_left) staysLater⟩
    rw [stays]
    intro target member
    cases member

/-- A branch agrees with the table if all that its labels take as stored is. -/
theorem flows_branch {i : Instr} (none : i.loaded? = none)
    (goes : ∀ target ∈ i.targets, E target.number ⊆ W) : Flows E W (straight [i]) := by
  refine ⟨fun slot loads => ?_, goes, trivial⟩
  rw [none] at loads
  cases loads

theorem flows_jump {target : Label} (goes : E target.number ⊆ W) :
    Flows E W (straight [.jump target]) := by
  refine flows_branch rfl fun l member => ?_
  rw [List.mem_singleton.1 member]
  exact goes

/-- The test of a loop agrees with a table in which no more is stored at its labels than is
bound. -/
theorem TestCode.flows {labels : LoopLabels} {n m : Nat} {cond : Option Expr} {code : List Instr}
    (h : TestCode scope labels n cond code m) (body : E labels.body.number ⊆ boundSlots scope)
    (done : E labels.done.number ⊆ boundSlots scope) :
    Flows E (boundSlots scope) (straight code) := by
  cases h with
  | always => exact flows_jump body
  | @value m d e c code =>
    have split : c ++ [Instr.compare m .ne (.temp d) (.const 0),
        .branch m labels.body labels.done]
        = (c ++ [.compare m .ne (.temp d) (.const 0)])
          ++ [.branch m labels.body labels.done] := by
      simp
    have plain := code.plain.append (Plain.one (i := .compare m .ne (.temp d) (.const 0)) rfl)
    rw [split, straight_append, flows_append, storedAfter_straight]
    refine ⟨(code.loadsFrom.append (.one rfl)).flows plain.targets,
      flows_branch rfl fun target member => ?_⟩
    rcases List.mem_cons.1 member with rfl | last
    · exact body.trans Set.subset_union_left
    · rw [List.mem_singleton.1 last]
      exact done.trans Set.subset_union_left

/-! ## §3. Statements. -/

/-- Each target that is declared is stored to. -/
theorem Assigns.boundSlots_subset {op : AssignOp} {σ τ : Layout} {targets : List (Reading Ident)}
    {ds : List Nat} {code : List Instr} (h : Assigns op σ targets ds code τ) :
    boundSlots τ.scope ⊆ boundSlots σ.scope ∪ stored code := by
  induction h with
  | nil => exact Set.subset_union_left
  | visible _ _ ih =>
    rw [stored_cons]
    exact ih.trans (Set.union_subset_union_right _ Set.subset_union_right)
  | @fresh _ _ _ _ _ _ _ d slot _ new _ ih =>
    have first : {slot} ⊆ {s | (Instr.store (.temp d) (.slot slot)).stored? = some s} := by
      rintro s rfl
      rfl
    rw [stored_cons, ← Set.union_assoc]
    exact ih.trans (Set.union_subset_union_left _
      (new.boundSlots_subset.trans (Set.union_subset_union_right _ first)))

theorem flows_seam {target : Label} (goes : E target.number ⊆ W) (next : Label) :
    Flows E W (seam (.jump target) next) := by
  have jump : Flows E W (straight [.jump target]) := flows_jump goes
  exact ⟨jump.1, jump.2.1, trivial⟩

/-- A loop agrees with a table if its parts do, and a round takes nothing away that is taken as
stored where the test begins. -/
theorem flows_loopLines (labels : LoopLabels) {init body post : List Line} {test : List Instr}
    {first rounds : Set Slot} (before : first ⊆ W) (atInit : E labels.init.number = first)
    (atCond : E labels.cond.number = rounds) (atBody : E labels.body.number = rounds)
    (atDone : E labels.done.number = rounds)
    (start : Flows E first init ∧ rounds ⊆ storedAfter E first init)
    (tested : Flows E rounds (straight test)) (round : Flows E rounds body)
    (last : Flows E (storedAfter E rounds body) post
      ∧ rounds ⊆ storedAfter E (storedAfter E rounds body) post) :
    Flows E W (loopLines labels init test body post)
      ∧ storedAfter E W (loopLines labels init test body post) = rounds := by
  have enter (V : Set Slot) : storedAfter E V [.blank, .label labels.body] = rounds := atBody
  have opens (V : Set Slot) : Flows E V [.blank, .label labels.body] := trivial
  have next (V : Set Slot) (i : Instr) (l : Label) :
      storedAfter E V (seam i l) = E l.number := rfl
  -- the four branches in the order of the lines
  have toInit : Flows E W (seam (.jump labels.init) labels.init) :=
    flows_seam (by rw [atInit]; exact before) _
  have toCond : Flows E (storedAfter E first init) (seam (.jump labels.cond) labels.cond) :=
    flows_seam (by rw [atCond]; exact start.2) _
  have back : Flows E (storedAfter E (storedAfter E rounds body) post)
      (seam (.jump labels.cond) labels.done) :=
    flows_seam (by rw [atCond]; exact last.2) _
  simp only [loopLines, flows_append, storedAfter_append, next, enter, atInit, atCond, atDone]
  exact ⟨⟨toInit, start.1, toCond, tested, opens _, round, last.1, back⟩, trivial⟩

/-- A table of slots by the numbers of the labels of code. -/
def IsTable (code : List Line) (table : List (Nat × Set Slot)) : Prop :=
  table.map Prod.fst = (labels code).map Label.number

/-- Some table of the code is such that, if whatever is bound before is stored, the code agrees with
the table and whatever is bound after it is stored. -/
def StoresBound (scope scope' : Chain Key Storage) (code : List Line) : Prop :=
  ∃ table, IsTable code table ∧ ∀ E : Nat → Set Slot, (∀ entry ∈ table, E entry.1 = entry.2) →
    ∀ W, boundSlots scope ⊆ W → Flows E W code ∧ boundSlots scope' ⊆ storedAfter E W code

theorem StoresBound.straight {scope' : Chain Key Storage} {code : List Instr}
    (loads : LoadsFrom (boundSlots scope) code) (goes : targets code = [])
    (stores : boundSlots scope' ⊆ boundSlots scope ∪ stored code) :
    StoresBound scope scope' (straight code) := by
  refine ⟨[], by simp [IsTable], fun E _ W bound => ⟨(loads.mono bound).flows goes, ?_⟩⟩
  rw [storedAfter_straight]
  exact stores.trans (Set.union_subset_union_left _ bound)

theorem StoresBound.nil : StoresBound scope scope [] :=
  ⟨[], rfl, fun _ _ _ bound => ⟨trivial, bound⟩⟩

/-- Bindings may be forgotten. -/
theorem StoresBound.mono {scope' scope'' : Chain Key Storage} {code : List Line}
    (h : StoresBound scope scope' code) (fewer : boundSlots scope'' ⊆ boundSlots scope') :
    StoresBound scope scope'' code := by
  obtain ⟨table, keys, flows⟩ := h
  refine ⟨table, keys, fun E agrees W bound => ?_⟩
  obtain ⟨inside, after⟩ := flows E agrees W bound
  exact ⟨inside, fewer.trans after⟩

theorem StoresBound.append {between scope' : Chain Key Storage} {c d : List Line}
    (first : StoresBound scope between c) (second : StoresBound between scope' d) :
    StoresBound scope scope' (c ++ d) := by
  obtain ⟨table, keys, flows⟩ := first
  obtain ⟨others, keysOthers, flowsOthers⟩ := second
  refine ⟨table ++ others, ?_, fun E agrees W bound => ?_⟩
  · unfold IsTable at *
    simp [keys, keysOthers]
  obtain ⟨here, stored⟩ :=
    flows E (fun entry member => agrees entry (List.mem_append_left _ member)) W bound
  obtain ⟨later, after⟩ :=
    flowsOthers E (fun entry member => agrees entry (List.mem_append_right _ member)) _ stored
  rw [flows_append, storedAfter_append]
  exact ⟨⟨here, later⟩, after⟩

/-- At the labels of a loop but the first, what the initial statement declares is stored as well.  A
round leaves bound what was bound before it. -/
theorem StoresBound.loop {rounds after : Chain Key Storage} {labels : LoopLabels}
    {init body post : List Line} {cond : Option Expr} {test : List Instr} {n m : Nat}
    (start : StoresBound scope rounds init) (tested : TestCode rounds labels n cond test m)
    (round : StoresBound rounds rounds body) (last : StoresBound rounds after post)
    (kept : boundSlots rounds ⊆ boundSlots after) :
    StoresBound scope rounds (loopLines labels init test body post) := by
  obtain ⟨tableInit, keysInit, flowsInit⟩ := start
  obtain ⟨tableBody, keysBody, flowsBody⟩ := round
  obtain ⟨tablePost, keysPost, flowsPost⟩ := last
  refine ⟨(labels.init.number, boundSlots scope) :: tableInit
    ++ [(labels.cond.number, boundSlots rounds), (labels.body.number, boundSlots rounds)]
    ++ tableBody ++ tablePost ++ [(labels.done.number, boundSlots rounds)], ?_,
    fun E agrees W bound => ?_⟩
  · unfold IsTable at *
    simp [loopLines, seam, keysInit, keysBody, keysPost]
  simp only [List.mem_append, List.mem_cons, List.not_mem_nil, or_false] at agrees
  have atInit := agrees (labels.init.number, boundSlots scope) (by simp)
  have atCond := agrees (labels.cond.number, boundSlots rounds) (by simp)
  have atBody := agrees (labels.body.number, boundSlots rounds) (by simp)
  have atDone := agrees (labels.done.number, boundSlots rounds) (by simp)
  have first := flowsInit E (fun entry member => agrees entry (by simp [member])) _ Set.Subset.rfl
  obtain ⟨inside, afterBody⟩ :=
    flowsBody E (fun entry member => agrees entry (by simp [member])) _ Set.Subset.rfl
  obtain ⟨post, afterPost⟩ :=
    flowsPost E (fun entry member => agrees entry (by simp [member])) _ afterBody
  obtain ⟨all, ends⟩ := flows_loopLines labels bound atInit atCond atBody atDone first
    (tested.flows atBody.subset atDone.subset) inside ⟨post, kept.trans afterPost⟩
  exact ⟨all, ends.superset⟩

/-- **Lines in the order of their emission keep stored whatever is bound.** -/
theorem Code.storesBound {σ τ : Layout} {piece : Piece} {code : List Line}
    (h : Code σ piece code τ) : StoresBound σ.scope τ.scope code := by
  induction h with
  | @varDecl σ _ _ _ _ _ v _ slot initial new =>
    have plain := initial.plain.append (Plain.one (i := .store v (.slot slot)) rfl)
    have own : {slot} ⊆ stored [.store v (.slot slot)] := by
      rintro s rfl
      exact ⟨_, List.mem_singleton.2 rfl, rfl⟩
    refine .straight (initial.loadsFrom.append (.one rfl)) plain.targets ?_
    rw [stored_append]
    exact new.boundSlots_subset.trans
      (Set.union_subset_union_right _ (own.trans Set.subset_union_right))
  | assign lengths evaluates prepares stores =>
    have plain := evaluates.plain.append stores.plain
    have assigns := prepares.assigns stores (evaluates.length_eq.trans lengths.symm)
    refine .straight (evaluates.loadsFrom.append stores.loadsFrom) plain.targets ?_
    rw [stored_append]
    exact assigns.boundSlots_subset.trans
      (Set.union_subset_union_right _ Set.subset_union_right)
  | @block _ τ _ _ _ _ ih => exact ih.mono (boundSlots_leave τ)
  | @loop σ ρ ω _ _ _ _ _ _ _ _ _ _ _ initial test inner final ihInit ihBody ihPost =>
    -- after a round the names have the meaning that they had before it
    have around : ω.leave.scope = ρ.scope := inner.scope_leave
    have round := ihBody.mono (boundSlots_leave ω)
    have kept := final.boundSlots_subset
    rw [around] at round ihPost kept
    rw [Code.scope_loop initial inner final]
    exact (StoresBound.loop ihInit test round ihPost kept).mono initial.boundSlots_subset
  | expr code =>
    exact .straight code.loadsFrom code.plain.targets Set.subset_union_left
  | absent => exact .nil
  | present _ ih => exact ih
  | nil => exact .nil
  | cons _ _ ihFirst ihOthers => exact ihFirst.append ihOthers

end

/-! ## §4. Functions. -/

/-- In the body of a function, loads come after stores. -/
theorem Code.loadsAfterStores {symbol : String} {σ τ : Layout} {piece : Piece} {code : List Line}
    (h : Code σ piece code τ) (unbound : boundSlots σ.scope = ∅) (slots : List Slot) :
    LoadsAfterStores ⟨symbol, functionBody slots code⟩ := by
  obtain ⟨table, keys, flows⟩ := h.storesBound
  -- the numbers of labels are drawn once, so the table is that of a function
  have distinct : (table.map Prod.fst).Nodup := by
    obtain ⟨new, -, draws⟩ := h.draws
    rw [keys, List.nodup_iff_count_le_one]
    intro i
    have drawn_once := draws.count_le_one i
    have labels_le := count_label_numbers_le code i
    rw [List.count_append] at drawn_once
    omega
  obtain ⟨E, agrees⟩ := exists_function_of_nodup distinct
  have allocas : LoadsFrom ∅ (slots.map Instr.alloca) := by
    intro i member slot loads
    obtain ⟨s, -, rfl⟩ := List.mem_map.1 member
    cases loads
  have goes : targets (slots.map Instr.alloca) = [] :=
    List.flatMap_eq_nil_iff.2 fun i member => by
      obtain ⟨slot, -, rfl⟩ := List.mem_map.1 member
      rfl
  refine Flows.loadsAfterStores (E := E) ?_
  show Flows E ∅ (straight (slots.map .alloca) ++ code ++ [.instr .ret])
  rw [flows_append, flows_append]
  have bound : boundSlots σ.scope ⊆ storedAfter E ∅ (straight (slots.map .alloca)) := by
    rw [unbound]
    exact Set.empty_subset _
  refine ⟨⟨allocas.flows goes, (flows E agrees _ bound).1⟩, ?_⟩
  exact flows_branch rfl fun target member => by cases member

/-- Straight code that loads from no slot. -/
theorem LoadsFrom.loadsAfterStores {symbol : String} {code : List Instr} (h : LoadsFrom ∅ code)
    (goes : targets code = []) :
    LoadsAfterStores ⟨symbol, straight code ++ [.instr .ret]⟩ := by
  refine Flows.loadsAfterStores (E := fun _ => ∅) ?_
  show Flows _ ∅ (straight code ++ straight [.ret])
  rw [flows_append]
  exact ⟨h.flows goes, flows_branch rfl fun target member => by cases member⟩

/-- The names of a package are bound to no slots. -/
theorem Binds.boundSlots {σ τ : Layout} {name : Name} {symbol : String}
    (h : Binds σ name symbol τ) (unbound : SlotIR.boundSlots σ.scope = ∅) :
    SlotIR.boundSlots τ.scope = ∅ := by
  refine Set.eq_empty_iff_forall_notMem.2 fun slot bound => ?_
  cases h with
  | intro =>
    rcases Chain.values_declare bound with old | new
    · exact Set.eq_empty_iff_forall_notMem.1 unbound slot old
    · cases new

theorem GlobalsCode.boundSlots {options : Options} {package : String} {σ τ : Layout}
    {globals : List (Reading GlobalEntry)} {code : List Line}
    (h : GlobalsCode options package σ globals code τ)
    (unbound : SlotIR.boundSlots σ.scope = ∅) : SlotIR.boundSlots τ.scope = ∅ := by
  induction h with
  | nil => exact unbound
  | cons binds _ ih => exact ih (binds.boundSlots unbound)

theorem FunctionsCode.loadsAfterStores {options : Options} {package : String} {σ τ : Layout}
    {funcs : List (Reading FuncEntry)} {code : List Line}
    (h : FunctionsCode options package σ funcs code τ) (unbound : boundSlots σ.scope = ∅) :
    (∀ d ∈ definitions code, LoadsAfterStores d) ∧ boundSlots τ.scope = ∅ := by
  induction h with
  | nil => exact ⟨fun d member => (by cases member), unbound⟩
  | external binds _ _ ih => exact ih (binds.boundSlots unbound)
  | @defined _ ρ ω _ _ _ _ _ _ binds _ inner _ ih =>
    have bound := binds.boundSlots unbound
    have after : ω.leave.scope = ρ.scope := inner.tail_scope
    obtain ⟨others, afterAll⟩ := ih (by rw [after]; exact bound)
    rw [definitions_definitionLines inner.bodyLines]
    refine ⟨fun d member => ?_, afterAll⟩
    rcases List.mem_cons.1 member with rfl | later
    · exact inner.loadsAfterStores bound _
    · exact others d later

/-! ## §5. Modules. -/

theorem ModuleCode.loadsAfterStores {options : Options} {file : SourceFile} {slots : List Slot}
    {lines : List Line} {n : Nat} (h : ModuleCode options file slots lines n) :
    ∀ d ∈ definitions (expandLines lines), LoadsAfterStores d := by
  cases h with
  | @intro _ _ due _ _ _ _ _ _ _ _ globalVars functions initialises _ =>
    have builtins : boundSlots [Frame.empty, builtinFrame] = ∅ := by
      refine Set.eq_empty_iff_forall_notMem.2 fun slot bound => ?_
      have symbols : ∀ place ∈ Chain.values [Frame.empty, builtinFrame], place ≠ .slot slot := by
        intro place member
        have known := knownSymbols_builtins (fun _ here => here) place member
        rintro rfl
        cases known
      exact symbols _ bound rfl
    obtain ⟨routines, unbound⟩ := functions.loadsAfterStores (globalVars.boundSlots builtins)
    rw [expandLines_module globalVars functions, definitions_module globalVars functions,
      definitions_expandLines_entryLine]
    intro d member
    rcases List.mem_append.1 member with func | others
    · exact routines d func
    · rcases List.mem_cons.1 others with rfl | entry
      · have loads := initialises.loadsFrom
        rw [unbound] at loads
        exact loads.loadsAfterStores initialises.plain.targets
      · cases due with
        | false => cases entry
        | true =>
          rw [List.mem_singleton.1 entry]
          have calls : LoadsFrom ∅ [Instr.invoke (options.symbol file.package.text "init"),
              .invoke (options.symbol file.package.text "main")] :=
            (LoadsFrom.one (i := .invoke _) rfl).append (.one rfl)
          exact calls.loadsAfterStores rfl

/-- **In an emitted module, no slot is loaded before it is stored to**, on whatever path control
comes from the entry of its function to the load. -/
theorem generate_loads_after_stores (options : Options) (file : SourceFile) {s t : State}
    {text : String} (h : generate options file s = .ok text t) :
    text = moduleText (expandLines t.lines)
      ∧ ∀ d ∈ definitions (expandLines t.lines), LoadsAfterStores d := by
  obtain ⟨shown, emitted⟩ := generate_sound h
  rw [moduleText_expandLines]
  exact ⟨shown, emitted.loadsAfterStores⟩

/-- A loop whose variable is read in its test, in an inner loop without a condition and in the post
statement, while the body declares another variable of its name. -/
def rereadingLoop : SourceFile where
  pos := .offset 0
  package := .ofText "main"
  globals := .ok []
  funcs := .ok
    [.ok ⟨.offset 1, "FuncDecl", .ofText "main", .ok (.stmts (.ok
      [.loop (.offset 2)
        (.block (.offset 3) (.ok
          [.assign (.offset 4) (.known .define)
            (.ok [.ok ⟨.offset 4, .ofText "i"⟩, .ok ⟨.offset 5, .ofText "j"⟩])
            (.ok [.number (.offset 6) (.ok 1), .ident ⟨.offset 7, .ofText "i"⟩]),
           .varDecl (.offset 8) (.ofText "i") (some (.ident ⟨.offset 9, .ofText "j"⟩)),
           .loop (.offset 10)
            (.exprStmt (.offset 11) (.ident ⟨.offset 11, .ofText "i"⟩)) none none none]))
        (some (.varDecl (.offset 12) (.ofText "i") none))
        (some (.ident ⟨.offset 13, .ofText "i"⟩))
        (some (.assign (.offset 14) (.known .assign) (.ok [.ok ⟨.offset 14, .ofText "i"⟩])
          (.ok [.ident ⟨.offset 15, .ofText "i"⟩])))]))⟩]

theorem generate_loads_after_stores_rereadingLoop :
    ∃ text t, generate {} rereadingLoop {} = .ok text t
      ∧ text = moduleText (expandLines t.lines)
      ∧ ∀ d ∈ definitions (expandLines t.lines), LoadsAfterStores d := by
  have accepted : Lower.succeeds (generate {} rereadingLoop {}) = true := by decide +kernel
  obtain ⟨text, t, ran⟩ := Lower.exists_of_succeeds accepted
  exact ⟨text, t, ran, generate_loads_after_stores {} rereadingLoop ran⟩

end SlotIR
