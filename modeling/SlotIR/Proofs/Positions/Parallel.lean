/-
  SlotIR.Proofs.Positions.Parallel
  ────────────────────────────────
  **TWO PIECES OF CODE IN PARALLEL.**

  Code of a tree and code of the same tree without positions are emitted
  side by side.  They draw different numbers, as a slot takes one only if
  its position does not tell it apart; but they define their names in the
  same order.  So there is a TABLE of names, each entry a name of the one
  and its counterpart in the other, and by every relation that holds of the
  entries the lines are alike (`Parallel`).

  A name of the program means corresponding places on both sides
  (`SamePlace`), which are slots that the table pairs or the same symbol.
-/
import SlotIR.Proofs.Positions.Erasure
import SlotIR.Proofs.Positions.Renaming
import SlotIR.Proofs.Emission.Assignment
import SlotIR.Proofs.Structure.Naming

namespace SlotIR

/-! ## §1. Tables of names. -/

/-- Names of the one side with their counterparts on the other. -/
abbrev NameTable := List (String × String)

/-- The relation holds of the entries. -/
def Holds (R : String → String → Prop) (table : NameTable) : Prop :=
  ∀ entry ∈ table, R entry.1 entry.2

/-- The table lists the names that the lines define, and the lines are alike by what holds of its
entries and of the slots. -/
structure Parallel (slots table : NameTable) (code code' : List Line) : Prop where
  names : table.map Prod.fst = definedNames code
  names' : table.map Prod.snd = definedNames code'
  alike : ∀ R, Holds R table → Holds R slots → List.Forall₂ (Line.Alike R) code code'

/-- The places correspond. -/
inductive SamePlace (slots : NameTable) : Storage → Storage → Prop
  | slot {s s' : Slot} (paired : (s.text, s'.text) ∈ slots) : SamePlace slots (.slot s) (.slot s')
  | symbol (text : String) : SamePlace slots (.symbol text) (.symbol text)

section

variable {R : String → String → Prop} {slots table : NameTable}

@[simp] theorem holds_append (a b : NameTable) : Holds R (a ++ b) ↔ Holds R a ∧ Holds R b := by
  unfold Holds
  exact List.forall_mem_append

@[simp] theorem holds_cons (entry : String × String) (rest : NameTable) :
    Holds R (entry :: rest) ↔ R entry.1 entry.2 ∧ Holds R rest := by
  unfold Holds
  exact List.forall_mem_cons

@[simp] theorem holds_nil : Holds R [] := fun _ member => by cases member

theorem SamePlace.mono {more : NameTable} {place place' : Storage}
    (h : SamePlace slots place place') (subset : ∀ entry ∈ slots, entry ∈ more) :
    SamePlace more place place' := by
  cases h with
  | slot paired => exact .slot (subset _ paired)
  | symbol text => exact .symbol text

theorem SamePlace.token {place place' : Storage} (h : SamePlace slots place place')
    (holds : Holds R slots) : Token.Alike R place.token place'.token := by
  cases h with
  | slot paired => exact .name (holds _ paired)
  | symbol text => exact .plain text

theorem Parallel.nil : Parallel slots [] [] [] := ⟨rfl, rfl, fun _ _ _ => .nil⟩

theorem Parallel.append {table table' : NameTable} {c c' d d' : List Line}
    (first : Parallel slots table c c') (second : Parallel slots table' d d') :
    Parallel slots (table ++ table') (c ++ d) (c' ++ d') where
  names := by rw [List.map_append, first.names, second.names, definedNames_append]
  names' := by rw [List.map_append, first.names', second.names', definedNames_append]
  alike := by
    intro R own used
    rw [holds_append] at own
    exact List.rel_append (first.alike R own.1 used) (second.alike R own.2 used)

/-- The lines that follow may use the names that are defined before them. -/
theorem Parallel.snoc {table table' : NameTable} {c c' d d' : List Line}
    (first : Parallel slots table c c') (second : Parallel (slots ++ table) table' d d') :
    Parallel slots (table ++ table') (c ++ d) (c' ++ d') where
  names := by rw [List.map_append, first.names, second.names, definedNames_append]
  names' := by rw [List.map_append, first.names', second.names', definedNames_append]
  alike := by
    intro R own used
    rw [holds_append] at own
    exact List.rel_append (first.alike R own.1 used)
      (second.alike R own.2 ((holds_append _ _).2 ⟨used, own.1⟩))

/-- Names that are paired with more of the slots are still paired. -/
theorem Parallel.mono {more : NameTable} {c c' : List Line} (h : Parallel slots table c c')
    (subset : ∀ entry ∈ slots, entry ∈ more) : Parallel more table c c' where
  names := h.names
  names' := h.names'
  alike R own used := h.alike R own fun entry member => used entry (subset entry member)

/-- Names that the lines define themselves need not be given. -/
theorem Parallel.close {used : NameTable} {c c' : List Line} (h : Parallel used table c c')
    (known : ∀ entry ∈ used, entry ∈ slots ∨ entry ∈ table) : Parallel slots table c c' where
  names := h.names
  names' := h.names'
  alike R own outer :=
    h.alike R own fun entry member => (known entry member).elim (outer entry) (own entry)

/-! ## §2. Instructions. -/

theorem Line.Alike.load {n n' : Nat} {place place' : Storage}
    (dst : R (tempText n) (tempText n')) (source : Token.Alike R place.token place'.token) :
    Line.Alike R (.instr (.load n place)) (.instr (.load n' place')) :=
  .cons (.plain _) (.cons (.name dst) (.cons (.plain _) (.cons source (.cons (.plain _) .nil))))

theorem Line.Alike.arith {n n' : Nat} {op : ArithOp} {l l' r r' : Operand}
    (dst : R (tempText n) (tempText n')) (left : Token.Alike R l.token l'.token)
    (right : Token.Alike R r.token r'.token) :
    Line.Alike R (.instr (.arith n op l r)) (.instr (.arith n' op l' r')) :=
  .cons (.plain _) (.cons (.name dst) (.cons (.plain _) (.cons left (.cons (.plain _)
    (.cons right .nil)))))

theorem Line.Alike.compare {n n' : Nat} {op : CompareOp} {l l' r r' : Operand}
    (dst : R (tempText n) (tempText n')) (left : Token.Alike R l.token l'.token)
    (right : Token.Alike R r.token r'.token) :
    Line.Alike R (.instr (.compare n op l r)) (.instr (.compare n' op l' r')) :=
  .cons (.plain _) (.cons (.name dst) (.cons (.plain _) (.cons left (.cons (.plain _)
    (.cons right .nil)))))

theorem Line.Alike.widen {n n' k k' : Nat} (dst : R (tempText n) (tempText n'))
    (flag : R (tempText k) (tempText k')) :
    Line.Alike R (.instr (.widen n k)) (.instr (.widen n' k')) :=
  .cons (.plain _) (.cons (.name dst) (.cons (.plain _) (.cons (.name flag) (.cons (.plain _)
    .nil))))

theorem Line.Alike.call {n n' : Nat} {place place' : Storage} {a a' : Operand}
    (dst : R (tempText n) (tempText n')) (callee : Token.Alike R place.token place'.token)
    (arg : Token.Alike R a.token a'.token) :
    Line.Alike R (.instr (.call n place a)) (.instr (.call n' place' a')) :=
  .cons (.plain _) (.cons (.name dst) (.cons (.plain _) (.cons callee (.cons (.plain _)
    (.cons arg (.cons (.plain _) .nil))))))

theorem Line.Alike.store {place place' : Storage} {v v' : Operand}
    (value : Token.Alike R v.token v'.token) (target : Token.Alike R place.token place'.token) :
    Line.Alike R (.instr (.store v place)) (.instr (.store v' place')) :=
  .cons (.plain _) (.cons value (.cons (.plain _) (.cons target .nil)))

theorem Line.Alike.jump {l l' : Label} (target : R ("%" ++ l.text) ("%" ++ l'.text)) :
    Line.Alike R (.instr (.jump l)) (.instr (.jump l')) :=
  .cons (.plain _) (.cons (.name target) .nil)

theorem Line.Alike.branch {k k' : Nat} {l l' r r' : Label} (flag : R (tempText k) (tempText k'))
    (left : R ("%" ++ l.text) ("%" ++ l'.text)) (right : R ("%" ++ r.text) ("%" ++ r'.text)) :
    Line.Alike R (.instr (.branch k l r)) (.instr (.branch k' l' r')) :=
  .cons (.plain _) (.cons (.name flag) (.cons (.plain _) (.cons (.name left) (.cons (.plain _)
    (.cons (.name right) .nil)))))

theorem Line.Alike.alloca {s s' : Slot} (slot : R s.text s'.text) :
    Line.Alike R (.instr (.alloca s)) (.instr (.alloca s')) :=
  .cons (.plain _) (.cons (.name slot) (.cons (.plain _) .nil))

theorem Line.Alike.label {l l' : Label} (label : R ("%" ++ l.text) ("%" ++ l'.text)) :
    Line.Alike R (.label l) (.label l') :=
  .cons (.label label) (.cons (.plain _) .nil)

/-- An instruction that defines a temporary. -/
theorem Parallel.define {i i' : Instr} (n n' : Nat) (names : (Line.instr i).names = [tempText n])
    (names' : (Line.instr i').names = [tempText n'])
    (alike : ∀ R, R (tempText n) (tempText n') → Holds R slots →
      Line.Alike R (.instr i) (.instr i')) :
    Parallel slots [(tempText n, tempText n')] (straight [i]) (straight [i']) where
  names := by rw [straight_cons, definedNames, List.flatMap_cons, names]; rfl
  names' := by rw [straight_cons, definedNames, List.flatMap_cons, names']; rfl
  alike R own used := .cons (alike R (own _ (List.mem_singleton.2 rfl)) used) .nil

/-- Instructions that define nothing. -/
theorem Parallel.quiet {c c' : List Line} (names : definedNames c = [])
    (names' : definedNames c' = [])
    (alike : ∀ R, Holds R slots → List.Forall₂ (Line.Alike R) c c') : Parallel slots [] c c' where
  names := names.symm
  names' := names'.symm
  alike R _ used := alike R used

/-- A line without names is like itself. -/
theorem Line.Alike.plain {line : Line} {text : String} (tokens : line.tokens = [.plain text]) :
    Line.Alike R line line := by
  unfold Line.Alike
  rw [tokens]
  exact .cons (.plain text) .nil

end

/-! ## §3. Expressions. -/

section

variable {slots : NameTable} {scope scope' : Chain Key Storage}

/-- A name that means a place on both sides means corresponding ones. -/
theorem samePlace_of_means (related : Chain.Related (SamePlace slots) scope scope') {name : Name}
    {place place' : Storage} (means : Means scope name place) (means' : Means scope' name place') :
    SamePlace slots place place' := by
  obtain ⟨key, keyed, found'⟩ := means'
  obtain ⟨other, found, same⟩ := related.find?_some found'
  obtain rfl : place = other := means.unique ⟨key, keyed, found⟩
  exact same

/-- **Code of an expression, with and without positions.** -/
theorem ExprCode.parallel {n n' m m' d d' : Nat} {e : Expr} {c c' : List Instr}
    (related : Chain.Related (SamePlace slots) scope scope')
    (h : ExprCode scope n e c d m) (h' : ExprCode scope' n' e.unplaced c' d' m') :
    ∃ table, (tempText d, tempText d') ∈ table
      ∧ Parallel slots table (straight c) (straight c') := by
  induction h generalizing n' c' d' m' with
  | ident means =>
    cases h' with
    | ident means' =>
      have same := samePlace_of_means related means means'
      exact ⟨_, List.mem_singleton.2 rfl,
        .define _ _ rfl rfl fun R dst used => .load dst (same.token used)⟩
  | number =>
    cases h' with
    | number =>
      exact ⟨_, List.mem_singleton.2 rfl,
        .define _ _ rfl rfl fun R dst _ => .arith dst (.plain _) (.plain _)⟩
  | arith _ _ ihLeft ihRight =>
    cases h' with
    | arith first' second' =>
      obtain ⟨tableL, inL, parallelL⟩ := ihLeft first'
      obtain ⟨tableR, inR, parallelR⟩ := ihRight second'
      refine ⟨tableL ++ tableR ++ _, List.mem_append_right _ (List.mem_singleton.2 rfl), ?_⟩
      rw [straight_append, straight_append, straight_append, straight_append]
      refine (parallelL.append parallelR).snoc (.define _ _ rfl rfl fun R dst used => ?_)
      simp only [holds_append] at used
      exact .arith dst (.name (used.2.1 _ inL)) (.name (used.2.2 _ inR))
  | @compare _ m k _ r _ op _ _ _ _ _ _ ihLeft ihRight =>
    cases h' with
    | @compare _ m' k' _ r' _ _ _ _ _ _ first' second' =>
      obtain ⟨tableL, inL, parallelL⟩ := ihLeft first'
      obtain ⟨tableR, inR, parallelR⟩ := ihRight second'
      refine ⟨tableL ++ tableR ++ ([(tempText k, tempText k')] ++ _),
        List.mem_append_right _ (List.mem_append_right _ (List.mem_singleton.2 rfl)), ?_⟩
      rw [straight_append, straight_append, straight_append, straight_append]
      -- the flag is defined by the comparison and used by the widening
      refine (parallelL.append parallelR).snoc ((Parallel.define k k' rfl rfl
        fun R dst used => ?_).snoc (.define (k + 1) (k' + 1) rfl rfl fun R dst used => ?_))
      · simp only [holds_append] at used
        exact .compare dst (.name (used.2.1 _ inL)) (.name (used.2.2 _ inR))
      · simp only [holds_append, holds_cons] at used
        exact .widen dst used.2.1
  | minus _ ih =>
    cases h' with
    | minus inner' =>
      obtain ⟨table, inside, parallel⟩ := ih inner'
      refine ⟨table ++ _, List.mem_append_right _ (List.mem_singleton.2 rfl), ?_⟩
      rw [straight_append, straight_append]
      refine parallel.snoc (.define _ _ rfl rfl fun R dst used => ?_)
      rw [holds_append] at used
      exact .arith dst (.plain _) (.name (used.2 _ inside))
  | plus _ ih =>
    cases h' with
    | plus inner' => exact ih inner'
  | paren _ ih =>
    cases h' with
    | paren inside' => exact ih inside'
  | call means _ ih =>
    cases h' with
    | call means' inner' =>
      have same := samePlace_of_means related means means'
      obtain ⟨table, inside, parallel⟩ := ih inner'
      refine ⟨table ++ _, List.mem_append_right _ (List.mem_singleton.2 rfl), ?_⟩
      rw [straight_append, straight_append]
      refine parallel.snoc (.define _ _ rfl rfl fun R dst used => ?_)
      rw [holds_append] at used
      exact .call dst (same.token used.1) (.name (used.2 _ inside))

theorem ExprsCode.parallel {n n' m m' : Nat} {es : List Expr} {c c' : List Instr}
    {ds ds' : List Nat} (related : Chain.Related (SamePlace slots) scope scope')
    (h : ExprsCode scope n es c ds m) (h' : ExprsCode scope' n' (unplacedExprs es) c' ds' m') :
    ∃ table, List.Forall₂ (fun d d' => (tempText d, tempText d') ∈ table) ds ds'
      ∧ Parallel slots table (straight c) (straight c') := by
  induction h generalizing n' c' ds' m' with
  | nil =>
    cases h' with
    | nil => exact ⟨[], .nil, .nil⟩
  | cons first _ ih =>
    cases h' with
    | cons first' others' =>
      obtain ⟨table, inside, parallel⟩ := first.parallel related first'
      obtain ⟨later, insides, parallels⟩ := ih others'
      refine ⟨table ++ later, .cons (List.mem_append_left _ inside)
        (insides.imp fun _ _ => List.mem_append_right _), ?_⟩
      rw [straight_append, straight_append]
      exact parallel.append parallels

theorem InitialCode.parallel {n n' m m' : Nat} {value : Option Expr} {c c' : List Instr}
    {v v' : Operand} (related : Chain.Related (SamePlace slots) scope scope')
    (h : InitialCode scope n value c v m)
    (h' : InitialCode scope' n' (unplacedExpr? value) c' v' m') :
    ∃ table, (∀ R, Holds R table → Token.Alike R v.token v'.token)
      ∧ Parallel slots table (straight c) (straight c') := by
  cases h with
  | zero =>
    cases h' with
    | zero => exact ⟨[], fun R _ => .plain _, .nil⟩
  | value code =>
    cases h' with
    | value code' =>
      obtain ⟨table, inside, parallel⟩ := code.parallel related code'
      exact ⟨table, fun R own => .name (own _ inside), parallel⟩

/-- The names of two labels. -/
def labelPair (l l' : Label) : String × String := ("%" ++ l.text, "%" ++ l'.text)

theorem TestCode.parallel {labels labels' : LoopLabels} {n n' m m' : Nat} {cond : Option Expr}
    {c c' : List Instr} (related : Chain.Related (SamePlace slots) scope scope')
    (h : TestCode scope labels n cond c m)
    (h' : TestCode scope' labels' n' (unplacedExpr? cond) c' m') :
    ∃ table, Parallel
      (slots ++ [labelPair labels.body labels'.body, labelPair labels.done labels'.done])
      table (straight c) (straight c') := by
  cases h with
  | always =>
    cases h' with
    | always =>
      refine ⟨[], .quiet rfl rfl fun R used => ?_⟩
      simp only [holds_append, holds_cons] at used
      exact .cons (.jump used.2.1) .nil
  | @value m _ _ _ code =>
    cases h' with
    | @value m' _ _ _ code' =>
      obtain ⟨table, inside, parallel⟩ := code.parallel related code'
      refine ⟨table ++ ([(tempText m, tempText m')] ++ []), ?_⟩
      rw [straight_append, straight_append]
      refine (parallel.mono fun _ => List.mem_append_left _).snoc
        ((Parallel.define m m' rfl rfl fun R dst used => ?_).snoc
          (.quiet rfl rfl fun R used => ?_))
      · rw [holds_append] at used
        exact .compare dst (.name (used.2 _ inside)) (.plain _)
      · simp only [holds_append, holds_cons] at used
        exact .cons (.branch used.2.1 used.1.1.2.1 used.1.1.2.2.1) .nil

end

/-! ## §4. Variables. -/

theorem Stores.definedNames {scope : Chain Key Storage} {pairs : List (Reading Ident × Nat)}
    {code : List Instr} (h : Stores scope pairs code) :
    SlotIR.definedNames (straight code) = [] := by
  induction h with
  | nil => rfl
  | cons _ _ ih => exact ih

/-- The table pairs the slots of two layouts, and names mean corresponding places. -/
structure Aligned (slots : NameTable) (σ σ' : Layout) : Prop where
  texts : slots.map Prod.fst = σ.slots.map Slot.text
  texts' : slots.map Prod.snd = σ'.slots.map Slot.text
  scopes : Chain.Related (SamePlace slots) σ.scope σ'.scope

section

variable {slots : NameTable} {σ σ' τ τ' : Layout}

theorem Aligned.drawTo (h : Aligned slots σ σ') (n n' : Nat) :
    Aligned slots (σ.drawTo n) (σ'.drawTo n') := ⟨h.texts, h.texts', h.scopes⟩

theorem Aligned.enter (h : Aligned slots σ σ') : Aligned slots σ.enter σ'.enter :=
  ⟨h.texts, h.texts', h.scopes.enter⟩

theorem Aligned.leave (h : Aligned slots σ σ') : Aligned slots σ.leave σ'.leave :=
  ⟨h.texts, h.texts', h.scopes.leave⟩

theorem Local.aligned {name : Name} {pos pos' : Pos} {slot slot' : Slot}
    (aligned : Aligned slots σ σ') (h : Local σ name pos slot τ)
    (h' : Local σ' name pos' slot' τ') :
    Aligned (slots ++ [(slot.text, slot'.text)]) τ τ' := by
  cases h with
  | @intro key n keyed =>
    cases h' with
    | @intro key' n' keyed' =>
      obtain rfl : key = key' := by simpa [keyed] using keyed'
      refine ⟨by simp [aligned.texts], by simp [aligned.texts'], ?_⟩
      refine Chain.Related.declare (aligned.scopes.mono fun _ _ same => ?_) key (.slot (by simp))
      exact same.mono fun _ => List.mem_append_left _

/-- A name has a meaning on both sides or on none. -/
theorem Aligned.not_unbound {name : Name} {place : Storage} (aligned : Aligned slots σ σ')
    (means : Means σ.scope name place) : ¬ Unbound σ'.scope name := by
  rintro ⟨key, keyed, absent⟩
  obtain ⟨key', keyed', found⟩ := means
  obtain rfl : key = key' := by simpa [keyed] using keyed'
  rw [(aligned.scopes.find?_none key).2 absent] at found
  cases found

theorem Aligned.not_means {name : Name} {place : Storage} (aligned : Aligned slots σ σ')
    (unbound : Unbound σ.scope name) : ¬ Means σ'.scope name place := by
  rintro ⟨key, keyed, found⟩
  obtain ⟨key', keyed', absent⟩ := unbound
  obtain rfl : key = key' := by simpa [keyed] using keyed'
  rw [(aligned.scopes.find?_none key).1 absent] at found
  cases found

theorem Defines.aligned {targets : List (Reading Ident)} (h : Defines σ targets τ)
    (h' : Defines σ' (unplacedTargets targets) τ') (aligned : Aligned slots σ σ') :
    ∃ new, Aligned (slots ++ new) τ τ' := by
  induction h generalizing σ' slots with
  | nil =>
    cases h' with
    | nil => exact ⟨[], by simpa using aligned⟩
  | visible means _ ih =>
    cases h' with
    | visible _ others' => exact ih others' aligned
    -- a target is new on both sides or on none
    | fresh unbound' => exact absurd unbound' (aligned.not_unbound means)
  | fresh unbound new _ ih =>
    cases h' with
    | visible means' => exact absurd means' (aligned.not_means unbound)
    | fresh _ new' others' =>
      obtain ⟨more, after⟩ := ih others' (Local.aligned aligned new new')
      exact ⟨[_] ++ more, by rw [← List.append_assoc]; exact after⟩

theorem Prepares.aligned {op : AssignOp} {targets : List (Reading Ident)}
    (h : Prepares σ op targets τ) (h' : Prepares σ' op (unplacedTargets targets) τ')
    (aligned : Aligned slots σ σ') : ∃ new, Aligned (slots ++ new) τ τ' := by
  cases h with
  | assign =>
    cases h' with
    | assign => exact ⟨[], by simpa using aligned⟩
  | define defines =>
    cases h' with
    | define defines' => exact defines.aligned defines' aligned

theorem Stores.parallel {scope scope' : Chain Key Storage} {table : NameTable}
    {targets : List (Reading Ident)} {ds ds' : List Nat} {c c' : List Instr}
    (related : Chain.Related (SamePlace slots) scope scope')
    (values : List.Forall₂ (fun d d' => (tempText d, tempText d') ∈ table) ds ds')
    (h : Stores scope (targets.zip ds) c)
    (h' : Stores scope' ((unplacedTargets targets).zip ds') c') :
    Parallel (slots ++ table) [] (straight c) (straight c') := by
  refine .quiet h.definedNames h'.definedNames fun R used => ?_
  rw [holds_append] at used
  induction values generalizing targets c c' with
  | nil =>
    rw [List.zip_nil_right] at h h'
    cases h
    cases h'
    exact .nil
  | cons value _ ih =>
    cases targets with
    | nil =>
      cases h
      cases h'
      exact .nil
    | cons target rest =>
      cases h with
      | cons means others =>
        cases h' with
        | cons means' others' =>
          have same := samePlace_of_means related means means'
          exact .cons (.store (.name (used.2 _ value)) (same.token used.1)) (ih others others')

end

/-! ## §5. Statements. -/

/-- The piece without positions. -/
def Piece.unplaced : Piece → Piece
  | .stmt s => .stmt s.unplaced
  | .optional s => .optional (unplacedStmt? s)
  | .sequence items => .sequence (unplacedStmts items)

section

variable {slots : NameTable}

theorem Parallel.label (l l' : Label) :
    Parallel slots [labelPair l l'] [.blank, .label l] [.blank, .label l'] where
  names := rfl
  names' := rfl
  alike _ own _ :=
    .cons (.plain rfl) (.cons (.label (own _ (List.mem_singleton.2 rfl))) .nil)

theorem Parallel.seam {target target' : Label} (goes : labelPair target target' ∈ slots)
    (next next' : Label) :
    Parallel slots [labelPair next next'] (seam (.jump target) next)
      (seam (.jump target') next') where
  names := rfl
  names' := rfl
  alike _ own used := .cons (.jump (used _ goes)) ((Parallel.label next next').alike _ own used)

/-- The labels of two loops. -/
def loopPairs (labels labels' : LoopLabels) : NameTable :=
  [labelPair labels.init labels'.init, labelPair labels.cond labels'.cond,
    labelPair labels.body labels'.body, labelPair labels.done labels'.done]

/-- Two loops in parallel, part by part. -/
theorem Parallel.loop {labels labels' : LoopLabels} {init init' body body' post post' : List Line}
    {test test' : List Instr} {tableInit tableTest tableBody tablePost : NameTable}
    (first : Parallel slots tableInit init init')
    (tested : Parallel
      (slots ++ [labelPair labels.body labels'.body, labelPair labels.done labels'.done])
      tableTest (straight test) (straight test'))
    (round : Parallel slots tableBody body body') (last : Parallel slots tablePost post post') :
    ∃ table, Parallel slots table (loopLines labels init test body post)
      (loopLines labels' init' test' body' post') := by
  have outer : ∀ entry ∈ slots, entry ∈ slots ++ loopPairs labels labels' :=
    fun _ => List.mem_append_left _
  have toInit : labelPair labels.init labels'.init ∈ slots ++ loopPairs labels labels' := by
    simp [loopPairs]
  have toCond : labelPair labels.cond labels'.cond ∈ slots ++ loopPairs labels labels' := by
    simp [loopPairs]
  have known : ∀ entry ∈ slots
      ++ [labelPair labels.body labels'.body, labelPair labels.done labels'.done],
      entry ∈ slots ++ loopPairs labels labels' := by
    intro entry member
    rw [List.mem_append] at member ⊢
    refine member.imp_right fun label => ?_
    simp only [List.mem_cons, List.not_mem_nil, or_false] at label
    rcases label with rfl | rfl <;> simp [loopPairs]
  have start := Parallel.seam toInit labels.init labels'.init
  have again := Parallel.seam toCond labels.cond labels'.cond
  have back := Parallel.seam toCond labels.done labels'.done
  have lines := start.append ((first.mono outer).append (again.append
    ((tested.mono known).append ((Parallel.label labels.body labels'.body).append
    ((round.mono outer).append ((last.mono outer).append back))))))
  -- the labels that are gone to stand among the lines
  refine ⟨_, lines.close fun entry member => ?_⟩
  rw [List.mem_append] at member
  refine member.imp_right fun label => ?_
  simp only [loopPairs, List.mem_cons, List.not_mem_nil, or_false] at label
  rcases label with rfl | rfl | rfl | rfl <;> simp

/-- **Code of a piece, with and without positions.** -/
theorem Code.parallel {σ σ' τ τ' : Layout} {piece : Piece} {c c' : List Line}
    (h : Code σ piece c τ) (h' : Code σ' piece.unplaced c' τ') (aligned : Aligned slots σ σ') :
    ∃ new table, Aligned (slots ++ new) τ τ' ∧ Parallel (slots ++ new) table c c' := by
  -- slots are only added, so names that are paired stay paired
  have more {slots new : NameTable} : ∀ entry ∈ slots, entry ∈ slots ++ new :=
    fun _ => List.mem_append_left _
  induction h generalizing σ' c' τ' slots with
  | @varDecl σ τ pos name value c v n slot initial new =>
    cases h' with
    | @varDecl _ _ _ _ _ c' v' n' slot' initial' new' =>
      obtain ⟨table, values, parallel⟩ := initial.parallel aligned.scopes initial'
      refine ⟨[(slot.text, slot'.text)], table ++ [],
        Local.aligned (aligned.drawTo _ _) new new', ?_⟩
      rw [straight_append, straight_append]
      refine (parallel.mono more).snoc (.quiet rfl rfl fun R used => ?_)
      simp only [holds_append, holds_cons] at used
      exact .cons (.store (values R used.2) (.name used.1.2.1)) .nil
  | assign lengths evaluates prepares stores =>
    cases h' with
    | assign lengths' evaluates' prepares' stores' =>
      obtain ⟨table, values, parallel⟩ := evaluates.parallel aligned.scopes evaluates'
      obtain ⟨new, after⟩ := prepares.aligned prepares' (aligned.drawTo _ _)
      refine ⟨new, table ++ [], after, ?_⟩
      rw [straight_append, straight_append]
      exact (parallel.mono more).snoc (Stores.parallel after.scopes values stores stores')
  | block _ ih =>
    cases h' with
    | block inner' =>
      obtain ⟨new, table, after, parallel⟩ := ih inner' aligned.enter
      exact ⟨new, table, after.leave, parallel⟩
  | loop _ test _ _ ihInit ihBody ihPost =>
    cases h' with
    | loop initial' test' inner' final' =>
      obtain ⟨newInit, tableInit, afterInit, first⟩ := ihInit initial' (aligned.enter.drawTo _ _)
      obtain ⟨tableTest, tested⟩ := test.parallel afterInit.scopes test'
      obtain ⟨newBody, tableBody, afterBody, round⟩ := ihBody inner' (afterInit.drawTo _ _).enter
      obtain ⟨newPost, tablePost, afterPost, last⟩ := ihPost final' afterBody.leave
      refine ⟨newInit ++ newBody ++ newPost, ?_⟩
      rw [← List.append_assoc, ← List.append_assoc]
      -- each part may name the slots of all parts, and the test its labels besides
      have start : Parallel (slots ++ newInit ++ newBody ++ newPost) _ _ _ :=
        (first.mono more).mono more
      have tests : Parallel (slots ++ newInit ++ newBody ++ newPost ++ _) _ _ _ :=
        tested.mono fun entry member => by
          rw [List.mem_append] at member ⊢
          exact member.imp_left fun slot => more _ (more _ slot)
      obtain ⟨table, all⟩ := Parallel.loop start tests (round.mono more) last
      exact ⟨table, afterPost.leave, all⟩
  | expr code =>
    cases h' with
    | expr code' =>
      obtain ⟨table, -, parallel⟩ := code.parallel aligned.scopes code'
      exact ⟨[], table, by simpa using aligned.drawTo _ _, by simpa using parallel⟩
  | absent =>
    cases h' with
    | absent => exact ⟨[], [], by simpa using aligned, .nil⟩
  | present _ ih =>
    cases h' with
    | present code' => exact ih code' aligned
  | nil =>
    cases h' with
    | nil => exact ⟨[], [], by simpa using aligned, .nil⟩
  | cons _ _ ihFirst ihOthers =>
    cases h' with
    | cons first' others' =>
      obtain ⟨new, table, between, parallel⟩ := ihFirst first' aligned
      obtain ⟨newer, later, after, parallels⟩ := ihOthers others' between
      refine ⟨new ++ newer, table ++ later, ?_, ?_⟩
      · rw [← List.append_assoc]
        exact after
      · rw [← List.append_assoc]
        exact (parallel.mono more).append parallels

end

end SlotIR
