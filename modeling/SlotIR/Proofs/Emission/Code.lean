/-
  SlotIR.Proofs.Emission.Code
  ───────────────────────────
  **WHICH CODE BELONGS TO WHICH SYNTAX.**

  What lowering emits, as relations on their own: no step of a state, no
  fault, one constructor for each construct.  Expressions become straight
  instructions, and only loops add lines of other kinds:

      ExprCode scope n e code d m     code leaves the value of e in %td,
                                      and draws the numbers from n to m
      Code σ piece code τ             lines of a statement, an optional
                                      one or a sequence, between layouts

  That successful lowering emits related code is proved in
  `SlotIR.Proofs.Emission.Sound`; every property of emitted code is then an
  induction on `Code`.
-/
import SlotIR.Lowering.File
import SlotIR.Proofs.Lowering.Steps

namespace SlotIR

/-! ## §1. Expressions. -/

/-- Code of an expression where the names of `scope` are visible.  The indices are the first number
to draw, the expression, its instructions, the temporary with its value and the next number. -/
inductive ExprCode (scope : Chain Key Storage) : Nat → Expr → List Instr → Nat → Nat → Prop
  | ident {n : Nat} {id : Ident} {source : Storage} (means : Means scope id.name source) :
      ExprCode scope n (.ident id) [.load n source] n (n + 1)
  | number {n : Nat} {pos : Pos} {value : Int} :
      ExprCode scope n (.number pos (.ok value)) [.arith n .add (.const 0) (.const value)] n (n + 1)
  | arith {n m k l r : Nat} {pos : Pos} {op : ArithOp} {left right : Expr} {c d : List Instr}
      (first : ExprCode scope n left c l m) (second : ExprCode scope m right d r k) :
      ExprCode scope n (.binary pos (.known (.arith op)) left right)
        (c ++ d ++ [.arith k op (.temp l) (.temp r)]) k (k + 1)
  | compare {n m k l r : Nat} {pos : Pos} {op : CompareOp} {left right : Expr} {c d : List Instr}
      (first : ExprCode scope n left c l m) (second : ExprCode scope m right d r k) :
      ExprCode scope n (.binary pos (.known (.compare op)) left right)
        (c ++ d ++ [.compare k op (.temp l) (.temp r), .widen (k + 1) k]) (k + 1) (k + 2)
  | minus {n m l : Nat} {pos : Pos} {operand : Expr} {c : List Instr}
      (inner : ExprCode scope n operand c l m) :
      ExprCode scope n (.unary pos (.known .minus) operand)
        (c ++ [.arith m .sub (.const 0) (.temp l)]) m (m + 1)
  | plus {n m l : Nat} {pos : Pos} {operand : Expr} {c : List Instr}
      (inner : ExprCode scope n operand c l m) :
      ExprCode scope n (.unary pos (.known .plus) operand) c l m
  | paren {n m l : Nat} {pos : Pos} {inner : Expr} {c : List Instr}
      (inside : ExprCode scope n inner c l m) : ExprCode scope n (.paren pos inner) c l m
  | call {n m a : Nat} {pos : Pos} {callee : Ident} {fn : Storage} {arg : Expr} {c : List Instr}
      (means : Means scope callee.name fn) (inner : ExprCode scope n arg c a m) :
      ExprCode scope n (.call pos (.ok callee) (.ok [arg])) (c ++ [.call m fn (.temp a)]) m (m + 1)

/-- Code of expressions from left to right, with the temporaries of their values. -/
inductive ExprsCode (scope : Chain Key Storage) :
    Nat → List Expr → List Instr → List Nat → Nat → Prop
  | nil {n : Nat} : ExprsCode scope n [] [] [] n
  | cons {n m k d : Nat} {e : Expr} {rest : List Expr} {c c' : List Instr} {ds : List Nat}
      (first : ExprCode scope n e c d m) (others : ExprsCode scope m rest c' ds k) :
      ExprsCode scope n (e :: rest) (c ++ c') (d :: ds) k

/-- Code of an initial value. -/
inductive InitialCode (scope : Chain Key Storage) :
    Nat → Option Expr → List Instr → Operand → Nat → Prop
  | zero {n : Nat} : InitialCode scope n none [] (.const 0) n
  | value {n m d : Nat} {e : Expr} {c : List Instr} (code : ExprCode scope n e c d m) :
      InitialCode scope n (some e) c (.temp d) m

/-! ## §2. Variables. -/

/-- A slot for a variable, where the next number is `n` and some slots are in use. -/
inductive NewSlot (n : Nat) (slots : List Slot) (name : String) (pos : Pos) : Slot → Nat → Prop
  | plain (free : (⟨name, pos, none⟩ : Slot).text ∉ slots.map Slot.text) :
      NewSlot n slots name pos ⟨name, pos, none⟩ n
  | numbered (used : (⟨name, pos, none⟩ : Slot).text ∈ slots.map Slot.text) :
      NewSlot n slots name pos ⟨name, pos, some n⟩ (n + 1)

/-- A local variable is declared in a new slot. -/
inductive Local (σ : Layout) (name : Name) (pos : Pos) : Slot → Layout → Prop
  | intro {slot : Slot} {key : Key} {n : Nat} (keyed : name.key = .ok key)
      (opened : σ.scope ≠ []) (new : NewSlot σ.nextId σ.slots name.text pos slot n) :
      Local σ name pos slot
        ⟨Chain.declare σ.scope key (.slot slot), n, σ.slots ++ [slot]⟩

/-- The targets that no visible frame binds are declared in order. -/
inductive Defines : Layout → List (Reading Ident) → Layout → Prop
  | nil {σ : Layout} : Defines σ [] σ
  | visible {σ τ : Layout} {id : Ident} {rest : List (Reading Ident)} {storage : Storage}
      (means : Means σ.scope id.name storage) (others : Defines σ rest τ) :
      Defines σ (.ok id :: rest) τ
  | fresh {σ ρ τ : Layout} {id : Ident} {rest : List (Reading Ident)} {slot : Slot}
      (unbound : Unbound σ.scope id.name) (new : Local σ id.name id.pos slot ρ)
      (others : Defines ρ rest τ) : Defines σ (.ok id :: rest) τ

/-- What happens to the targets before the stores. -/
inductive Prepares : Layout → AssignOp → List (Reading Ident) → Layout → Prop
  | assign {σ : Layout} {targets : List (Reading Ident)} : Prepares σ .assign targets σ
  | define {σ τ : Layout} {targets : List (Reading Ident)} (defines : Defines σ targets τ) :
      Prepares σ .define targets τ

/-- Stores of temporaries into the variables that the targets name. -/
inductive Stores (scope : Chain Key Storage) : List (Reading Ident × Nat) → List Instr → Prop
  | nil : Stores scope [] []
  | cons {id : Ident} {value : Nat} {rest : List (Reading Ident × Nat)} {storage : Storage}
      {c : List Instr} (means : Means scope id.name storage) (others : Stores scope rest c) :
      Stores scope ((.ok id, value) :: rest) (.store (.temp value) storage :: c)

/-! ## §3. Loops. -/

/-- The labels of a loop at a position, if the next number is `n`. -/
def loopLabels (pos : Pos) (n : Nat) : LoopLabels where
  init := ⟨"for.init.pos" ++ pos.text, n⟩
  cond := ⟨"for.cond.pos" ++ pos.text, n + 1⟩
  body := ⟨"for.body.pos" ++ pos.text, n + 2⟩
  done := ⟨"for.end.pos" ++ pos.text, n + 3⟩

/-- Code of the test of a loop. -/
inductive TestCode (scope : Chain Key Storage) (labels : LoopLabels) :
    Nat → Option Expr → List Instr → Nat → Prop
  | always {n : Nat} : TestCode scope labels n none [.jump labels.body] n
  | value {n m d : Nat} {e : Expr} {c : List Instr} (code : ExprCode scope n e c d m) :
      TestCode scope labels n (some e)
        (c ++ [.compare m .ne (.temp d) (.const 0), .branch m labels.body labels.done]) (m + 1)

/-- Instructions as lines. -/
def straight (code : List Instr) : List Line := code.map .instr

@[simp] theorem straight_nil : straight [] = [] := rfl

@[simp] theorem straight_cons (i : Instr) (code : List Instr) :
    straight (i :: code) = .instr i :: straight code := rfl

@[simp] theorem straight_append (c d : List Instr) :
    straight (c ++ d) = straight c ++ straight d := List.map_append

/-- The last instruction of a block and the lines that open the next one. -/
def seam (last : Instr) (next : Label) : List Line := [.instr last, .blank, .label next]

/-- The lines of a loop, by the lines of its parts. -/
def loopLines (labels : LoopLabels) (init : List Line) (test : List Instr)
    (body post : List Line) : List Line :=
  seam (.jump labels.init) labels.init
    ++ (init ++ (seam (.jump labels.cond) labels.cond
    ++ (straight test ++ ([.blank, .label labels.body]
    ++ (body ++ (post ++ seam (.jump labels.cond) labels.done))))))

/-! ## §4. Statements. -/

/-- A piece of a function's body. -/
inductive Piece where
  | stmt (s : Stmt)
  | optional (s : Option Stmt)
  | sequence (items : List Stmt)

/-- Code of a piece between two layouts. -/
inductive Code : Layout → Piece → List Line → Layout → Prop
  | varDecl {σ τ : Layout} {pos : Pos} {name : Name} {value : Option Expr} {c : List Instr}
      {v : Operand} {n : Nat} {slot : Slot}
      (initial : InitialCode σ.scope σ.nextId value c v n)
      (new : Local (σ.drawTo n) name pos slot τ) :
      Code σ (.stmt (.varDecl pos name value)) (straight (c ++ [.store v (.slot slot)])) τ
  | assign {σ τ : Layout} {pos : Pos} {op : AssignOp} {targets : List (Reading Ident)}
      {values : List Expr} {c c' : List Instr} {numbers : List Nat} {n : Nat}
      (lengths : targets.length = values.length)
      (evaluates : ExprsCode σ.scope σ.nextId values c numbers n)
      (prepares : Prepares (σ.drawTo n) op targets τ)
      (stores : Stores τ.scope (targets.zip numbers) c') :
      Code σ (.stmt (.assign pos (.known op) (.ok targets) (.ok values))) (straight (c ++ c')) τ
  | block {σ τ : Layout} {pos : Pos} {items : List Stmt} {c : List Line}
      (inner : Code σ.enter (.sequence items) c τ) :
      Code σ (.stmt (.block pos (.ok items))) c τ.leave
  | loop {σ ρ ω τ : Layout} {pos : Pos} {body : Stmt} {init post : Option Stmt}
      {cond : Option Expr} {cInit cBody cPost : List Line} {cTest : List Instr} {n : Nat}
      (initial : Code (σ.enter.drawTo (σ.nextId + 4)) (.optional init) cInit ρ)
      -- the test, the body and the post statement see what the initial statement declares
      (test : TestCode ρ.scope (loopLabels pos σ.nextId) ρ.nextId cond cTest n)
      (inner : Code (ρ.drawTo n).enter (.stmt body) cBody ω)
      (final : Code ω.leave (.optional post) cPost τ) :
      Code σ (.stmt (.loop pos body init cond post))
        (loopLines (loopLabels pos σ.nextId) cInit cTest cBody cPost) τ.leave
  | expr {σ : Layout} {pos : Pos} {e : Expr} {c : List Instr} {d n : Nat}
      (code : ExprCode σ.scope σ.nextId e c d n) :
      Code σ (.stmt (.exprStmt pos e)) (straight c) (σ.drawTo n)
  | absent {σ : Layout} : Code σ (.optional none) [] σ
  | present {σ τ : Layout} {s : Stmt} {c : List Line} (code : Code σ (.stmt s) c τ) :
      Code σ (.optional (some s)) c τ
  | nil {σ : Layout} : Code σ (.sequence []) [] σ
  | cons {σ ρ τ : Layout} {s : Stmt} {rest : List Stmt} {c c' : List Line}
      (first : Code σ (.stmt s) c ρ) (others : Code ρ (.sequence rest) c' τ) :
      Code σ (.sequence (s :: rest)) (c ++ c') τ

/-! ## §5. Functions. -/

/-- A package's name that is new to the innermost frame is bound. -/
inductive Binds (σ : Layout) (name : Name) (symbol : String) : Layout → Prop
  | intro {key : Key} {frame : Frame Key Storage} {outer : Chain Key Storage}
      (keyed : name.key = .ok key) (opened : σ.scope = frame :: outer)
      (free : frame.find? key = none) (allowed : name.same (.ofText "init") = false) :
      Binds σ name symbol (σ.bind key (.symbol symbol))

/-- The lines of a function's definition, by its slots and the lines of its statements. -/
def definitionLines (symbol : String) (slots : List Slot) (code : List Line) : List Line :=
  .define symbol :: straight (slots.map .alloca) ++ code ++ [.instr .ret, .close, .blank]

/-- Code of functions in order. -/
inductive FunctionsCode (options : Options) (package : String) :
    Layout → List (Reading FuncEntry) → List Line → Layout → Prop
  | nil {σ : Layout} : FunctionsCode options package σ [] [] σ
  | external {σ ρ τ : Layout} {fn : FuncEntry} {rest : List (Reading FuncEntry)} {c : List Line}
      (binds : Binds σ fn.name (options.symbol package fn.name.text) ρ)
      (body : fn.body = .ok .external) (others : FunctionsCode options package ρ rest c τ) :
      FunctionsCode options package σ (.ok fn :: rest)
        (.declare (options.symbol package fn.name.text) :: .blank :: c) τ
  | defined {σ ρ ω τ : Layout} {fn : FuncEntry} {rest : List (Reading FuncEntry)}
      {items : List Stmt} {code c : List Line}
      (binds : Binds σ fn.name (options.symbol package fn.name.text) ρ)
      (body : fn.body = .ok (.stmts (.ok items)))
      -- slots are counted anew in each function
      (inner : Code { ρ.enter with slots := [] } (.sequence items) code ω)
      (others : FunctionsCode options package ω.leave rest c τ) :
      FunctionsCode options package σ (.ok fn :: rest)
        (definitionLines (options.symbol package fn.name.text) ω.slots code ++ c) τ

/-! ## §6. Package variables and files. -/

/-- Lines of package variables. -/
inductive GlobalsCode (options : Options) (package : String) :
    Layout → List (Reading GlobalEntry) → List Line → Layout → Prop
  | nil {σ : Layout} : GlobalsCode options package σ [] [] σ
  | cons {σ ρ τ : Layout} {g : GlobalEntry} {rest : List (Reading GlobalEntry)} {c : List Line}
      (binds : Binds σ g.name (options.symbol package g.name.text) ρ)
      (others : GlobalsCode options package ρ rest c τ) :
      GlobalsCode options package σ (.ok g :: rest)
        (.global (options.symbol package g.name.text) :: c) τ

/-- Code that evaluates and stores initial values. -/
inductive InitialsCode (scope : Chain Key Storage) :
    Nat → List (Reading GlobalEntry) → List Instr → Nat → Prop
  | nil {n : Nat} : InitialsCode scope n [] [] n
  | cons {n m k : Nat} {g : GlobalEntry} {rest : List (Reading GlobalEntry)}
      {initial : Option Expr} {v : Operand} {storage : Storage} {c c' : List Instr}
      (valued : g.value = .ok initial) (code : InitialCode scope n initial c v m)
      (means : Means scope g.name storage) (others : InitialsCode scope m rest c' k) :
      InitialsCode scope n (.ok g :: rest) (c ++ .store v storage :: c') k

/-- The lines of the initialiser, by its instructions. -/
def initialiserLines (symbol : String) (code : List Instr) : List Line :=
  .define symbol :: straight code ++ [.instr .ret, .close]

/-- The line that separates package variables from what follows. -/
def globalsEnd {α : Type} : List α → List Line
  | [] => []
  | _ :: _ => [.blank]

/-- The line of the entry point, if it is due. -/
def entryLine (options : Options) (file : SourceFile) (due : Bool) : List Line :=
  if due then
    [.entry (options.symbol file.package.text "init") (options.symbol file.package.text "main")]
  else []

/-- The entry point is due if the package is the main one and has a function `main`. -/
def EntryDue (options : Options) (file : SourceFile) (funcs : List (Reading FuncEntry))
    (due : Bool) : Prop :=
  if file.package.same options.mainPackage then hasMain funcs = .ok due else due = false

/-- The lines of a module, and the next number after them. -/
inductive ModuleCode (options : Options) (file : SourceFile) (slots : List Slot) :
    List Line → Nat → Prop
  | intro {globals : List (Reading GlobalEntry)} {funcs : List (Reading FuncEntry)} {due : Bool}
      {vars routines : List Line} {initials : List Instr} {ρ τ : Layout} {n : Nat}
      (globals_eq : file.globals = .ok globals) (funcs_eq : file.funcs = .ok funcs)
      (globalVars : GlobalsCode options file.package.text
        ⟨[Frame.empty, builtinFrame], 0, slots⟩ globals vars ρ)
      (functions : FunctionsCode options file.package.text ρ funcs routines τ)
      (initialises : InitialsCode τ.scope τ.nextId globals initials n)
      (entry : EntryDue options file funcs due) :
      ModuleCode options file slots
        ([.package file.package.text, .builtins, .blank] ++ vars ++ globalsEnd globals ++ routines
          ++ initialiserLines (options.symbol file.package.text "init") initials
          ++ entryLine options file due) n

end SlotIR
