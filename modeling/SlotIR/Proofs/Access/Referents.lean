/-
  SlotIR.Proofs.Access.Referents
  ──────────────────────────────
  **WHAT THE NAMES OF A PROGRAM ARE BOUND TO.**

  Variables, functions and builtin functions share one chain of scopes, and
  a name is resolved without regard to which of the three it is bound to.
  This walk over a file keeps the kinds apart.  It lists, in the order of
  evaluation, what each name that is READ or ASSIGNED is bound to:

      localVar         a local variable
      packageVar x     the package variable of symbol x
      function x       the function of symbol x, a builtin one or one of
                       the package

  The name of a called function is neither read nor assigned.
-/
import SlotIR.Proofs.Structure.Symbols

namespace SlotIR.Access

/-! ## §1. Bindings. -/

/-- What a name is bound to. -/
inductive Referent where
  | localVar
  | packageVar (symbol : String)
  | function (symbol : String)
  deriving DecidableEq, Repr

/-- The name is that of a function. -/
def Referent.isFunction : Referent → Bool
  | .function _ => true
  | _ => false

/-- The visible names. -/
abbrev Names := Chain Key Referent

/-- What a name is bound to, if it is. -/
def meaning (names : Names) (name : Name) : Option Referent :=
  match name.key with
  | .ok key => Chain.find? names key
  | .error _ => none

/-- Bind a name in the innermost frame, unless it is bound there. -/
def bindName (names : Names) (name : Name) (referent : Referent) : Names :=
  match name.key with
  | .ok key => Chain.declare names key referent
  | .error _ => names

/-- The frame that binds the builtin functions. -/
def builtinNames : Frame Key Referent :=
  Frame.ofList (Builtins.functions.map fun builtin => (.text builtin.1, .function builtin.2))

/-! ## §2. Expressions. -/

/-- What an expression reads. -/
def readsExpr (names : Names) : Expr → List Referent
  | .ident id => (meaning names id.name).toList
  | .number _ _ => []
  | .binary _ _ left right => readsExpr names left ++ readsExpr names right
  | .unary _ _ operand => readsExpr names operand
  | .paren _ inner => readsExpr names inner
  | .call _ _ (.ok [arg]) => readsExpr names arg
  | _ => []
termination_by structural e => e

/-- What expressions read, from left to right. -/
def readsExprs (names : Names) (es : List Expr) : List Referent := es.flatMap (readsExpr names)

/-- What an expression that may be absent reads. -/
def readsExpr? (names : Names) : Option Expr → List Referent
  | none => []
  | some e => readsExpr names e

/-! ## §3. Statements. -/

/-- What targets are bound to when they are assigned, and the names after it: `:=` declares a target
that has no meaning. -/
def accessTargets (op : AssignOp) : Names → List (Reading Ident) → List Referent × Names
  | names, .ok id :: rest =>
    match meaning names id.name, op with
    | some referent, _ =>
      let later := accessTargets op names rest
      (referent :: later.1, later.2)
    | none, .define =>
      let later := accessTargets op (bindName names id.name .localVar) rest
      (.localVar :: later.1, later.2)
    | none, .assign => ([], names)
  | names, _ => ([], names)

/-- What an assignment accesses, and the names after it. -/
def accessAssign (names : Names) : Operator AssignOp → Reading (List (Reading Ident)) →
    Reading (List Expr) → List Referent × Names
  | .known op, .ok targets, .ok values =>
    let assigned := accessTargets op names targets
    -- the values do not see what the targets declare
    (readsExprs names values ++ assigned.1, assigned.2)
  | _, _, _ => ([], names)

mutual

/-- What a statement accesses, and the names after it. -/
def accessStmt : Stmt → Names → List Referent × Names
  | .varDecl _ name value, names =>
    (readsExpr? names value ++ [.localVar], bindName names name .localVar)
  | .assign _ op targets values, names => accessAssign names op targets values
  | .block _ stmts, names => ((accessItems stmts (Frame.empty :: names)).1, names)
  | .loop _ body init cond post, names =>
    let started := accessStmt? init (Frame.empty :: names)
    let round := (accessStmt body (Frame.empty :: started.2)).1
    (started.1 ++ readsExpr? started.2 cond ++ round ++ (accessStmt? post started.2).1, names)
  | .exprStmt _ expr, names => (readsExpr names expr, names)
  | .foreign _, names => ([], names)
termination_by structural s => s

/-- What a statement that may be absent accesses, and the names after it. -/
def accessStmt? : Option Stmt → Names → List Referent × Names
  | none, names => ([], names)
  | some stmt, names => accessStmt stmt names
termination_by structural s => s

/-- What the statements of a block access, and the names after them. -/
def accessItems : Except ReadFault (List Stmt) → Names → List Referent × Names
  | .error _, names => ([], names)
  | .ok items, names => accessStmts items names
termination_by structural items => items

/-- What statements access in order, and the names after them. -/
def accessStmts : List Stmt → Names → List Referent × Names
  | [], names => ([], names)
  | stmt :: rest, names =>
    let first := accessStmt stmt names
    let later := accessStmts rest first.2
    (first.1 ++ later.1, later.2)
termination_by structural stmts => stmts

end

/-! ## §4. Files. -/

section

variable (options : Options) (package : String)

/-- The names after those of package variables are bound. -/
def bindGlobals : Names → List (Reading GlobalEntry) → Names
  | names, .ok g :: rest =>
    bindGlobals (bindName names g.name (.packageVar (options.symbol package g.name.text))) rest
  | names, _ => names

/-- What the definition of a function accesses, if it has one. -/
def accessBody (names : Names) : Reading Body → List (List Referent)
  | .ok (.stmts items) => [(accessItems items (Frame.empty :: names)).1]
  | _ => []

/-- What each function with a body accesses, and the names after all of them. -/
def accessFunctions : Names → List (Reading FuncEntry) → List (List Referent) × Names
  | names, .ok fn :: rest =>
    let bound := bindName names fn.name (.function (options.symbol package fn.name.text))
    let later := accessFunctions bound rest
    (accessBody bound fn.body ++ later.1, later.2)
  | names, _ => ([], names)

end

/-- What the initial values of package variables read, and the variables that are set to them. -/
def accessInitials (names : Names) : List (Reading GlobalEntry) → List Referent
  | .ok g :: rest =>
    (match g.value with
      | .ok initial => readsExpr? names initial
      | .error _ => [])
      ++ (meaning names g.name).toList ++ accessInitials names rest
  | _ => []

/-- **What a file accesses**: one list for each function with a body, and then the one of the
initialiser. -/
def accesses (options : Options) (file : SourceFile) : List (List Referent) :=
  let globals := readableEntries file.globals
  let vars := bindGlobals options file.package.text [Frame.empty, builtinNames] globals
  let funcs := accessFunctions options file.package.text vars (readableEntries file.funcs)
  funcs.1 ++ [accessInitials funcs.2 globals]

end SlotIR.Access
