/-
  SlotIR.Datum.Basic
  ──────────────────
  **THE TREES THAT THE COMPILER IS GIVEN.**

  A tree arrives from a front end with untyped fields: wherever a node is
  expected, any other value may stand.  A `Datum` is such a value,

      a plain one      an atom, a list or a record
      or a node        one of the fourteen kinds, its fields data again,

  and nothing is rejected here.  The only checks are those on the shape of
  a node (`ofFields?`): its kind is known, no required field is missing,
  and no field is unknown.
-/
import SlotIR.Datum.Atom

namespace SlotIR

/-! ## §1. The type. -/

/-- An untyped tree. -/
inductive Datum where
  | atom (a : Atom)
  | list (items : List Datum)
  | record (entries : List (String × Datum))
  /-- A name. -/
  | ident (pos name : Datum)
  /-- A literal. -/
  | number (pos value : Datum)
  /-- An operator between two operands. -/
  | binary (pos op left right : Datum)
  /-- A sign before an operand. -/
  | unary (pos op operand : Datum)
  /-- An expression in parentheses. -/
  | paren (pos inner : Datum)
  /-- A call. -/
  | call (pos callee args : Datum)
  /-- The declaration of a local variable. -/
  | varDecl (pos name value : Datum)
  /-- An assignment of values to targets. -/
  | assign (pos targets values op : Datum)
  /-- Statements in braces. -/
  | block (pos stmts : Datum)
  /-- A loop. -/
  | loop (pos body init cond post : Datum)
  /-- An expression as a statement. -/
  | exprStmt (pos expr : Datum)
  /-- The declaration of a package variable. -/
  | globalDecl (pos name value : Datum)
  /-- The declaration of a function. -/
  | funcDecl (pos name body : Datum)
  /-- A source file. -/
  | file (pos package globals funcs : Datum)
  deriving Inhabited, Repr

namespace Datum

/-- The absent value. -/
@[match_pattern] abbrev null : Datum := .atom .null

/-- A boolean. -/
@[match_pattern] abbrev bool (b : Bool) : Datum := .atom (.bool b)

/-- An integer. -/
@[match_pattern] abbrev int (n : Int) : Datum := .atom (.int n)

/-- A number with a fraction or an exponent. -/
@[match_pattern] abbrev real (x : Binary64) : Datum := .atom (.real x)

/-- A text. -/
@[match_pattern] abbrev text (s : String) : Datum := .atom (.text s)

/-! ## §2. Names in messages. -/

/-- What messages call the type of a datum. -/
def typeName : Datum → String
  | .atom a => a.typeName
  | .list _ => "list"
  | .record _ => "dict"
  | .ident .. => "Ident"
  | .number .. => "Number"
  | .binary .. => "BinaryOp"
  | .unary .. => "UnaryOp"
  | .paren .. => "ParenExpr"
  | .call .. => "Call"
  | .varDecl .. => "VarDecl"
  | .assign .. => "Assign"
  | .block .. => "Block"
  | .loop .. => "For"
  | .exprStmt .. => "ExprStmt"
  | .globalDecl .. => "GlobalDecl"
  | .funcDecl .. => "FuncDecl"
  | .file .. => "File"

/-! ## §3. Texts and conditions. -/

/-- The text that a datum is. -/
def text? : Datum → Option String
  | .text s => some s
  | _ => none

/-- A datum holds as a condition, unless it is null, false, zero or empty. -/
def holds : Datum → Bool
  | .atom a => a.holds
  | .list items => !items.isEmpty
  | .record entries => !entries.isEmpty
  | _ => true

/-! ## §4. Nodes from named fields. -/

/-- The fields of a kind of node in order, each with its default unless it is required. -/
def fieldsOf? : String → Option (List (String × Option Datum))
  | "Ident" => some [("pos", none), ("name", none)]
  | "Number" => some [("pos", none), ("value", none)]
  | "BinaryOp" => some [("pos", none), ("op", none), ("left", none), ("right", none)]
  | "UnaryOp" => some [("pos", none), ("op", none), ("operand", none)]
  | "ParenExpr" => some [("pos", none), ("expr", none)]
  | "Call" => some [("pos", none), ("func", none), ("args", some (.list []))]
  | "VarDecl" => some [("pos", none), ("name", none), ("value", some .null)]
  | "Assign" => some [("pos", none), ("targets", none), ("values", none), ("op", some (.text "="))]
  | "Block" => some [("pos", none), ("stmts", some (.list []))]
  | "For" =>
    some [("pos", none), ("body", none), ("init", some .null), ("cond", some .null),
      ("post", some .null)]
  | "ExprStmt" => some [("pos", none), ("expr", none)]
  | "GlobalDecl" => some [("pos", none), ("name", none), ("value", some .null)]
  | "FuncDecl" => some [("pos", none), ("name", none), ("body", some .null)]
  | "File" =>
    some [("pos", none), ("package", none), ("globals", some (.list [])),
      ("funcs", some (.list []))]
  | _ => none

/-- The values of the fields of a schema in order.  There are none if a field is unknown, or if a
required one is missing. -/
def fill? (schema : List (String × Option Datum)) (fields : List (String × Datum)) :
    Option (List Datum) :=
  if fields.all fun field => schema.any (·.1 == field.1) then
    schema.mapM fun (name, default?) => (fields.lookup name).or default?
  else none

/-- A node of the given kind with the given fields in order. -/
def node? : String → List Datum → Option Datum
  | "Ident", [pos, name] => some (.ident pos name)
  | "Number", [pos, value] => some (.number pos value)
  | "BinaryOp", [pos, op, left, right] => some (.binary pos op left right)
  | "UnaryOp", [pos, op, operand] => some (.unary pos op operand)
  | "ParenExpr", [pos, inner] => some (.paren pos inner)
  | "Call", [pos, callee, args] => some (.call pos callee args)
  | "VarDecl", [pos, name, value] => some (.varDecl pos name value)
  | "Assign", [pos, targets, values, op] => some (.assign pos targets values op)
  | "Block", [pos, stmts] => some (.block pos stmts)
  | "For", [pos, body, init, cond, post] => some (.loop pos body init cond post)
  | "ExprStmt", [pos, expr] => some (.exprStmt pos expr)
  | "GlobalDecl", [pos, name, value] => some (.globalDecl pos name value)
  | "FuncDecl", [pos, name, body] => some (.funcDecl pos name body)
  | "File", [pos, package, globals, funcs] => some (.file pos package globals funcs)
  | _, _ => none

/-- The node of a kind with the given named fields. -/
def ofFields? (kind : String) (fields : List (String × Datum)) : Option Datum := do
  node? kind (← fill? (← fieldsOf? kind) fields)

end Datum
end SlotIR
