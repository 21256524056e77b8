/-
  SlotIR.Datum.Display
  ────────────────────
  **HOW MESSAGES SHOW A TREE.**

  A message about an operator shows what stands in its place:

      atoms          None, True, 7, 1.5, 'text'
      lists          [a, b]
      records        {'key': value}, in the order of the keys
      nodes          Kind(field=value, …), all fields in order
-/
import SlotIR.Datum.Basic

namespace SlotIR.Datum

/-! ## §1. Brackets. -/

/-- Texts with commas between them. -/
def commaText (texts : List String) : String := ", ".intercalate texts

/-- The names of the fields of a kind of node. -/
def fieldNames (kind : String) : List String :=
  ((fieldsOf? kind).getD []).map (·.1)

/-- The display of a node whose fields are displayed already. -/
def nodeText (kind : String) (fields : List String) : String :=
  let named := (fieldNames kind).zipWith (fun name field => name ++ "=" ++ field) fields
  kind ++ "(" ++ commaText named ++ ")"

/-! ## §2. Displays. -/

mutual

/-- How messages show a datum. -/
def display : Datum → String
  | .atom a => a.display
  | .list items => "[" ++ commaText (displayItems items) ++ "]"
  | .record entries => "\x7b" ++ commaText (displayEntries entries) ++ "\x7d"
  | .ident pos name => nodeText "Ident" [display pos, display name]
  | .number pos value => nodeText "Number" [display pos, display value]
  | .binary pos op left right =>
    nodeText "BinaryOp" [display pos, display op, display left, display right]
  | .unary pos op operand => nodeText "UnaryOp" [display pos, display op, display operand]
  | .paren pos inner => nodeText "ParenExpr" [display pos, display inner]
  | .call pos callee args => nodeText "Call" [display pos, display callee, display args]
  | .varDecl pos name value => nodeText "VarDecl" [display pos, display name, display value]
  | .assign pos targets values op =>
    nodeText "Assign" [display pos, display targets, display values, display op]
  | .block pos stmts => nodeText "Block" [display pos, display stmts]
  | .loop pos body init cond post =>
    nodeText "For" [display pos, display body, display init, display cond, display post]
  | .exprStmt pos expr => nodeText "ExprStmt" [display pos, display expr]
  | .globalDecl pos name value =>
    nodeText "GlobalDecl" [display pos, display name, display value]
  | .funcDecl pos name body => nodeText "FuncDecl" [display pos, display name, display body]
  | .file pos package globals funcs =>
    nodeText "File" [display pos, display package, display globals, display funcs]

/-- The displays of the items of a list. -/
def displayItems : List Datum → List String
  | [] => []
  | item :: rest => display item :: displayItems rest

/-- The displays of the entries of a record. -/
def displayEntries : List (String × Datum) → List String
  | [] => []
  | (key, value) :: rest => (Text.quoted key ++ ": " ++ display value) :: displayEntries rest

end

example : display (.list [.null, .ident (.int (-1)) (.text "+")]) =
    "[None, Ident(pos=-1, name='+')]" := by
  decide +kernel

/-! ## §3. Data inside an output. -/

/-- The text of a datum inside an output. -/
def written : Datum → String
  | .atom a => a.written
  | other => other.display

end SlotIR.Datum
