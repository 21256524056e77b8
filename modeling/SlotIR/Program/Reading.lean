/-
  SlotIR.Program.Reading
  ──────────────────────
  **FROM UNTYPED TREES TO PROGRAMS.**

  Each datum has exactly one reading as an expression, as a statement and
  as a file; reading never fails, it records faults in place.  The rules:

      name        any value; an identifier and a declaration have one
      position    an integer, or else only a text
      operator    a text that spells one; anything else is unknown
      number      an integer; 1 or 0 for a boolean; a real without its
                  fraction; a text that is a numeral
      items       those of a list; the characters of a text and the keys
                  of a record, each of them a foreign text
      option      null stands for an absent part
-/
import SlotIR.Datum.Display
import SlotIR.Program.Basic

namespace SlotIR.Datum

/-! ## §1. Leaves. -/

/-- A datum as a position. -/
def readPos : Datum → Pos
  | .int n => .offset n
  | other => .other other.written

/-- The identifier of a name at a position. -/
def identOf (pos name : Datum) : Ident := ⟨readPos pos, ⟨name⟩⟩

/-- The name at a node, for the kinds of node that have one. -/
def readIdent : Datum → Reading Ident
  | .ident pos name => .ok (identOf pos name)
  | .varDecl pos name _ => .ok (identOf pos name)
  | .globalDecl pos name _ => .ok (identOf pos name)
  | .funcDecl pos name _ => .ok (identOf pos name)
  | other => .error (.missing other.typeName "name")

/-- The operator that a datum spells. -/
def readOperator {α : Type} (ofSpelling? : String → Option α) : Datum → Operator α
  | .text s =>
    match ofSpelling? s with
    | some op => .known op
    | none => .unknown (display (.text s))
  | other => .unknown other.display

/-- The integer that a datum stands for. -/
def readNumber : Datum → Reading Int
  | .int n => .ok n
  | .bool b => .ok (if b then 1 else 0)
  | .real .nan => .error .undefined
  | .real x =>
    match x.truncate? with
    | some n => .ok n
    | none => .error .infinite
  | .text s =>
    match Text.toInt? s with
    | some n => .ok n
    | none => .error (.malformed s)
  | other => .error (.notNumeric other.typeName)

/-- The reading of an optional part, which null leaves out. -/
def unlessNull {α : Type} (part : Datum) (reading : α) : Option α :=
  match part with
  | .null => none
  | _ => some reading

/-- The reading of a list whose first item is taken if it is the only one.  A record has no first
item. -/
def takingFirst {α : Type} (items : Datum) (reading : Reading α) : Reading α :=
  match items with
  | .record [_] => .error (.noItem 0)
  | _ => reading

/-- What messages call the type of a character or of a key. -/
def textTypeName : String := typeName (.text "")

/-! ## §2. Expressions. -/

mutual

/-- A datum as an expression. -/
def readExpr : Datum → Expr
  | .ident pos name => .ident (identOf pos name)
  | .number pos value => .number (readPos pos) (readNumber value)
  | .binary pos op left right =>
    .binary (readPos pos) (readOperator BinaryOp.ofSpelling? op) (readExpr left) (readExpr right)
  | .unary pos op operand =>
    .unary (readPos pos) (readOperator UnaryOp.ofSpelling? op) (readExpr operand)
  | .paren pos inner => .paren (readPos pos) (readExpr inner)
  | .call pos callee args =>
    .call (readPos pos) (readIdent callee) (takingFirst args (readCountedExprs args))
  | other => .foreign other.typeName

/-- A datum as a list of expressions whose items are counted. -/
def readCountedExprs : Datum → Except ReadFault (List Expr)
  | .list items => .ok (readExprs items)
  | .text s => .ok (s.toList.map fun _ => .foreign textTypeName)
  | .record entries => .ok (entries.map fun _ => .foreign textTypeName)
  | other => .error (.unsized other.typeName)

/-- Each of a list of data as an expression. -/
def readExprs : List Datum → List Expr
  | [] => []
  | item :: rest => readExpr item :: readExprs rest

end

example : readExpr (.paren (.int 1) (.text "x")) = .paren (.offset 1) (.foreign "str") := rfl

/-- An optional expression. -/
def readExpr? (part : Datum) : Option Expr := unlessNull part (readExpr part)

/-! ## §3. Statements. -/

/-- A datum as the targets of an assignment. -/
def readTargets : Datum → Except ReadFault (List (Except ReadFault Ident))
  | .list items => .ok (items.map readIdent)
  | .text s => .ok (s.toList.map fun _ => .error (.missing textTypeName "name"))
  | .record entries => .ok (entries.map fun _ => .error (.missing textTypeName "name"))
  | other => .error (.unsized other.typeName)

mutual

/-- A datum as a statement. -/
def readStmt : Datum → Stmt
  | .varDecl pos name value => .varDecl (readPos pos) ⟨name⟩ (readExpr? value)
  | .assign pos targets values op =>
    .assign (readPos pos) (readOperator AssignOp.ofSpelling? op) (readTargets targets)
      (readCountedExprs values)
  | .block pos stmts => .block (readPos pos) (readStmtItems stmts)
  | .loop pos body init cond post =>
    .loop (readPos pos) (readStmt body) (unlessNull init (readStmt init)) (readExpr? cond)
      (unlessNull post (readStmt post))
  | .exprStmt pos expr => .exprStmt (readPos pos) (readExpr expr)
  | other => .foreign other.typeName

/-- A datum as a list of statements that is walked through. -/
def readStmtItems : Datum → Except ReadFault (List Stmt)
  | .list items => .ok (readStmts items)
  | .text s => .ok (s.toList.map fun _ => .foreign textTypeName)
  | .record entries => .ok (entries.map fun _ => .foreign textTypeName)
  | other => .error (.notIterable other.typeName)

/-- Each of a list of data as a statement. -/
def readStmts : List Datum → List Stmt
  | [] => []
  | item :: rest => readStmt item :: readStmts rest

end

example : readStmt (.block (.int 1) (.list [.null])) =
    .block (.offset 1) (.ok [.foreign "NoneType"]) := rfl

/-! ## §4. Declarations and files. -/

/-- The initial value at a declaration of a variable. -/
def readInitial : Datum → Reading (Option Expr)
  | .varDecl _ _ value => .ok (readExpr? value)
  | .globalDecl _ _ value => .ok (readExpr? value)
  | other => .error (.missing other.typeName "value")

/-- An entry of the package variables. -/
def readGlobal (entry : Datum) : Reading GlobalEntry := do
  let id ← entry.readIdent
  pure ⟨id.pos, entry.typeName, id.name, entry.readInitial⟩

/-- The statements of a function's body. -/
def readBodyStmts : Datum → Reading (List Stmt)
  | .block _ stmts => readStmtItems stmts
  | other => .error (.missing other.typeName "stmts")

/-- The body at a declaration of a function. -/
def readBody : Datum → Reading Body
  | .funcDecl _ _ .null => .ok .external
  | .funcDecl _ _ body => .ok (.stmts (readBodyStmts body))
  | other => .error (.missing other.typeName "body")

/-- An entry of the functions. -/
def readFunc (entry : Datum) : Reading FuncEntry := do
  let id ← entry.readIdent
  pure ⟨id.pos, entry.typeName, id.name, entry.readBody⟩

/-- A datum as a list of entries that is walked through. -/
def readEntries {α : Type} (readEntry : Datum → Reading α) : Datum → Reading (List (Reading α))
  | .list items => .ok (items.map readEntry)
  | .text s => .ok (s.toList.map fun c => readEntry (.text c.toString))
  | .record entries => .ok (entries.map fun entry => readEntry (.text entry.1))
  | other => .error (.notIterable other.typeName)

/-- A datum as a source file. -/
def readSource : Datum → Reading SourceFile
  | .file pos package globals funcs =>
    .ok ⟨readPos pos, ⟨package⟩, readEntries readGlobal globals, readEntries readFunc funcs⟩
  | other => .error (.missing other.typeName "package")

end SlotIR.Datum
