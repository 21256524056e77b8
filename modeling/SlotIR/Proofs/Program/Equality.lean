/-
  SlotIR.Proofs.Program.Equality
  ──────────────────────────────
  **EQUAL FILES COMPILE TO THE SAME MODULE.**

  Equal trees may hold different values: 1, 1.0 and true are equal.  But
  where positions are integers and names and operators are texts, as the
  front end SPELLS them, equal trees tell the SAME program: they differ
  only in how literals are given, and a literal is read by what it stands
  for.  So if a file is lowered, which only a whole file is, an equal one
  has the same reading.  Main result:

    • `generateRead_equal` — equality of trees is an equivalence, and equal
      files have one module.
-/
import SlotIR.Program.Reading
import SlotIR.Proofs.Datum.Equality
import SlotIR.Proofs.Emission.Whole
import Mathlib.Data.List.Forall2

namespace SlotIR.Datum

/-! ## §1. Spelled trees. -/

mutual

/-- Positions are integers, and names, packages and operators are texts.  Any value may be that of a
literal, and records hold any. -/
def spelled : Datum → Bool
  | .atom _ | .record _ => true
  | .list items => spelledItems items
  | .ident p m => p.isInt && m.isText
  | .number p _ => p.isInt
  | .binary p op l r => p.isInt && op.isText && l.spelled && r.spelled
  | .unary p op a => p.isInt && op.isText && a.spelled
  | .paren p a => p.isInt && a.spelled
  | .call p f args => p.isInt && f.spelled && args.spelled
  | .varDecl p m v => p.isInt && m.isText && v.spelled
  | .assign p targets values op => p.isInt && targets.spelled && values.spelled && op.isText
  | .block p stmts => p.isInt && stmts.spelled
  | .loop p body init cond post =>
    p.isInt && body.spelled && init.spelled && cond.spelled && post.spelled
  | .exprStmt p e => p.isInt && e.spelled
  | .globalDecl p m v => p.isInt && m.isText && v.spelled
  | .funcDecl p m body => p.isInt && m.isText && body.spelled
  | .file p m globals funcs => p.isInt && m.isText && globals.spelled && funcs.spelled
termination_by structural a => a

/-- All items are spelled. -/
def spelledItems : List Datum → Bool
  | [] => true
  | a :: as => a.spelled && spelledItems as
termination_by structural as => as

end

/-! ## §2. The same program. -/

/-- Two trees tell the same program.  They have the same positions, names and operators, and where
they have other values, these are equal. -/
inductive Same : Datum → Datum → Prop
  | atom {a b : Atom} (keys : a.key = b.key) : Same (.atom a) (.atom b)
  | list {as bs : List Datum} (items : List.Forall₂ Same as bs) : Same (.list as) (.list bs)
  | record {as bs : List (String × Datum)} (keys : as.map Prod.fst = bs.map Prod.fst) :
    Same (.record as) (.record bs)
  | ident {p m : Datum} : Same (.ident p m) (.ident p m)
  | number {p v w : Datum} (value : equal v w = true) : Same (.number p v) (.number p w)
  | binary {p op l r l' r' : Datum} (left : Same l l') (right : Same r r') :
    Same (.binary p op l r) (.binary p op l' r')
  | unary {p op a b : Datum} (operand : Same a b) : Same (.unary p op a) (.unary p op b)
  | paren {p a b : Datum} (inner : Same a b) : Same (.paren p a) (.paren p b)
  | call {p f g as bs : Datum} (callee : Same f g) (args : Same as bs) :
    Same (.call p f as) (.call p g bs)
  | varDecl {p m v w : Datum} (value : Same v w) : Same (.varDecl p m v) (.varDecl p m w)
  | assign {p op ts ts' vs vs' : Datum} (targets : Same ts ts') (values : Same vs vs') :
    Same (.assign p ts vs op) (.assign p ts' vs' op)
  | block {p as bs : Datum} (stmts : Same as bs) : Same (.block p as) (.block p bs)
  | loop {p a b i j c d q r : Datum} (body : Same a b) (init : Same i j) (cond : Same c d)
      (post : Same q r) : Same (.loop p a i c q) (.loop p b j d r)
  | exprStmt {p a b : Datum} (expr : Same a b) : Same (.exprStmt p a) (.exprStmt p b)
  | globalDecl {p m v w : Datum} (value : Same v w) : Same (.globalDecl p m v) (.globalDecl p m w)
  | funcDecl {p m a b : Datum} (body : Same a b) : Same (.funcDecl p m a) (.funcDecl p m b)
  | file {p m gs gs' fs fs' : Datum} (globals : Same gs gs') (funcs : Same fs fs') :
    Same (.file p m gs fs) (.file p m gs' fs')

theorem keys_of_alikeEntries {r : Atom → Atom → Bool} : ∀ {as bs : List (String × Datum)},
    alikeEntries r as bs = true → as.map Prod.fst = bs.map Prod.fst
  | [], [], _ => rfl
  | (k, a) :: as, (l, b) :: bs, h => by
    simp only [alikeEntries, Bool.and_eq_true, beq_iff_eq] at h
    rw [List.map_cons, List.map_cons, h.1.1, keys_of_alikeEntries h.2]

mutual

/-- **Spelled trees that are equal tell the same program.** -/
theorem same_of_equal : ∀ (a b : Datum), a.spelled = true → b.spelled = true →
    equal a b = true → Same a b
  | .atom a, b, _, _, h => by
    cases b with
    | atom b => exact .atom (beq_iff_eq.1 h)
    | _ => cases h
  | .list as, b, sa, sb, h => by
    cases b with
    | list bs => exact .list (forall₂_same_of_equal as bs sa sb h)
    | _ => cases h
  | .record as, b, _, _, h => by
    cases b with
    | record bs => exact .record (keys_of_alikeEntries h)
    | _ => cases h
  | .ident p m, b, sa, sb, h => by
    cases b with
    | ident q n =>
      simp only [spelled, equal, alike, Bool.and_eq_true] at sa sb h
      obtain rfl := eq_of_isInt sa.1 sb.1 h.1
      obtain rfl := eq_of_isText sa.2 sb.2 h.2
      exact .ident
    | _ => cases h
  | .number p v, b, sa, sb, h => by
    cases b with
    | number q w =>
      simp only [spelled, equal, alike, Bool.and_eq_true] at sa sb h
      obtain rfl := eq_of_isInt sa sb h.1
      exact .number h.2
    | _ => cases h
  | .binary p op l r, b, sa, sb, h => by
    cases b with
    | binary q op' l' r' =>
      simp only [spelled, equal, alike, Bool.and_eq_true] at sa sb h
      obtain rfl := eq_of_isInt sa.1.1.1 sb.1.1.1 h.1.1.1
      obtain rfl := eq_of_isText sa.1.1.2 sb.1.1.2 h.1.1.2
      exact .binary (same_of_equal l l' sa.1.2 sb.1.2 h.1.2) (same_of_equal r r' sa.2 sb.2 h.2)
    | _ => cases h
  | .unary p op a, b, sa, sb, h => by
    cases b with
    | unary q op' b =>
      simp only [spelled, equal, alike, Bool.and_eq_true] at sa sb h
      obtain rfl := eq_of_isInt sa.1.1 sb.1.1 h.1.1
      obtain rfl := eq_of_isText sa.1.2 sb.1.2 h.1.2
      exact .unary (same_of_equal a b sa.2 sb.2 h.2)
    | _ => cases h
  | .paren p a, b, sa, sb, h => by
    cases b with
    | paren q b =>
      simp only [spelled, equal, alike, Bool.and_eq_true] at sa sb h
      obtain rfl := eq_of_isInt sa.1 sb.1 h.1
      exact .paren (same_of_equal a b sa.2 sb.2 h.2)
    | _ => cases h
  | .call p f as, b, sa, sb, h => by
    cases b with
    | call q g bs =>
      simp only [spelled, equal, alike, Bool.and_eq_true] at sa sb h
      obtain rfl := eq_of_isInt sa.1.1 sb.1.1 h.1.1
      exact .call (same_of_equal f g sa.1.2 sb.1.2 h.1.2) (same_of_equal as bs sa.2 sb.2 h.2)
    | _ => cases h
  | .varDecl p m v, b, sa, sb, h => by
    cases b with
    | varDecl q n w =>
      simp only [spelled, equal, alike, Bool.and_eq_true] at sa sb h
      obtain rfl := eq_of_isInt sa.1.1 sb.1.1 h.1.1
      obtain rfl := eq_of_isText sa.1.2 sb.1.2 h.1.2
      exact .varDecl (same_of_equal v w sa.2 sb.2 h.2)
    | _ => cases h
  | .assign p ts vs op, b, sa, sb, h => by
    cases b with
    | assign q ts' vs' op' =>
      simp only [spelled, equal, alike, Bool.and_eq_true] at sa sb h
      obtain rfl := eq_of_isInt sa.1.1.1 sb.1.1.1 h.1.1.1
      obtain rfl := eq_of_isText sa.2 sb.2 h.2
      exact .assign (same_of_equal ts ts' sa.1.1.2 sb.1.1.2 h.1.1.2)
        (same_of_equal vs vs' sa.1.2 sb.1.2 h.1.2)
    | _ => cases h
  | .block p as, b, sa, sb, h => by
    cases b with
    | block q bs =>
      simp only [spelled, equal, alike, Bool.and_eq_true] at sa sb h
      obtain rfl := eq_of_isInt sa.1 sb.1 h.1
      exact .block (same_of_equal as bs sa.2 sb.2 h.2)
    | _ => cases h
  | .loop p body init cond post, b, sa, sb, h => by
    cases b with
    | loop q body' init' cond' post' =>
      simp only [spelled, equal, alike, Bool.and_eq_true] at sa sb h
      obtain rfl := eq_of_isInt sa.1.1.1.1 sb.1.1.1.1 h.1.1.1.1
      exact .loop (same_of_equal body body' sa.1.1.1.2 sb.1.1.1.2 h.1.1.1.2)
        (same_of_equal init init' sa.1.1.2 sb.1.1.2 h.1.1.2)
        (same_of_equal cond cond' sa.1.2 sb.1.2 h.1.2) (same_of_equal post post' sa.2 sb.2 h.2)
    | _ => cases h
  | .exprStmt p a, b, sa, sb, h => by
    cases b with
    | exprStmt q b =>
      simp only [spelled, equal, alike, Bool.and_eq_true] at sa sb h
      obtain rfl := eq_of_isInt sa.1 sb.1 h.1
      exact .exprStmt (same_of_equal a b sa.2 sb.2 h.2)
    | _ => cases h
  | .globalDecl p m v, b, sa, sb, h => by
    cases b with
    | globalDecl q n w =>
      simp only [spelled, equal, alike, Bool.and_eq_true] at sa sb h
      obtain rfl := eq_of_isInt sa.1.1 sb.1.1 h.1.1
      obtain rfl := eq_of_isText sa.1.2 sb.1.2 h.1.2
      exact .globalDecl (same_of_equal v w sa.2 sb.2 h.2)
    | _ => cases h
  | .funcDecl p m a, b, sa, sb, h => by
    cases b with
    | funcDecl q n b =>
      simp only [spelled, equal, alike, Bool.and_eq_true] at sa sb h
      obtain rfl := eq_of_isInt sa.1.1 sb.1.1 h.1.1
      obtain rfl := eq_of_isText sa.1.2 sb.1.2 h.1.2
      exact .funcDecl (same_of_equal a b sa.2 sb.2 h.2)
    | _ => cases h
  | .file p m gs fs, b, sa, sb, h => by
    cases b with
    | file q n gs' fs' =>
      simp only [spelled, equal, alike, Bool.and_eq_true] at sa sb h
      obtain rfl := eq_of_isInt sa.1.1.1 sb.1.1.1 h.1.1.1
      obtain rfl := eq_of_isText sa.1.1.2 sb.1.1.2 h.1.1.2
      exact .file (same_of_equal gs gs' sa.1.2 sb.1.2 h.1.2) (same_of_equal fs fs' sa.2 sb.2 h.2)
    | _ => cases h

theorem forall₂_same_of_equal : ∀ (as bs : List Datum), spelledItems as = true →
    spelledItems bs = true → alikeItems (fun x y => x.key == y.key) as bs = true →
    List.Forall₂ Same as bs
  | [], bs, _, _, h => by
    cases bs with
    | nil => exact .nil
    | cons => cases h
  | a :: as, bs, sa, sb, h => by
    cases bs with
    | nil => cases h
    | cons b bs =>
      simp only [spelledItems, alikeItems, Bool.and_eq_true] at sa sb h
      exact .cons (same_of_equal a b sa.1 sb.1 h.1) (forall₂_same_of_equal as bs sa.2 sb.2 h.2)

end

/-! ## §3. Literals. -/

/-- An atom that stands for a finite number is read as the integer part of it. -/
theorem readNumber_of_key {a : Atom} {q : Rat} (h : a.key = .number (.finite q)) :
    readNumber (.atom a) = .ok (q.num.tdiv q.den) := by
  cases a with
  | null => cases h
  | text => cases h
  | bool b =>
    cases h
    cases b <;> rfl
  | int n =>
    cases h
    simp [readNumber]
  | real x =>
    cases x with
    | finite negative m e =>
      cases h
      rfl
    | infinite => cases h
    | nan => cases h

/-- What can be read as an integer stands for a finite number, or is a text. -/
theorem readNumber_cases {v : Datum} (h : (readNumber v).isOk = true) :
    (∃ a q, v = .atom a ∧ a.key = .number (.finite q)) ∨ ∃ s, v = .text s := by
  cases v with
  | atom a =>
    cases a with
    | null => cases h
    | bool b => exact .inl ⟨_, _, rfl, rfl⟩
    | int n => exact .inl ⟨_, _, rfl, rfl⟩
    | real x =>
      cases x with
      | finite => exact .inl ⟨_, _, rfl, rfl⟩
      | infinite => cases h
      | nan => cases h
    | text s => exact .inr ⟨s, rfl⟩
  | _ => cases h

/-- **Equal values are read as the same literal.** -/
theorem readNumber_equal {v w : Datum} (same : equal v w = true)
    (h : (readNumber v).isOk = true) : readNumber w = readNumber v := by
  rcases readNumber_cases h with ⟨a, q, rfl, key⟩ | ⟨s, rfl⟩
  · cases w with
    | atom b =>
      have keys : a.key = b.key := beq_iff_eq.1 same
      rw [readNumber_of_key key, readNumber_of_key (keys.symm.trans key)]
    | _ => cases same
  · cases w with
    | atom b => rw [Atom.eq_text_of_key (beq_iff_eq.1 same)]
    | _ => cases same

/-! ## §4. Readings of expressions. -/

theorem readIdent_same {a b : Datum} (same : Same a b) (h : (readIdent a).isOk = true) :
    readIdent b = readIdent a := by
  cases same with
  | ident | varDecl | globalDecl | funcDecl => rfl
  | _ => cases h

theorem length_of_keys {as bs : List (String × Datum)}
    (keys : as.map Prod.fst = bs.map Prod.fst) : as.length = bs.length := by
  simpa only [List.length_map] using congrArg List.length keys

theorem map_const_of_keys {α : Type} {as bs : List (String × Datum)}
    (keys : as.map Prod.fst = bs.map Prod.fst) (x : α) :
    bs.map (fun _ => x) = as.map fun _ => x := by
  rw [List.map_const', List.map_const', length_of_keys keys]

/-- Only a record of one entry has no first item. -/
theorem takingFirst_record {α : Type} (entries : List (String × Datum)) (reading : Reading α) :
    takingFirst (.record entries) reading
      = if entries.length = 1 then .error (.noItem 0) else reading := by
  rcases entries with _ | ⟨first, _ | ⟨second, rest⟩⟩
  · rfl
  · rfl
  · rw [if_neg (by simp)]
    rfl

theorem takingFirst_same {α : Type} {a b : Datum} (same : Same a b) (reading : Reading α) :
    takingFirst b reading = takingFirst a reading := by
  cases same with
  | record keys => rw [takingFirst_record, takingFirst_record, length_of_keys keys]
  | _ => rfl

mutual

theorem readExpr_same : ∀ (a b : Datum), Same a b → (readExpr a).whole = true →
    readExpr b = readExpr a
  | .ident _ _, _, .ident, _ => rfl
  | .number p _, _, .number value, h => congrArg (Expr.number p.readPos) (readNumber_equal value h)
  | .binary _ _ l r, _, .binary left right, h => by
    rw [readExpr, Expr.whole, Bool.and_eq_true] at h
    rw [readExpr, readExpr, readExpr_same l _ left h.1, readExpr_same r _ right h.2]
  | .unary p op a, _, .unary operand, h =>
    congrArg (Expr.unary p.readPos (readOperator UnaryOp.ofSpelling? op))
      (readExpr_same a _ operand h)
  | .paren p a, _, .paren inner, h => congrArg (Expr.paren p.readPos) (readExpr_same a _ inner h)
  | .call _ f args, _, .call callee items, h => by
    rw [readExpr, Expr.whole, Bool.and_eq_true] at h
    have whole : wholeExprItems (readCountedExprs args) = true := by
      have taken := h.2
      unfold takingFirst at taken
      split at taken
      · cases taken
      · exact taken
    rw [readExpr, readExpr, readIdent_same callee h.1, takingFirst_same items,
      readCountedExprs_same args _ items whole]
  | .atom _, _, _, h | .list _, _, _, h | .record _, _, _, h | .varDecl .., _, _, h
  | .assign .., _, _, h | .block .., _, _, h | .loop .., _, _, h | .exprStmt .., _, _, h
  | .globalDecl .., _, _, h | .funcDecl .., _, _, h | .file .., _, _, h => nomatch h

theorem readCountedExprs_same : ∀ (a b : Datum), Same a b →
    wholeExprItems (readCountedExprs a) = true → readCountedExprs b = readCountedExprs a
  | .list as, _, .list items, h => congrArg Except.ok (readExprs_same as _ items h)
  -- of a record only the number of its entries counts, and a text has one reading
  | .record _, _, .record keys, _ => congrArg Except.ok (map_const_of_keys keys _)
  | .atom (.text _), _, .atom keys, _ => by rw [Atom.eq_text_of_key keys]
  | .atom .null, _, _, h | .atom (.bool _), _, _, h | .atom (.int _), _, _, h
  | .atom (.real _), _, _, h => nomatch h
  | .ident .., _, _, h | .number .., _, _, h | .binary .., _, _, h | .unary .., _, _, h
  | .paren .., _, _, h | .call .., _, _, h | .varDecl .., _, _, h | .assign .., _, _, h
  | .block .., _, _, h | .loop .., _, _, h | .exprStmt .., _, _, h | .globalDecl .., _, _, h
  | .funcDecl .., _, _, h | .file .., _, _, h => nomatch h

theorem readExprs_same : ∀ (as bs : List Datum), List.Forall₂ Same as bs →
    wholeExprs (readExprs as) = true → readExprs bs = readExprs as
  | [], _, .nil, _ => rfl
  | a :: as, _, .cons first rest, h => by
    rw [readExprs, wholeExprs, Bool.and_eq_true] at h
    rw [readExprs, readExprs, readExpr_same a _ first h.1, readExprs_same as _ rest h.2]

end

/-! ## §5. Readings of statements. -/

theorem unlessNull_of_ne {α : Type} {a : Datum} (present : a ≠ .null) (x : α) :
    unlessNull a x = some x := by
  unfold unlessNull
  split
  · exact absurd rfl present
  · rfl

/-- A part is absent from both trees or from none. -/
theorem Same.eq_null_iff {a b : Datum} (same : Same a b) : a = .null ↔ b = .null := by
  cases same with
  | atom keys =>
    rw [Datum.atom.injEq, Datum.atom.injEq]
    exact Atom.eq_null_iff keys
  | _ => exact ⟨nofun, nofun⟩

theorem unlessNull_same {α : Type} {a b : Datum} {x y : α} (same : Same a b)
    (reads : a ≠ .null → y = x) : unlessNull b y = unlessNull a x := by
  by_cases absent : a = .null
  · rw [absent, same.eq_null_iff.1 absent]
    rfl
  · rw [unlessNull_of_ne absent, unlessNull_of_ne (mt same.eq_null_iff.2 absent), reads absent]

theorem readExpr?_same {a b : Datum} (same : Same a b) (h : wholeExpr? (readExpr? a) = true) :
    readExpr? b = readExpr? a := by
  refine unlessNull_same same fun present => ?_
  rw [readExpr?, unlessNull_of_ne present] at h
  exact readExpr_same a b same h

/-- Items are read in the same way if each of them is. -/
theorem map_same {α : Type} {read : Datum → α} {p : α → Bool}
    (one : ∀ {a b : Datum}, Same a b → p (read a) = true → read b = read a)
    {as bs : List Datum} (items : List.Forall₂ Same as bs) (h : (as.map read).all p = true) :
    bs.map read = as.map read := by
  induction items with
  | nil => rfl
  | cons first _ ih =>
    rw [List.map_cons, List.all_cons, Bool.and_eq_true] at h
    rw [List.map_cons, List.map_cons, one first h.1, ih h.2]

theorem readTargets_same {a b : Datum} (same : Same a b)
    (h : holdsOf (·.all (·.isOk)) (readTargets a) = true) : readTargets b = readTargets a := by
  cases same with
  | list items => exact congrArg Except.ok (map_same readIdent_same items h)
  | record keys => exact congrArg Except.ok (map_const_of_keys keys _)
  | @atom a b keys =>
    cases a with
    | text => rw [Atom.eq_text_of_key keys]
    | _ => cases h
  | _ => cases h

mutual

theorem readStmt_same : ∀ (a b : Datum), Same a b → (readStmt a).whole = true →
    readStmt b = readStmt a
  | .varDecl p m _, _, .varDecl value, h =>
    congrArg (Stmt.varDecl p.readPos ⟨m⟩) (readExpr?_same value h)
  | .assign _ _ _ _, _, .assign targets values, h => by
    rw [readStmt, Stmt.whole, Bool.and_eq_true] at h
    rw [readStmt, readStmt, readTargets_same targets h.1, readCountedExprs_same _ _ values h.2]
  | .block p as, _, .block stmts, h =>
    congrArg (Stmt.block p.readPos) (readStmtItems_same as _ stmts h)
  | .loop _ body init _ post, .loop _ _ init' _ post', .loop sameBody sameInit sameCond samePost,
      h => by
    -- a part that is absent is not read, and both trees leave out the same parts
    simp only [readStmt, Stmt.whole, Bool.and_eq_true] at h
    obtain ⟨⟨⟨wholeBody, wholeInit⟩, wholeCond⟩, wholePost⟩ := h
    have first : unlessNull init' (readStmt init') = unlessNull init (readStmt init) := by
      refine unlessNull_same sameInit fun present => ?_
      rw [unlessNull_of_ne present] at wholeInit
      exact readStmt_same init init' sameInit wholeInit
    have last : unlessNull post' (readStmt post') = unlessNull post (readStmt post) := by
      refine unlessNull_same samePost fun present => ?_
      rw [unlessNull_of_ne present] at wholePost
      exact readStmt_same post post' samePost wholePost
    rw [readStmt, readStmt, readStmt_same body _ sameBody wholeBody, first,
      readExpr?_same sameCond wholeCond, last]
  | .exprStmt p a, _, .exprStmt expr, h =>
    congrArg (Stmt.exprStmt p.readPos) (readExpr_same a _ expr h)
  | .atom _, _, _, h | .list _, _, _, h | .record _, _, _, h | .ident .., _, _, h
  | .number .., _, _, h | .binary .., _, _, h | .unary .., _, _, h | .paren .., _, _, h
  | .call .., _, _, h | .globalDecl .., _, _, h | .funcDecl .., _, _, h | .file .., _, _, h =>
    nomatch h

theorem readStmtItems_same : ∀ (a b : Datum), Same a b →
    wholeItems (readStmtItems a) = true → readStmtItems b = readStmtItems a
  | .list as, _, .list items, h => congrArg Except.ok (readStmts_same as _ items h)
  | .record _, _, .record keys, _ => congrArg Except.ok (map_const_of_keys keys _)
  | .atom (.text _), _, .atom keys, _ => by rw [Atom.eq_text_of_key keys]
  | .atom .null, _, _, h | .atom (.bool _), _, _, h | .atom (.int _), _, _, h
  | .atom (.real _), _, _, h => nomatch h
  | .ident .., _, _, h | .number .., _, _, h | .binary .., _, _, h | .unary .., _, _, h
  | .paren .., _, _, h | .call .., _, _, h | .varDecl .., _, _, h | .assign .., _, _, h
  | .block .., _, _, h | .loop .., _, _, h | .exprStmt .., _, _, h | .globalDecl .., _, _, h
  | .funcDecl .., _, _, h | .file .., _, _, h => nomatch h

theorem readStmts_same : ∀ (as bs : List Datum), List.Forall₂ Same as bs →
    wholeStmts (readStmts as) = true → readStmts bs = readStmts as
  | [], _, .nil, _ => rfl
  | a :: as, _, .cons first rest, h => by
    rw [readStmts, wholeStmts, Bool.and_eq_true] at h
    rw [readStmts, readStmts, readStmt_same a _ first h.1, readStmts_same as _ rest h.2]

end

/-! ## §6. Readings of files. -/

theorem readGlobal_same {a b : Datum} (same : Same a b)
    (h : holdsOf GlobalEntry.whole (readGlobal a) = true) : readGlobal b = readGlobal a := by
  cases same with
  | varDecl value | globalDecl value =>
    have initial := readExpr?_same value h
    simp only [readGlobal, readIdent, readInitial, initial]
    rfl
  | _ => cases h

theorem readBodyStmts_same {a b : Datum} (same : Same a b)
    (h : wholeItems (readBodyStmts a) = true) : readBodyStmts b = readBodyStmts a := by
  cases same with
  | @block p as bs stmts => exact readStmtItems_same as bs stmts h
  | _ => cases h

/-- A function with something in the place of its body has statements. -/
theorem readBody_of_ne {p m body : Datum} (present : body ≠ .null) :
    readBody (.funcDecl p m body) = .ok (.stmts (readBodyStmts body)) := by
  cases body with
  | atom a =>
    cases a with
    | null => exact absurd rfl present
    | _ => rfl
  | _ => rfl

theorem readFunc_same {a b : Datum} (same : Same a b)
    (h : holdsOf FuncEntry.whole (readFunc a) = true) : readFunc b = readFunc a := by
  cases same with
  | @funcDecl p m a b body =>
    by_cases external : a = .null
    · rw [external, body.eq_null_iff.1 external]
    · have present := mt body.eq_null_iff.2 external
      replace h : holdsOf Body.whole (readBody (.funcDecl p m a)) = true := h
      rw [readBody_of_ne external] at h
      have stmts := readBodyStmts_same body h
      simp only [readFunc, readIdent, readBody_of_ne external, readBody_of_ne present, stmts]
      rfl
  | _ => cases h

theorem readEntries_same {α : Type} {read : Datum → Reading α} {p : Reading α → Bool}
    (one : ∀ {a b : Datum}, Same a b → p (read a) = true → read b = read a) {a b : Datum}
    (same : Same a b) (h : holdsOf (·.all p) (readEntries read a) = true) :
    readEntries read b = readEntries read a := by
  cases same with
  | list items => exact congrArg Except.ok (map_same one items h)
  | @record as bs keys =>
    -- an entry is read from its key alone
    have texts : bs.map (fun entry => read (.text entry.1))
        = as.map fun entry => read (.text entry.1) := by
      have both := congrArg (List.map fun key => read (.text key)) keys
      rw [List.map_map, List.map_map] at both
      exact both.symm
    exact congrArg Except.ok texts
  | @atom a b keys =>
    cases a with
    | text => rw [Atom.eq_text_of_key keys]
    | _ => cases h
  | _ => cases h

/-- **Files that tell the same program have the same reading, if it is whole.** -/
theorem readSource_same {a b : Datum} {file : SourceFile} (same : Same a b)
    (reads : readSource a = .ok file) (whole : file.whole = true) : readSource b = .ok file := by
  cases same with
  | @file p m gs gs' fs fs' globals funcs =>
    cases reads
    rw [SourceFile.whole, Bool.and_eq_true] at whole
    rw [readSource, readEntries_same readGlobal_same globals whole.1,
      readEntries_same readFunc_same funcs whole.2]
  | _ => cases reads

end SlotIR.Datum

namespace SlotIR

open Datum (Same same_of_equal readSource readSource_same)

/-! ## §7. Modules. -/

/-- **Equal files compile to the same module.**  Equality of trees is an equivalence.  If the
positions of two trees are integers and their names, packages and operators texts, and the trees are
equal, then what the one is lowered to, the text and the state after it, the other is lowered to. -/
theorem generateRead_equal :
    (Equivalence fun a b : Datum => Datum.equal a b = true)
      ∧ ∀ (options : Options) (a b : Datum) (s t : State) (text : String),
        a.spelled = true → b.spelled = true → Datum.equal a b = true →
        generateRead options (readSource a) s = .ok text t →
        generateRead options (readSource b) s = .ok text t := by
  refine ⟨Datum.equal_equivalence, fun options a b s t text spelledA spelledB same ran => ?_⟩
  cases reads : readSource a with
  | error fault =>
    rw [reads, generateRead, Lower.bind_eq_ok] at ran
    obtain ⟨_, _, _, failed⟩ := ran
    cases failed
  | ok file =>
    rw [reads] at ran
    rw [readSource_same (same_of_equal a b spelledA spelledB same) reads (generate_whole ran)]
    exact ran

/-- `var g = 1`, and `x, g := 2, g < 3; println(x)` in `main`, with the given values as literals. -/
def literalsFile (one two three : Datum) : Datum :=
  .file (.int 0) (.text "main")
    (.list [.globalDecl (.int 1) (.text "g") (.number (.int 2) one)])
    (.list [.funcDecl (.int 3) (.text "main") (.block (.int 4) (.list
      [.assign (.int 5) (.list [.ident (.int 5) (.text "x"), .ident (.int 6) (.text "g")])
        (.list [.number (.int 7) two,
          .binary (.int 8) (.text "<") (.ident (.int 9) (.text "g")) (.number (.int 10) three)])
        (.text ":="),
      .exprStmt (.int 11) (.call (.int 11) (.ident (.int 11) (.text "println"))
        (.list [.ident (.int 12) (.text "x")]))]))])

/-- The literals 1, 2.0 and "3", and the literals true, 2 and "3". -/
theorem generateRead_equal_literals :
    literalsFile (.int 1) (.real (.finite false 1 1)) (.text "3")
        ≠ literalsFile (.bool true) (.int 2) (.text "3")
      ∧ Datum.equal (literalsFile (.int 1) (.real (.finite false 1 1)) (.text "3"))
          (literalsFile (.bool true) (.int 2) (.text "3")) = true
      ∧ ∃ text t,
        generateRead {} (readSource (literalsFile (.int 1) (.real (.finite false 1 1)) (.text "3")))
            {} = .ok text t
          ∧ generateRead {} (readSource (literalsFile (.bool true) (.int 2) (.text "3"))) {}
            = .ok text t := by
  have accepted : Lower.succeeds (generateRead {}
      (readSource (literalsFile (.int 1) (.real (.finite false 1 1)) (.text "3"))) {}) = true := by
    decide +kernel
  have same : Datum.equal (literalsFile (.int 1) (.real (.finite false 1 1)) (.text "3"))
      (literalsFile (.bool true) (.int 2) (.text "3")) = true := by
    decide +kernel
  obtain ⟨text, t, ran⟩ := Lower.exists_of_succeeds accepted
  refine ⟨by decide +kernel, same, text, t, ran, ?_⟩
  exact generateRead_equal.2 {} _ _ {} t text (by decide +kernel) (by decide +kernel) same ran

end SlotIR
