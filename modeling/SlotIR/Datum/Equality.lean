/-
  SlotIR.Datum.Equality
  ─────────────────────
  **STRUCTURAL EQUALITY OF TREES.**

  Two trees are ALIKE under a relation on atoms if they have the same shape
  and their atoms are related: nodes have the same kind, and their fields,
  positions included, are alike; lists and records are compared member by
  member.  There are two cases of interest:

      equality    atoms that stand for the same, so that the integer 1,
                  the real 1.0 and the boolean true are equal
      identity    the same atoms (`alike_eq_iff`), so that identity of
                  trees is decidable
-/
import SlotIR.Datum.Basic

namespace SlotIR.Datum

/-! ## §1. Trees of one shape. -/

mutual

/-- Two data have one shape, and their atoms are related. -/
def alike (r : Atom → Atom → Bool) : Datum → Datum → Bool
  | .atom a, .atom b => r a b
  | .list as, .list bs => alikeItems r as bs
  | .record as, .record bs => alikeEntries r as bs
  | .ident p m, .ident q n => alike r p q && alike r m n
  | .number p a, .number q b => alike r p q && alike r a b
  | .binary p a₁ a₂ a₃, .binary q b₁ b₂ b₃ =>
    alike r p q && alike r a₁ b₁ && alike r a₂ b₂ && alike r a₃ b₃
  | .unary p a₁ a₂, .unary q b₁ b₂ => alike r p q && alike r a₁ b₁ && alike r a₂ b₂
  | .paren p a, .paren q b => alike r p q && alike r a b
  | .call p a₁ a₂, .call q b₁ b₂ => alike r p q && alike r a₁ b₁ && alike r a₂ b₂
  | .varDecl p m a, .varDecl q n b => alike r p q && alike r m n && alike r a b
  | .assign p a₁ a₂ a₃, .assign q b₁ b₂ b₃ =>
    alike r p q && alike r a₁ b₁ && alike r a₂ b₂ && alike r a₃ b₃
  | .block p a, .block q b => alike r p q && alike r a b
  | .loop p a₁ a₂ a₃ a₄, .loop q b₁ b₂ b₃ b₄ =>
    alike r p q && alike r a₁ b₁ && alike r a₂ b₂ && alike r a₃ b₃ && alike r a₄ b₄
  | .exprStmt p a, .exprStmt q b => alike r p q && alike r a b
  | .globalDecl p m a, .globalDecl q n b => alike r p q && alike r m n && alike r a b
  | .funcDecl p m a, .funcDecl q n b => alike r p q && alike r m n && alike r a b
  | .file p m a₁ a₂, .file q n b₁ b₂ =>
    alike r p q && alike r m n && alike r a₁ b₁ && alike r a₂ b₂
  | _, _ => false

/-- Two lists are alike, item by item. -/
def alikeItems (r : Atom → Atom → Bool) : List Datum → List Datum → Bool
  | [], [] => true
  | a :: as, b :: bs => alike r a b && alikeItems r as bs
  | _, _ => false

/-- Two records, whose entries stand in the order of their keys, are alike. -/
def alikeEntries (r : Atom → Atom → Bool) :
    List (String × Datum) → List (String × Datum) → Bool
  | [], [] => true
  | (k, a) :: as, (l, b) :: bs => k == l && alike r a b && alikeEntries r as bs
  | _, _ => false

end

/-! ## §2. Equality. -/

/-- Structural equality of two data: their atoms stand for the same. -/
def equal (a b : Datum) : Bool := alike (fun x y => x.key == y.key) a b

/-- Equality of two data that are not compared as parts of others.  What is no number differs from
itself then, while as a part of a tree it equals itself. -/
def equalWhole : Datum → Datum → Bool
  | .real .nan, _ => false
  | a, b => equal a b

example : equal (.number (.int 3) (.int 1)) (.number (.int 3) (.bool true)) = true := by
  decide +kernel
example : equal (.number (.int 3) (.int 1)) (.number (.int 4) (.int 1)) = false := by
  decide +kernel

/-! ## §3. Identity. -/

mutual

/-- Trees whose atoms are the same are the same. -/
theorem alike_eq_iff : ∀ a b : Datum, alike (fun x y => x == y) a b = true ↔ a = b
  | .atom a, b => by cases b <;> simp [alike]
  | .list as, b => by cases b <;> simp [alike, alikeItems_eq_iff as]
  | .record as, b => by cases b <;> simp [alike, alikeEntries_eq_iff as]
  | .ident p m, b => by cases b <;> simp [alike, alike_eq_iff p, alike_eq_iff m]
  | .number p a, b => by cases b <;> simp [alike, alike_eq_iff p, alike_eq_iff a]
  | .binary p a₁ a₂ a₃, b => by
    cases b <;> simp [alike, alike_eq_iff p, alike_eq_iff a₁, alike_eq_iff a₂,
      alike_eq_iff a₃, and_assoc]
  | .unary p a₁ a₂, b => by
    cases b <;> simp [alike, alike_eq_iff p, alike_eq_iff a₁, alike_eq_iff a₂, and_assoc]
  | .paren p a, b => by cases b <;> simp [alike, alike_eq_iff p, alike_eq_iff a]
  | .call p a₁ a₂, b => by
    cases b <;> simp [alike, alike_eq_iff p, alike_eq_iff a₁, alike_eq_iff a₂, and_assoc]
  | .varDecl p m a, b => by
    cases b <;> simp [alike, alike_eq_iff p, alike_eq_iff m, alike_eq_iff a, and_assoc]
  | .assign p a₁ a₂ a₃, b => by
    cases b <;> simp [alike, alike_eq_iff p, alike_eq_iff a₁, alike_eq_iff a₂,
      alike_eq_iff a₃, and_assoc]
  | .block p a, b => by cases b <;> simp [alike, alike_eq_iff p, alike_eq_iff a]
  | .loop p a₁ a₂ a₃ a₄, b => by
    cases b <;> simp [alike, alike_eq_iff p, alike_eq_iff a₁, alike_eq_iff a₂,
      alike_eq_iff a₃, alike_eq_iff a₄, and_assoc]
  | .exprStmt p a, b => by cases b <;> simp [alike, alike_eq_iff p, alike_eq_iff a]
  | .globalDecl p m a, b => by
    cases b <;> simp [alike, alike_eq_iff p, alike_eq_iff m, alike_eq_iff a, and_assoc]
  | .funcDecl p m a, b => by
    cases b <;> simp [alike, alike_eq_iff p, alike_eq_iff m, alike_eq_iff a, and_assoc]
  | .file p m a₁ a₂, b => by
    cases b <;> simp [alike, alike_eq_iff p, alike_eq_iff m, alike_eq_iff a₁,
      alike_eq_iff a₂, and_assoc]

/-- Lists whose atoms are the same are the same. -/
theorem alikeItems_eq_iff :
    ∀ as bs : List Datum, alikeItems (fun x y => x == y) as bs = true ↔ as = bs
  | [], bs => by cases bs <;> simp [alikeItems]
  | a :: as, bs => by cases bs <;> simp [alikeItems, alike_eq_iff a, alikeItems_eq_iff as]

/-- Records whose keys and atoms are the same are the same. -/
theorem alikeEntries_eq_iff :
    ∀ as bs : List (String × Datum), alikeEntries (fun x y => x == y) as bs = true ↔ as = bs
  | [], bs => by cases bs <;> simp [alikeEntries]
  | (k, a) :: as, bs => by
    rcases bs with _ | ⟨⟨l, b⟩, bs⟩ <;>
      simp [alikeEntries, alike_eq_iff a, alikeEntries_eq_iff as]

end

instance : DecidableEq Datum := fun a b => decidable_of_decidable_of_iff (alike_eq_iff a b)

/-! ## §4. Records in the order of their keys. -/

/-- Insert an entry into a record in the order of its keys, in place of one of the same key. -/
def insertEntry (key : String) (value : Datum) :
    List (String × Datum) → List (String × Datum)
  | [] => [(key, value)]
  | (k, v) :: rest =>
    if key = k then (key, value) :: rest
    else if key < k then (key, value) :: (k, v) :: rest
    else (k, v) :: insertEntry key value rest

/-- The record with the given entries; of several with one key the last counts. -/
def ofEntries (entries : List (String × Datum)) : Datum :=
  .record (entries.foldl (fun sorted entry => insertEntry entry.1 entry.2 sorted) [])

end SlotIR.Datum
