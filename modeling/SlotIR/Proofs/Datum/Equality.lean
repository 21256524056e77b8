/-
  SlotIR.Proofs.Datum.Equality
  ────────────────────────────
  **EQUALITY OF TREES IS AN EQUIVALENCE.**

  Atoms are equal if they stand for the same.  If one atom is CHOSEN among
  those that stand for the same, trees are equal if, and only if, they
  become one tree when each atom gives way to the chosen one
  (`equal_iff_standard`).  So equality has all laws of identity, and of
  equal trees the plainest parts are even identical: texts, null, and
  integers among integers.
-/
import SlotIR.Datum.Equality
import Mathlib.Logic.Function.Basic

namespace SlotIR

/-! ## §1. Chosen atoms. -/

/-- One of the atoms that stand for the same as the given one. -/
noncomputable def Atom.chosen (a : Atom) : Atom := Function.invFun Atom.key a.key

theorem Atom.key_chosen (a : Atom) : a.chosen.key = a.key := Function.invFun_eq ⟨a, rfl⟩

theorem Atom.chosen_eq_iff (a b : Atom) : a.chosen = b.chosen ↔ a.key = b.key := by
  constructor
  · intro same
    rw [← key_chosen a, same, key_chosen b]
  · intro same
    rw [chosen, same, chosen]

/-- Only null stands for what null does. -/
theorem Atom.eq_null_iff {a b : Atom} (same : a.key = b.key) : a = .null ↔ b = .null := by
  cases a <;> cases b <;> simp [key] at same ⊢

/-- Only a text stands for what it does. -/
theorem Atom.eq_text_of_key {a : Atom} {s : String} (same : (Atom.text s).key = a.key) :
    a = .text s := by
  cases a with
  | text t => rw [Key.text.inj same]
  | _ => cases same

namespace Datum

/-! ## §2. Trees with other atoms. -/

mutual

/-- The tree with other atoms. -/
def mapAtoms (f : Atom → Atom) : Datum → Datum
  | .atom a => .atom (f a)
  | .list items => .list (mapItems f items)
  | .record entries => .record (mapEntries f entries)
  | .ident p m => .ident (p.mapAtoms f) (m.mapAtoms f)
  | .number p a => .number (p.mapAtoms f) (a.mapAtoms f)
  | .binary p a₁ a₂ a₃ =>
    .binary (p.mapAtoms f) (a₁.mapAtoms f) (a₂.mapAtoms f) (a₃.mapAtoms f)
  | .unary p a₁ a₂ => .unary (p.mapAtoms f) (a₁.mapAtoms f) (a₂.mapAtoms f)
  | .paren p a => .paren (p.mapAtoms f) (a.mapAtoms f)
  | .call p a₁ a₂ => .call (p.mapAtoms f) (a₁.mapAtoms f) (a₂.mapAtoms f)
  | .varDecl p m a => .varDecl (p.mapAtoms f) (m.mapAtoms f) (a.mapAtoms f)
  | .assign p a₁ a₂ a₃ =>
    .assign (p.mapAtoms f) (a₁.mapAtoms f) (a₂.mapAtoms f) (a₃.mapAtoms f)
  | .block p a => .block (p.mapAtoms f) (a.mapAtoms f)
  | .loop p a₁ a₂ a₃ a₄ =>
    .loop (p.mapAtoms f) (a₁.mapAtoms f) (a₂.mapAtoms f) (a₃.mapAtoms f) (a₄.mapAtoms f)
  | .exprStmt p a => .exprStmt (p.mapAtoms f) (a.mapAtoms f)
  | .globalDecl p m a => .globalDecl (p.mapAtoms f) (m.mapAtoms f) (a.mapAtoms f)
  | .funcDecl p m a => .funcDecl (p.mapAtoms f) (m.mapAtoms f) (a.mapAtoms f)
  | .file p m a₁ a₂ => .file (p.mapAtoms f) (m.mapAtoms f) (a₁.mapAtoms f) (a₂.mapAtoms f)
termination_by structural a => a

/-- The items with other atoms. -/
def mapItems (f : Atom → Atom) : List Datum → List Datum
  | [] => []
  | a :: as => a.mapAtoms f :: mapItems f as
termination_by structural as => as

/-- The entries with other atoms. -/
def mapEntries (f : Atom → Atom) : List (String × Datum) → List (String × Datum)
  | [] => []
  | (k, a) :: as => (k, a.mapAtoms f) :: mapEntries f as
termination_by structural as => as

end

section

variable (r : Atom → Atom → Bool) (f : Atom → Atom)

mutual

/-- Trees with other atoms are alike if the trees are, with their atoms compared as the others. -/
theorem alike_mapAtoms : ∀ a b : Datum,
    alike r (a.mapAtoms f) (b.mapAtoms f) = alike (fun x y => r (f x) (f y)) a b
  | .atom a, b => by cases b <;> rfl
  | .list as, b => by
    cases b with
    | list => simp only [mapAtoms, alike, alikeItems_mapItems as]
    | _ => rfl
  | .record as, b => by
    cases b with
    | record => simp only [mapAtoms, alike, alikeEntries_mapEntries as]
    | _ => rfl
  | .ident p m, b => by
    cases b with
    | ident => simp only [mapAtoms, alike, alike_mapAtoms p, alike_mapAtoms m]
    | _ => rfl
  | .number p a, b => by
    cases b with
    | number => simp only [mapAtoms, alike, alike_mapAtoms p, alike_mapAtoms a]
    | _ => rfl
  | .binary p a₁ a₂ a₃, b => by
    cases b with
    | binary =>
      simp only [mapAtoms, alike, alike_mapAtoms p, alike_mapAtoms a₁, alike_mapAtoms a₂,
        alike_mapAtoms a₃]
    | _ => rfl
  | .unary p a₁ a₂, b => by
    cases b with
    | unary => simp only [mapAtoms, alike, alike_mapAtoms p, alike_mapAtoms a₁, alike_mapAtoms a₂]
    | _ => rfl
  | .paren p a, b => by
    cases b with
    | paren => simp only [mapAtoms, alike, alike_mapAtoms p, alike_mapAtoms a]
    | _ => rfl
  | .call p a₁ a₂, b => by
    cases b with
    | call => simp only [mapAtoms, alike, alike_mapAtoms p, alike_mapAtoms a₁, alike_mapAtoms a₂]
    | _ => rfl
  | .varDecl p m a, b => by
    cases b with
    | varDecl => simp only [mapAtoms, alike, alike_mapAtoms p, alike_mapAtoms m, alike_mapAtoms a]
    | _ => rfl
  | .assign p a₁ a₂ a₃, b => by
    cases b with
    | assign =>
      simp only [mapAtoms, alike, alike_mapAtoms p, alike_mapAtoms a₁, alike_mapAtoms a₂,
        alike_mapAtoms a₃]
    | _ => rfl
  | .block p a, b => by
    cases b with
    | block => simp only [mapAtoms, alike, alike_mapAtoms p, alike_mapAtoms a]
    | _ => rfl
  | .loop p a₁ a₂ a₃ a₄, b => by
    cases b with
    | loop =>
      simp only [mapAtoms, alike, alike_mapAtoms p, alike_mapAtoms a₁, alike_mapAtoms a₂,
        alike_mapAtoms a₃, alike_mapAtoms a₄]
    | _ => rfl
  | .exprStmt p a, b => by
    cases b with
    | exprStmt => simp only [mapAtoms, alike, alike_mapAtoms p, alike_mapAtoms a]
    | _ => rfl
  | .globalDecl p m a, b => by
    cases b with
    | globalDecl =>
      simp only [mapAtoms, alike, alike_mapAtoms p, alike_mapAtoms m, alike_mapAtoms a]
    | _ => rfl
  | .funcDecl p m a, b => by
    cases b with
    | funcDecl => simp only [mapAtoms, alike, alike_mapAtoms p, alike_mapAtoms m, alike_mapAtoms a]
    | _ => rfl
  | .file p m a₁ a₂, b => by
    cases b with
    | file =>
      simp only [mapAtoms, alike, alike_mapAtoms p, alike_mapAtoms m, alike_mapAtoms a₁,
        alike_mapAtoms a₂]
    | _ => rfl

theorem alikeItems_mapItems : ∀ as bs : List Datum,
    alikeItems r (mapItems f as) (mapItems f bs) = alikeItems (fun x y => r (f x) (f y)) as bs
  | [], bs => by cases bs <;> rfl
  | a :: as, bs => by
    cases bs <;> simp [mapItems, alikeItems, alike_mapAtoms a, alikeItems_mapItems as]

theorem alikeEntries_mapEntries : ∀ as bs : List (String × Datum),
    alikeEntries r (mapEntries f as) (mapEntries f bs)
      = alikeEntries (fun x y => r (f x) (f y)) as bs
  | [], bs => by cases bs <;> rfl
  | (k, a) :: as, bs => by
    cases bs <;> simp [mapEntries, alikeEntries, alike_mapAtoms a, alikeEntries_mapEntries as]

end

end

/-! ## §3. Equality. -/

/-- The tree with the chosen atoms. -/
noncomputable def standard (a : Datum) : Datum := a.mapAtoms Atom.chosen

/-- **Trees are equal if they are the same with the chosen atoms.** -/
theorem equal_iff_standard (a b : Datum) : equal a b = true ↔ a.standard = b.standard := by
  have atoms : (fun x y : Atom => x.key == y.key) = fun x y => x.chosen == y.chosen := by
    funext x y
    rw [Bool.eq_iff_iff, beq_iff_eq, beq_iff_eq, Atom.chosen_eq_iff]
  rw [← alike_eq_iff, standard, standard, alike_mapAtoms, equal, atoms]

theorem equal_equivalence : Equivalence fun a b : Datum => equal a b = true where
  refl a := (equal_iff_standard a a).2 rfl
  symm same := (equal_iff_standard _ _).2 ((equal_iff_standard _ _).1 same).symm
  trans first second := (equal_iff_standard _ _).2
    (((equal_iff_standard _ _).1 first).trans ((equal_iff_standard _ _).1 second))

/-! ## §4. Parts that are identical if they are equal. -/

/-- The datum is an integer. -/
def isInt : Datum → Bool
  | .int _ => true
  | _ => false

/-- The datum is a text. -/
def isText (a : Datum) : Bool := a.text?.isSome

theorem eq_int_of_isInt {a : Datum} (h : a.isInt = true) : ∃ n, a = .int n := by
  unfold isInt at h
  split at h
  · exact ⟨_, rfl⟩
  · cases h

theorem eq_text_of_isText {a : Datum} (h : a.isText = true) : ∃ s, a = .text s := by
  unfold isText text? at h
  split at h
  · exact ⟨_, rfl⟩
  · cases h

/-- Integers are equal only if they are identical. -/
theorem eq_of_isInt {a b : Datum} (intA : a.isInt = true) (intB : b.isInt = true)
    (same : equal a b = true) : a = b := by
  obtain ⟨n, rfl⟩ := eq_int_of_isInt intA
  obtain ⟨m, rfl⟩ := eq_int_of_isInt intB
  have keys : Key.number (.finite n) = .number (.finite m) := beq_iff_eq.1 same
  rw [Key.number.injEq, Quantity.finite.injEq, Rat.intCast_inj] at keys
  rw [keys]

/-- Texts are equal only if they are identical. -/
theorem eq_of_isText {a b : Datum} (textA : a.isText = true) (textB : b.isText = true)
    (same : equal a b = true) : a = b := by
  obtain ⟨s, rfl⟩ := eq_text_of_isText textA
  obtain ⟨t, rfl⟩ := eq_text_of_isText textB
  have keys : Key.text s = .text t := beq_iff_eq.1 same
  rw [Key.text.inj keys]

end Datum
end SlotIR
