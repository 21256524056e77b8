/-
  SlotIR.Proofs.Emission.Assignment
  ─────────────────────────────────
  **ASSIGNMENTS, TARGET BY TARGET.**

  Lowering first declares the targets of `:=` that no frame binds, and then
  stores into all targets.  A store goes where its target is declared, and
  a later declaration does not change that (`Defines.means`); so the
  declarations can as well be made one at a time, each before its store
  (`Prepares.assigns`).
-/
import SlotIR.Proofs.Emission.Numbering

namespace SlotIR

/-! ## §1. What declarations leave as it was. -/

/-- A name means one place. -/
theorem Means.unique {scope : Chain Key Storage} {name : Name} {place other : Storage}
    (h : Means scope name place) (h' : Means scope name other) : place = other := by
  obtain ⟨key, keyed, found⟩ := h
  obtain ⟨key', keyed', found'⟩ := h'
  rw [keyed] at keyed'
  cases keyed'
  exact Option.some.inj (found.symm.trans found')

/-- A declaration of a name without a meaning leaves the meanings of others. -/
theorem Local.means {σ τ : Layout} {name other : Name} {pos : Pos} {slot : Slot} {place : Storage}
    (h : Local σ name pos slot τ) (unbound : Unbound σ.scope name)
    (means : Means σ.scope other place) : Means τ.scope other place := by
  cases h with
  | @intro key _ keyed opened _ =>
    obtain ⟨frame, outer, frames⟩ := List.exists_cons_of_ne_nil opened
    obtain ⟨key', keyed', free⟩ := unbound
    obtain ⟨name', named, found⟩ := means
    rw [keyed] at keyed'
    cases keyed'
    refine ⟨name', named, ?_⟩
    rw [frames] at free found ⊢
    exact Chain.find?_declare_of_some free found

/-- A name without a meaning means the slot that it is declared with. -/
theorem Local.means_self {σ τ : Layout} {name : Name} {pos : Pos} {slot : Slot}
    (h : Local σ name pos slot τ) (unbound : Unbound σ.scope name) :
    Means τ.scope name (.slot slot) := by
  cases h with
  | @intro key _ keyed opened _ =>
    obtain ⟨frame, outer, frames⟩ := List.exists_cons_of_ne_nil opened
    obtain ⟨key', keyed', free⟩ := unbound
    rw [keyed] at keyed'
    cases keyed'
    refine ⟨key, keyed, ?_⟩
    rw [frames] at free ⊢
    exact Chain.find?_declare_self free _

/-- The declarations of `:=` leave the meanings there are. -/
theorem Defines.means {σ τ : Layout} {targets : List (Reading Ident)} {name : Name}
    {place : Storage} (h : Defines σ targets τ) (means : Means σ.scope name place) :
    Means τ.scope name place := by
  induction h with
  | nil => exact means
  | visible _ _ ih => exact ih means
  | fresh unbound new _ ih => exact ih (new.means unbound means)

/-! ## §2. One target after the other. -/

/-- Stores of temporaries into targets, each of which is declared just before its store if it has
to be. -/
inductive Assigns : AssignOp → Layout → List (Reading Ident) → List Nat → List Instr → Layout → Prop
  | nil {op : AssignOp} {σ : Layout} : Assigns op σ [] [] [] σ
  | visible {op : AssignOp} {σ τ : Layout} {id : Ident} {targets : List (Reading Ident)}
      {ds : List Nat} {code : List Instr} {d : Nat} {place : Storage}
      (means : Means σ.scope id.name place) (others : Assigns op σ targets ds code τ) :
      Assigns op σ (.ok id :: targets) (d :: ds) (.store (.temp d) place :: code) τ
  | fresh {σ ρ τ : Layout} {id : Ident} {targets : List (Reading Ident)}
      {ds : List Nat} {code : List Instr} {d : Nat} {slot : Slot}
      (unbound : Unbound σ.scope id.name) (new : Local σ id.name id.pos slot ρ)
      (others : Assigns .define ρ targets ds code τ) :
      Assigns .define σ (.ok id :: targets) (d :: ds) (.store (.temp d) (.slot slot) :: code) τ

/-- An assignment keeps the slots that are reserved. -/
theorem Assigns.slots_subset {op : AssignOp} {σ τ : Layout} {targets : List (Reading Ident)}
    {ds : List Nat} {code : List Instr} (h : Assigns op σ targets ds code τ) :
    ∀ slot ∈ σ.slots, slot ∈ τ.slots := by
  induction h with
  | nil => exact fun _ member => member
  | visible _ _ ih => exact ih
  | fresh _ new _ ih =>
    intro slot member
    refine ih slot ?_
    rw [new.draws.1]
    exact List.mem_append_left _ member

/-- There is one value for each expression. -/
theorem ExprsCode.length_eq {scope : Chain Key Storage} {n m : Nat} {es : List Expr}
    {code : List Instr} {ds : List Nat} (h : ExprsCode scope n es code ds m) :
    ds.length = es.length := by
  induction h with
  | nil => rfl
  | cons _ _ ih => exact congrArg (· + 1) ih

theorem Defines.assigns {σ τ : Layout} {targets : List (Reading Ident)} {ds : List Nat}
    {code : List Instr} (h : Defines σ targets τ) (stores : Stores τ.scope (targets.zip ds) code)
    (lengths : ds.length = targets.length) : Assigns .define σ targets ds code τ := by
  induction h generalizing ds code with
  | nil =>
    obtain rfl : ds = [] := List.length_eq_zero_iff.1 lengths
    cases stores
    exact .nil
  | visible means others ih =>
    obtain ⟨d, ds, rfl⟩ := List.exists_cons_of_length_eq_add_one lengths
    cases stores with
    | cons means' stores =>
      -- the later declarations do not change where this store goes
      obtain rfl := (others.means means).unique means'
      exact .visible means (ih stores (Nat.succ.inj lengths))
  | fresh unbound new others ih =>
    obtain ⟨d, ds, rfl⟩ := List.exists_cons_of_length_eq_add_one lengths
    cases stores with
    | cons means' stores =>
      obtain rfl := (others.means (new.means_self unbound)).unique means'
      exact .fresh unbound new (ih stores (Nat.succ.inj lengths))

/-- Preparing the targets and storing to them can be told together, target by target. -/
theorem Prepares.assigns {σ τ : Layout} {op : AssignOp} {targets : List (Reading Ident)}
    {ds : List Nat} {code : List Instr} (h : Prepares σ op targets τ)
    (stores : Stores τ.scope (targets.zip ds) code) (lengths : ds.length = targets.length) :
    Assigns op σ targets ds code τ := by
  cases h with
  | define defines => exact defines.assigns stores lengths
  | assign =>
    induction targets generalizing ds code with
    | nil =>
      obtain rfl : ds = [] := List.length_eq_zero_iff.1 lengths
      cases stores
      exact .nil
    | cons target targets ih =>
      obtain ⟨d, ds, rfl⟩ := List.exists_cons_of_length_eq_add_one lengths
      cases stores with
      | cons means stores => exact .visible means (ih (Nat.succ.inj lengths) stores)

end SlotIR
