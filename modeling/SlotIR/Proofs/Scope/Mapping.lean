/-
  SlotIR.Proofs.Scope.Mapping
  ───────────────────────────
  **CHAINS THAT BIND THE SAME NAMES.**

  Lowering binds a name to a storage place.  A checker wants to know only
  that the name is bound, and a run of the program where its value is
  kept.  Each of these views is the chain of lowering with its values
  mapped, and mapping commutes with every operation on scopes:

    • looking up      `Frame.find?_map`, `Chain.find?_map`
    • declaring       `Frame.map_declare`

  A declaration adds at most the declared value (`values_declare`), and a
  look-up returns one that is there (`Chain.find?_mem_values`).  On a
  chain a declaration goes to the innermost frame (`Chain.declare`).  A
  table that has one entry for each key is that of a function
  (`exists_function_of_nodup`).
-/
import SlotIR.Scope.Basic

namespace SlotIR

/-! ## §1. Frames. -/

namespace Frame

variable {κ β γ : Type}

/-- The frame that binds the same names to mapped values. -/
def map (f : β → γ) (frame : Frame κ β) : Frame κ γ :=
  ⟨frame.entries.map fun entry => (entry.1, f entry.2)⟩

@[simp] theorem map_empty (f : β → γ) : map f (empty : Frame κ β) = empty := rfl

theorem map_congr {f g : β → γ} {frame : Frame κ β} (h : ∀ b ∈ frame.values, f b = g b) :
    map f frame = map g frame := by
  unfold map
  congr 1
  refine List.map_congr_left fun entry member => ?_
  rw [h entry.2 (List.mem_map_of_mem member)]

variable [DecidableEq κ]

@[simp] theorem find?_map (f : β → γ) (frame : Frame κ β) (name : κ) :
    (frame.map f).find? name = (frame.find? name).map f := by
  unfold find? map
  induction frame.entries with
  | nil => rfl
  | cons entry rest ih =>
    obtain ⟨key, value⟩ := entry
    by_cases same : name = key
    · simp [same]
    · simp [List.lookup_cons, beq_false_of_ne same, ih]

@[simp] theorem contains_map (f : β → γ) (frame : Frame κ β) (name : κ) :
    (frame.map f).contains name = frame.contains name := by
  simp [contains]

theorem map_declare (f : β → γ) (frame : Frame κ β) (name : κ) (value : β) :
    (frame.declare name value).map f = (frame.map f).declare name (f value) := by
  unfold declare
  rw [contains_map]
  split
  · rfl
  · simp [map]

/-- What a name is bound to is one of the values. -/
theorem find?_mem_values {frame : Frame κ β} {name : κ} {value : β}
    (h : frame.find? name = some value) : value ∈ frame.values := by
  unfold find? at h
  unfold values
  obtain ⟨before, after, split, -⟩ := List.lookup_eq_some_iff.1 h
  rw [split]
  simp

/-- A name that is bound is still bound to the same after a declaration. -/
theorem find?_declare_of_some {frame : Frame κ β} {name other : κ} {value new : β}
    (h : frame.find? name = some value) :
    (frame.declare other new).find? name = some value := by
  unfold declare
  split
  · exact h
  · unfold find? at h ⊢
    rw [List.lookup_append, h]
    rfl

/-- A name that is not bound is bound by its declaration. -/
theorem find?_declare_self {frame : Frame κ β} {name : κ} (h : frame.find? name = none)
    (value : β) : (frame.declare name value).find? name = some value := by
  have free : frame.contains name = false := by simp [contains, h]
  unfold find? at h ⊢
  rw [entries_declare_of_not_contains free, List.lookup_append, h]
  simp

/-- A declaration adds no value but its own. -/
theorem values_declare {frame : Frame κ β} {name : κ} {value other : β}
    (h : other ∈ (frame.declare name value).values) : other ∈ frame.values ∨ other = value := by
  unfold declare at h
  split at h
  · exact .inl h
  · simpa [values] using h

end Frame

/-! ## §2. Chains. -/

namespace Chain

variable {κ β γ : Type}

/-- The chain that binds the same names to mapped values. -/
def map (f : β → γ) (chain : Chain κ β) : Chain κ γ := List.map (Frame.map f) chain

@[simp] theorem map_nil (f : β → γ) : map f ([] : Chain κ β) = [] := rfl

@[simp] theorem map_cons (f : β → γ) (frame : Frame κ β) (outer : Chain κ β) :
    map f (frame :: outer) = frame.map f :: map f outer := rfl

/-- All that names are bound to, also where an inner frame hides it. -/
def values (chain : Chain κ β) : List β := chain.flatMap Frame.values

@[simp] theorem values_cons (frame : Frame κ β) (outer : Chain κ β) :
    values (frame :: outer) = frame.values ++ values outer := rfl

theorem map_congr {f g : β → γ} {chain : Chain κ β} (h : ∀ b ∈ values chain, f b = g b) :
    map f chain = map g chain :=
  List.map_congr_left fun frame member =>
    Frame.map_congr fun b bound => h b (List.mem_flatMap.2 ⟨frame, member, bound⟩)

variable [DecidableEq κ]

@[simp] theorem find?_map (f : β → γ) (chain : Chain κ β) (name : κ) :
    find? (map f chain) name = (find? chain name).map f := by
  induction chain with
  | nil => rfl
  | cons frame outer ih =>
    simp only [map_cons, find?, Frame.find?_map, ih]
    cases frame.find? name <;> rfl

/-- What a name means is one of the values. -/
theorem find?_mem_values {chain : Chain κ β} {name : κ} {value : β}
    (h : find? chain name = some value) : value ∈ values chain := by
  induction chain with
  | nil => cases h
  | cons frame outer ih =>
    rw [values_cons, List.mem_append]
    simp only [find?] at h
    cases here : frame.find? name with
    | some found =>
      rw [here] at h
      cases h
      exact .inl (Frame.find?_mem_values here)
    | none =>
      rw [here] at h
      exact .inr (ih h)

/-- Declaring a name that the chain does not bind changes the meaning of no other. -/
theorem find?_declare_of_some {frame : Frame κ β} {outer : Chain κ β} {name other : κ}
    {value new : β} (free : find? (frame :: outer) other = none)
    (h : find? (frame :: outer) name = some value) :
    find? (frame.declare other new :: outer) name = some value := by
  -- the declared name had no meaning, so it is another one
  have differ : name ≠ other := by
    rintro rfl
    rw [free] at h
    cases h
  have freeHere : frame.find? other = none := by
    simp only [find?] at free
    exact (Option.or_eq_none_iff.1 free).1
  have lookup : (frame.declare other new).find? name = frame.find? name := by
    have notIn : frame.contains other = false := by simp [Frame.contains, freeHere]
    unfold Frame.find?
    rw [Frame.entries_declare_of_not_contains notIn, List.lookup_append, List.lookup_cons,
      beq_false_of_ne differ]
    simp
  simpa only [find?, lookup] using h

/-- A name that the chain does not bind means what it is declared to be. -/
theorem find?_declare_self {frame : Frame κ β} {outer : Chain κ β} {name : κ}
    (free : find? (frame :: outer) name = none) (value : β) :
    find? (frame.declare name value :: outer) name = some value := by
  have freeHere : frame.find? name = none := by
    simp only [find?] at free
    exact (Option.or_eq_none_iff.1 free).1
  simp [find?, Frame.find?_declare_self freeHere]

/-! ## §3. Declaring in the innermost frame. -/

/-- Bind a name in the innermost frame, unless it is bound there. -/
def declare (chain : Chain κ β) (name : κ) (value : β) : Chain κ β :=
  match chain with
  | [] => []
  | frame :: outer => frame.declare name value :: outer

@[simp] theorem declare_cons (frame : Frame κ β) (outer : Chain κ β) (name : κ) (value : β) :
    declare (frame :: outer) name value = frame.declare name value :: outer := rfl

@[simp] theorem tail_declare (chain : Chain κ β) (name : κ) (value : β) :
    (declare chain name value).tail = chain.tail := by
  cases chain <;> rfl

theorem map_declare (f : β → γ) (chain : Chain κ β) (name : κ) (value : β) :
    map f (declare chain name value) = declare (map f chain) name (f value) := by
  cases chain with
  | nil => rfl
  | cons frame outer => simp [Frame.map_declare]

/-- A declaration adds no value but its own. -/
theorem values_declare {chain : Chain κ β} {name : κ} {value other : β}
    (h : other ∈ values (declare chain name value)) : other ∈ values chain ∨ other = value := by
  cases chain with
  | nil => cases h
  | cons frame outer =>
    rw [declare_cons, values_cons, List.mem_append] at h
    rcases h with here | further
    · rcases Frame.values_declare here with old | new
      · exact .inl (List.mem_append_left _ old)
      · exact .inr new
    · exact .inl (List.mem_append_right _ further)

/-- A declaration takes no value away. -/
theorem values_subset_declare {chain : Chain κ β} {name : κ} {value other : β}
    (h : other ∈ values chain) : other ∈ values (declare chain name value) := by
  cases chain with
  | nil => cases h
  | cons frame outer =>
    rw [values_cons, List.mem_append] at h
    rw [declare_cons, values_cons, List.mem_append]
    refine h.imp_left fun here => ?_
    unfold Frame.declare
    split
    · exact here
    · simp only [Frame.values, List.map_append, List.mem_append]
      exact .inl here

end Chain

/-! ## §4. Tables. -/

/-- A table with one entry for each key says what a function does. -/
theorem exists_function_of_nodup {κ β : Type} [DecidableEq κ] [Inhabited β]
    {table : List (κ × β)} (distinct : (table.map Prod.fst).Nodup) :
    ∃ f : κ → β, ∀ entry ∈ table, f entry.1 = entry.2 := by
  induction table with
  | nil => exact ⟨fun _ => default, fun _ member => by cases member⟩
  | cons entry rest ih =>
    rw [List.map_cons, List.nodup_cons] at distinct
    obtain ⟨f, agrees⟩ := ih distinct.2
    refine ⟨fun key => if key = entry.1 then entry.2 else f key, fun other member => ?_⟩
    rcases List.mem_cons.1 member with rfl | later
    · simp
    · have differ : other.1 ≠ entry.1 := fun same =>
        distinct.1 (same ▸ List.mem_map_of_mem later)
      exact (if_neg differ).trans (agrees other later)

end SlotIR
