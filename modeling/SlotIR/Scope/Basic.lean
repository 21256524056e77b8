/-
  SlotIR.Scope.Basic
  ──────────────────
  **LEXICAL SCOPES.**

  A FRAME binds names, each once: the first declaration of a name wins,
  and a later one changes nothing.  Names may be of any type that decides
  which of them are the same.  A CHAIN is a list of frames from the
  innermost outward, and a name means what the first frame that binds it
  says.  The empty chain stands for having no scope at all.
-/
namespace SlotIR

/-! ## §1. Frames. -/

/-- The bindings of one scope, in the order of their declaration. -/
structure Frame (κ β : Type) where
  entries : List (κ × β) := []

namespace Frame

variable {κ β : Type}

/-- The frame that binds nothing. -/
def empty : Frame κ β := {}

/-- What names are bound to, in the order of their declaration. -/
def values (f : Frame κ β) : List β := f.entries.map (·.2)

/-- The number of bound names. -/
def size (f : Frame κ β) : Nat := f.entries.length

variable [DecidableEq κ]

/-- What a name is bound to. -/
def find? (f : Frame κ β) (name : κ) : Option β := f.entries.lookup name

/-- The frame binds the name. -/
def contains (f : Frame κ β) (name : κ) : Bool := (f.find? name).isSome

/-- Bind a name, unless the frame binds it already. -/
def declare (f : Frame κ β) (name : κ) (value : β) : Frame κ β :=
  if f.contains name then f else ⟨f.entries ++ [(name, value)]⟩

/-- The frame that binds the given names. -/
def ofList (entries : List (κ × β)) : Frame κ β :=
  entries.foldl (fun f entry => f.declare entry.1 entry.2) empty

@[simp] theorem find?_empty (name : κ) : (empty : Frame κ β).find? name = none := rfl

/-- Declaring a name that is bound changes nothing. -/
theorem declare_of_contains {f : Frame κ β} {name : κ} (h : f.contains name = true)
    (value : β) : f.declare name value = f := by
  simp [declare, h]

/-- A name that is not bound is bound last. -/
theorem entries_declare_of_not_contains {f : Frame κ β} {name : κ}
    (h : f.contains name = false) (value : β) :
    (f.declare name value).entries = f.entries ++ [(name, value)] := by
  simp [declare, h]

end Frame

/-! ## §2. Chains. -/

/-- Frames from the innermost outward. -/
abbrev Chain (κ β : Type) := List (Frame κ β)

namespace Chain

variable {κ β : Type} [DecidableEq κ]

/-- What a name means: its binding in the innermost frame that has one. -/
def find? : Chain κ β → κ → Option β
  | [], _ => none
  | f :: outer, name => (f.find? name).or (find? outer name)

@[simp] theorem find?_nil (name : κ) : find? ([] : Chain κ β) name = none := rfl

/-- A frame without bindings hides nothing. -/
@[simp] theorem find?_empty_cons (outer : Chain κ β) (name : κ) :
    find? (Frame.empty :: outer) name = find? outer name := rfl

end Chain

/-! ## §3. Items that are listed once. -/

/-- A last item is kept among those without repetitions if it is new. -/
theorem eraseDups_concat {α : Type} [DecidableEq α] (items : List α) (last : α) :
    (items ++ [last]).eraseDups
      = if last ∈ items then items.eraseDups else items.eraseDups ++ [last] := by
  rw [List.eraseDups_append]
  by_cases old : last ∈ items
  · simp [old, List.removeAll]
  · simp [old, List.removeAll, List.eraseDups_cons]

end SlotIR
