/-
  SlotIR.Proofs.Meaning.Correspondence
  ────────────────────────────────────
  **VARIABLES AND THE SLOTS THAT HOLD THEM.**

  The source creates a new variable each time it comes to a declaration,
  and the emitted code has one slot for the declaration.  So which variable
  a slot holds changes in time: it is a parameter of the correspondence
  (`Agree`), and only slots that a visible name means have to hold theirs.
  A declaration moves its slot on to the new variable, and no name that is
  visible there means the slot (`Local.agree`).
-/
import SlotIR.Proofs.Emission.Slots
import SlotIR.Proofs.Meaning.Follows

namespace SlotIR

/-! ## §1. What names are bound to. -/

/-- What a name is bound to in the source, if lowering binds it to a place. -/
def bindingOf (holds : String → Nat) : Storage → Binding
  | .slot slot => .variable (holds slot.text)
  | place => .global place.text

/-- The source and the machine agree: visible names mean corresponding places, and a slot that one of
them means is written and holds the value of its variable. -/
structure Agree (holds : String → Nat) (reserved : List String) (scope : Chain Key Storage)
    (env : Env) (w : World) (c : Config) : Prop where
  names : env = Chain.map (bindingOf holds) scope
  held : ∀ slot, .slot slot ∈ Chain.values scope →
    ∃ v, w.locals[holds slot.text]? = some v ∧ c.slots slot.text = some (some v)
  apart : ∀ slot other, .slot slot ∈ Chain.values scope → .slot other ∈ Chain.values scope →
    holds slot.text = holds other.text → slot.text = other.text
  stands : ∀ text ∈ reserved, c.slots text ≠ none
  shows : Shows w c

namespace Agree

variable {holds : String → Nat} {reserved : List String} {scope : Chain Key Storage} {env : Env}
  {w : World} {c : Config}

/-- The machine may do what touches no slot and cannot be seen. -/
theorem of_eq {next : Config} (h : Agree holds reserved scope env w c)
    (slots : next.slots = c.slots) (globals : next.globals = c.globals)
    (calls : next.calls = c.calls) : Agree holds reserved scope env w next where
  names := h.names
  held := by rw [slots]; exact h.held
  apart := h.apart
  stands := by rw [slots]; exact h.stands
  shows := ⟨globals.trans h.shows.globals, calls.trans h.shows.calls⟩

/-- The machine may go on elsewhere. -/
theorem goOn (h : Agree holds reserved scope env w c) (rest : List Line) :
    Agree holds reserved scope env w { c with rest } :=
  h.of_eq rfl rfl rfl

/-- Package variables and calls may change in the same way on both sides. -/
theorem of_shows {w' : World} {next : Config} (h : Agree holds reserved scope env w c)
    (locals : w'.locals = w.locals) (slots : next.slots = c.slots) (shows : Shows w' next) :
    Agree holds reserved scope env w' next where
  names := h.names
  held := by rw [slots, locals]; exact h.held
  apart := h.apart
  stands := by rw [slots]; exact h.stands
  shows := shows

/-- A new frame binds nothing. -/
theorem enter (h : Agree holds reserved scope env w c) :
    Agree holds reserved (Frame.empty :: scope) (Frame.empty :: env) w c where
  names := by rw [Chain.map_cons, Frame.map_empty, ← h.names]
  held := h.held
  apart := h.apart
  stands := h.stands
  shows := h.shows

/-- A visible name means corresponding places. -/
theorem meaning (h : Agree holds reserved scope env w c) {name : Name} {place : Storage}
    (means : Means scope name place) : env.meaning name = some (bindingOf holds place) := by
  obtain ⟨key, keyed, found⟩ := means
  unfold Env.meaning
  rw [keyed, h.names]
  show Chain.find? (Chain.map (bindingOf holds) scope) key = _
  rw [Chain.find?_map, found]
  rfl

theorem meaning_none (h : Agree holds reserved scope env w c) {name : Name}
    (unbound : Unbound scope name) : env.meaning name = none := by
  obtain ⟨key, keyed, free⟩ := unbound
  unfold Env.meaning
  rw [keyed, h.names]
  show Chain.find? (Chain.map (bindingOf holds) scope) key = _
  rw [Chain.find?_map, free]
  rfl

/-! ## §2. Going back to earlier names. -/

/-- Names are bound to the same if their slots hold the same variables. -/
theorem map_bindingOf {holds' : String → Nat}
    (same : ∀ slot, .slot slot ∈ Chain.values scope → holds' slot.text = holds slot.text) :
    Chain.map (bindingOf holds') scope = Chain.map (bindingOf holds) scope := by
  refine Chain.map_congr fun place member => ?_
  cases place with
  | slot slot => exact congrArg Binding.variable (same slot member)
  | symbol text => rfl
  | given value => rfl

/-- What agrees for more names agrees for fewer, if a slot of those holds the variable that it held
before. -/
theorem restrict {holds' : String → Nat} {inner : Chain Key Storage} {env' : Env}
    (h : Agree holds' reserved inner env' w c)
    (subset : ∀ place ∈ Chain.values scope, place ∈ Chain.values inner)
    (same : ∀ slot, .slot slot ∈ Chain.values scope → holds' slot.text = holds slot.text)
    (names : env = Chain.map (bindingOf holds) scope) :
    Agree holds' reserved scope env w c where
  names := names.trans (map_bindingOf same).symm
  held := fun slot member => h.held slot (subset _ member)
  apart := fun slot other member member' =>
    h.apart slot other (subset _ member) (subset _ member')
  stands := h.stands
  shows := h.shows

/-! ## §3. Assignments. -/

/-- The slots that are reserved stay reserved. -/
theorem stands_setSlot (h : Agree holds reserved scope env w c) (text : String) (v : Option Word) :
    ∀ other ∈ reserved, (c.setSlot text v).slots other ≠ none := by
  intro other listed
  show (if other = text then some v else c.slots other) ≠ none
  split
  · exact Option.some_ne_none _
  · exact h.stands other listed

/-- **An assignment writes to the slot of its variable.** -/
theorem assign (h : Agree holds reserved scope env w c) {place : Storage}
    (member : place ∈ Chain.values scope) (v : Word) :
    ∃ w' c', writeVariable v (bindingOf holds place) w = .ok () w' ∧ c.write v place = some c'
      ∧ Agree holds reserved scope env w' c' ∧ c'.rest = c.rest ∧ c'.temps = c.temps := by
  have updated (text : String) : (fun other => if other = text then v else c.globals other)
      = w.globals.update text v := by
    rw [h.shows.globals]
    rfl
  cases place with
  | slot slot =>
    obtain ⟨old, current, written⟩ := h.held slot member
    obtain ⟨inside, -⟩ := List.getElem?_eq_some_iff.1 current
    have stored : c.write v (.slot slot) = some (c.setSlot slot.text (some v)) := by
      unfold Config.write
      simp only [written]
    refine ⟨_, _, if_pos inside, stored, ?_, rfl, rfl⟩
    refine ⟨h.names, ?_, h.apart, h.stands_setSlot _ _, ⟨h.shows.globals, h.shows.calls⟩⟩
    intro other member'
    -- another slot holds another variable, which keeps its value
    by_cases same : other.text = slot.text
    · refine ⟨v, ?_, if_pos same⟩
      rw [same]
      exact List.getElem?_set_self inside
    · obtain ⟨value, others, place⟩ := h.held other member'
      have differ : holds slot.text ≠ holds other.text := fun equal =>
        same (h.apart slot other member member' equal).symm
      refine ⟨value, ?_, (if_neg same).trans place⟩
      show (w.locals.set _ v)[_]? = _
      rw [List.getElem?_set_ne differ]
      exact others
  | symbol text =>
    refine ⟨_, _, rfl, rfl, ?_, rfl, rfl⟩
    exact h.of_shows rfl rfl ⟨updated text, h.shows.calls⟩
  | given value =>
    refine ⟨_, _, rfl, rfl, ?_, rfl, rfl⟩
    exact h.of_shows rfl rfl ⟨updated _, h.shows.calls⟩

/-! ## §4. Declarations. -/

/-- A slot may be written that no visible name means. -/
theorem setSlot (h : Agree holds reserved scope env w c) {text : String}
    (fresh : ∀ slot, .slot slot ∈ Chain.values scope → slot.text ≠ text) (v : Option Word) :
    Agree holds reserved scope env w (c.setSlot text v) where
  names := h.names
  held := by
    intro slot member
    obtain ⟨value, current, written⟩ := h.held slot member
    exact ⟨value, current, (if_neg (fresh slot member)).trans written⟩
  apart := h.apart
  stands := h.stands_setSlot text v
  shows := ⟨h.shows.globals, h.shows.calls⟩

/-- The correspondence after a slot is moved on to another variable. -/
def moved (holds : String → Nat) (text : String) (index : Nat) : String → Nat := fun other =>
  if other = text then index else holds other

theorem moved_self (holds : String → Nat) (text : String) (index : Nat) :
    moved holds text index text = index :=
  if_pos rfl

theorem moved_of_ne {text other : String} (ne : other ≠ text) (index : Nat) :
    moved holds text index other = holds other :=
  if_neg ne

/-- The variable that a slot holds has been created. -/
theorem held_lt (h : Agree holds reserved scope env w c) {slot : Slot}
    (member : .slot slot ∈ Chain.values scope) : holds slot.text < w.locals.length := by
  obtain ⟨v, current, -⟩ := h.held slot member
  obtain ⟨inside, -⟩ := List.getElem?_eq_some_iff.1 current
  exact inside

/-- A new variable is held by a slot that no visible name means. -/
theorem declare (h : Agree holds reserved scope env w c) {slot : Slot} {v : Word}
    (fresh : ∀ other, .slot other ∈ Chain.values scope → other.text ≠ slot.text)
    (written : c.slots slot.text = some (some v)) (key : Key) :
    Agree (moved holds slot.text w.locals.length) reserved (Chain.declare scope key (.slot slot))
      (Chain.declare env key (.variable w.locals.length))
      { w with locals := w.locals ++ [v] } c where
  names := by
    have kept : Chain.map (bindingOf (moved holds slot.text w.locals.length)) scope
        = Chain.map (bindingOf holds) scope :=
      map_bindingOf fun other member => moved_of_ne (fresh other member) _
    have new : bindingOf (moved holds slot.text w.locals.length) (.slot slot)
        = .variable w.locals.length := congrArg Binding.variable (moved_self _ _ _)
    rw [Chain.map_declare, kept, new, h.names]
  held := by
    intro other member
    rcases Chain.values_declare member with old | same
    · obtain ⟨value, current, place⟩ := h.held other old
      refine ⟨value, ?_, place⟩
      rw [moved_of_ne (fresh other old)]
      exact (List.getElem?_append_left (h.held_lt old)).trans current
    · cases same
      refine ⟨v, ?_, written⟩
      rw [moved_self]
      exact List.getElem?_concat_length
  apart := by
    -- the index of the new variable is larger than all that are held
    have kept {other : Slot} (old : .slot other ∈ Chain.values scope) :
        moved holds slot.text w.locals.length other.text = holds other.text :=
      moved_of_ne (fresh other old) _
    have new : moved holds slot.text w.locals.length slot.text = w.locals.length :=
      moved_self _ _ _
    intro one other first second equal
    rcases Chain.values_declare first with old | same <;>
      rcases Chain.values_declare second with old' | same'
    · rw [kept old, kept old'] at equal
      exact h.apart one other old old' equal
    · cases same'
      have below := h.held_lt old
      rw [kept old, new] at equal
      omega
    · cases same
      have below := h.held_lt old'
      rw [kept old', new] at equal
      omega
    · cases same
      cases same'
      rfl
  stands := h.stands
  shows := ⟨h.shows.globals, h.shows.calls⟩

end Agree

/-- **A declaration moves its slot on to the variable that it creates.**  No visible name means the
slot; so this also holds of a declaration that creates no variable, because the innermost frame binds
its name. -/
theorem Local.agree {σ τ : Layout} {name : Name} {pos : Pos} {slot : Slot}
    {symbols : List String} (h : Local σ name pos slot τ) (proper : Proper symbols σ)
    (offset : pos.isOffset = true) {holds : String → Nat} {reserved : List String} {env : Env}
    {w : World} {c : Config} (agree : Agree holds reserved σ.scope env w c) (v : Word) :
    ∃ holds' env' w', declareName env name v w = .ok env' w'
      ∧ (∀ old ∈ σ.slots, holds' old.text = holds old.text)
      ∧ Agree holds' reserved τ.scope env' w' (c.setSlot slot.text (some v)) := by
  have other : ∀ old ∈ σ.slots, old.text ≠ slot.text := by
    intro old member same
    exact h.text_notMem proper.distinct offset (same ▸ List.mem_map_of_mem member)
  have fresh : ∀ old, .slot old ∈ Chain.values σ.scope → old.text ≠ slot.text :=
    fun old bound => other old (proper.owned old bound)
  have stored := agree.setSlot fresh (some v)
  cases h with
  | @intro key n keyed opened new =>
    obtain ⟨frame, outer, frames⟩ := List.exists_cons_of_ne_nil opened
    have visible := agree.names
    rw [frames, Chain.map_cons] at visible
    have declares : declareName env name v w
        = if frame.contains key then .ok env w
          else .ok (Chain.declare env key (.variable w.locals.length))
            { w with locals := w.locals ++ [v] } := by
      unfold declareName
      rw [keyed, visible]
      show (if (frame.map (bindingOf holds)).contains key = true then _ else _ : Run Env) w = _
      rw [Frame.contains_map]
      split <;> rfl
    -- the source creates a variable only if its frame does not bind the name;
    -- the emitted code writes to a new slot in both cases
    by_cases bound : frame.contains key = true
    · refine ⟨holds, env, w, declares.trans (if_pos bound), fun _ _ => rfl, ?_⟩
      have kept : Chain.declare σ.scope key (.slot slot) = σ.scope := by
        rw [frames, Chain.declare_cons]
        unfold Frame.declare
        rw [if_pos bound]
      show Agree holds reserved (Chain.declare σ.scope key (.slot slot)) _ _ _
      rw [kept]
      exact stored
    · refine ⟨_, _, _, declares.trans (if_neg bound), fun old member => ?_,
        stored.declare fresh (if_pos rfl) key⟩
      exact Agree.moved_of_ne (other old member) _

end SlotIR
