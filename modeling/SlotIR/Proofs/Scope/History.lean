/-
  SlotIR.Proofs.Scope.History
  ───────────────────────────
  **SCOPES ARE DETERMINED BY THE HISTORY OF DECLARATIONS.**

  A forest of scopes is filled by commands that come in any order.  The
  HISTORY of a run is what a bystander would write down,

      around which frame each frame was made
      which objects were made
      which object was declared on which frame, in order

  and it says nothing about shadowing or about second declarations.  What
  every query answers is read off the history alone:

      a name          means the object declared first under it on the
                      first frame outward on which it was declared at all
      a frame         binds the names declared on it, each once, in the
                      order of their first declaration
      a walk outward  is finite and meets no frame twice

  One command keeps the forest in step with the history
  (`Forest.Records.step`), so a run does (`Forest.Records.run`).  Main
  result:

    • `run_determinedBy_history` — after every run the answers are those
      that its history determines, and queries change nothing.
-/
import Mathlib.Data.List.Induction
import Mathlib.Data.List.Nodup
import SlotIR.Proofs.Program.Typed
import SlotIR.Scope.Forest

namespace SlotIR

/-! ## §1. Frames made from entries. -/

namespace Frame

variable {κ β : Type} [DecidableEq κ]

theorem ofList_concat (entries : List (κ × β)) (entry : κ × β) :
    ofList (entries ++ [entry]) = (ofList entries).declare entry.1 entry.2 := by
  unfold ofList
  rw [List.foldl_append]
  rfl

/-- A declaration gives a name its meaning only where it has none. -/
theorem find?_declare (frame : Frame κ β) (key name : κ) (value : β) :
    (frame.declare key value).find? name
      = (frame.find? name).or (if name = key then some value else none) := by
  unfold declare
  by_cases bound : frame.contains key = true
  · rw [if_pos bound]
    by_cases same : name = key
    · subst same
      obtain ⟨old, found⟩ := Option.isSome_iff_exists.1 bound
      rw [found, Option.some_or]
    · rw [if_neg same, Option.or_none]
  · rw [if_neg bound]
    show (frame.entries ++ [(key, value)]).lookup name = _
    rw [List.lookup_append]
    by_cases same : name = key
    · subst same
      simp [find?]
    · simp [find?, List.lookup_cons, beq_false_of_ne same, same]

/-- The first entry of a name counts. -/
theorem find?_ofList (entries : List (κ × β)) (name : κ) :
    (ofList entries).find? name = entries.lookup name := by
  -- what the frame binds before the entries counts before them
  have from_frame : ∀ frame : Frame κ β,
      (entries.foldl (fun f entry => f.declare entry.1 entry.2) frame).find? name
        = (frame.find? name).or (entries.lookup name) := by
    induction entries with
    | nil =>
      intro frame
      exact (Option.or_none).symm
    | cons entry rest ih =>
      intro frame
      obtain ⟨key, value⟩ := entry
      rw [List.foldl_cons, ih, find?_declare, Option.or_assoc, List.lookup_cons]
      by_cases same : name = key
      · simp [same]
      · simp [same, beq_false_of_ne same]
  exact from_frame empty

end Frame

namespace Scope

/-! ## §2. Histories. -/

/-- An object was declared on a frame, under its name. -/
structure Declaration where
  frame : Nat
  object : Object

/-- The objects that declarations on a frame are about. -/
def declaredOn (frame : Nat) (declarations : List Declaration) : List Object :=
  (declarations.filter (·.frame = frame)).map (·.object)

theorem declaredOn_append (frame : Nat) (first second : List Declaration) :
    declaredOn frame (first ++ second) = declaredOn frame first ++ declaredOn frame second := by
  unfold declaredOn
  rw [List.filter_append, List.map_append]

/-- Objects that are declared on one frame are declared on no other. -/
theorem declaredOn_map (frame other : Nat) (objects : List Object) :
    declaredOn frame (objects.map (⟨other, ·⟩)) = if frame = other then objects else [] := by
  unfold declaredOn
  by_cases same : frame = other
  · simp [same, List.filter_map, Function.comp_def]
  · simp [same, Ne.symm same]

/-- What a run has done so far. -/
structure History where
  /-- The frame around each frame, in the order in which the frames were made. -/
  outers : List (Option Nat) := []
  /-- The objects in the order in which they were made. -/
  objects : List Object := []
  /-- The declarations in order. -/
  declarations : List Declaration := []

namespace History

/-- What a command adds to a history.  Builtin objects are declared when their frame is made. -/
def record (h : History) : Command → History
  | .addBuiltins =>
    { h with
      outers := h.outers ++ [none]
      declarations := h.declarations ++ Builtins.functions.map fun entry =>
        ⟨h.outers.length, .builtin entry.1 entry.2⟩ }
  | .addFrame outer => { h with outers := h.outers ++ [outer] }
  | .addObject name symbol typeName =>
    { h with
      objects := h.objects ++ [{ number := some h.objects.length, name, symbol, typeName }] }
  | .declare frame number =>
    match h.objects[number]? with
    | none => h
    | some object => { h with declarations := h.declarations ++ [⟨frame, object⟩] }
  | _ => h

/-- The command is about frames and objects that were made, and its names are texts. -/
def allows (h : History) : Command → Bool
  | .addBuiltins | .addFrame none => true
  | .addFrame (some outer) => outer < h.outers.length
  | .addObject name _ _ => name.isText
  | .declare frame number => frame < h.outers.length && number < h.objects.length
  | .lookup frame name | .lookupParent frame name | .contains frame name =>
    frame < h.outers.length && name.isText
  | .size frame | .names frame | .outer frame | .chain frame | .text frame =>
    frame < h.outers.length

/-- Each of the commands is allowed after those before it. -/
def allowsAll : History → List Command → Bool
  | _, [] => true
  | h, command :: rest => h.allows command && (h.record command).allowsAll rest

/-- The history of a run. -/
def of (commands : List Command) : History := commands.foldl record {}

/-! ## §3. What a history determines. -/

/-- The objects declared on a frame, in order. -/
def on (h : History) (frame : Nat) : List Object := declaredOn frame h.declarations

/-- The object that was declared first under a name on a frame. -/
def first? (h : History) (frame : Nat) (name : Name) : Option Object :=
  (h.on frame).find? (·.name = name)

/-- The names declared on a frame, each once, in the order of their first declaration. -/
def names (h : History) (frame : Nat) : List Name := ((h.on frame).map (·.name)).eraseDups

/-- The frames from one outward, up to a frame that is inside none. -/
inductive Outward (h : History) : Nat → List Nat → Prop
  | outermost {i : Nat} (alone : h.outers[i]? = some none) : Outward h i [i]
  | inside {i o : Nat} {path : List Nat} (around : h.outers[i]? = some (some o))
      (further : Outward h o path) : Outward h i (i :: path)

/-- What a name means along a path, with the frame that says so: the first one on which it was
declared. -/
inductive Finds (h : History) (name : Name) : List Nat → Option (Nat × Object) → Prop
  | nowhere {path : List Nat} (undeclared : ∀ j ∈ path, h.first? j name = none) :
      Finds h name path none
  | first {inner outer : List Nat} {g : Nat} {object : Object}
      (undeclared : ∀ j ∈ inner, h.first? j name = none)
      (declared : h.first? g name = some object) :
      Finds h name (inner ++ g :: outer) (some (g, object))

end History

/-- The command only asks. -/
def Command.isQuery : Command → Bool
  | .addBuiltins | .addFrame _ | .addObject .. | .declare .. => false
  | _ => true

/-- The forest in which nothing was made. -/
def Forest.empty : Forest := {}

/-- What a forest answers to a command. -/
def Forest.answer (f : Forest) (command : Command) : Reading Answer := (f.step command).1

/-- The forest after a command. -/
def Forest.after (f : Forest) (command : Command) : Forest := (f.step command).2

/-- The forest after commands. -/
def Forest.run (f : Forest) (commands : List Command) : Forest := commands.foldl after f

/-- The answers of a forest are those that a history determines. -/
structure DeterminedBy (f : Forest) (h : History) : Prop where
  /-- A walk outward ends at a frame inside none, and meets no frame twice. -/
  chain : ∀ i < h.outers.length, ∃ path, h.Outward i path ∧ path.Nodup
    ∧ f.answer (.chain i) = .ok (.frames path)
  /-- A name means what the first frame outward says on which it was declared. -/
  lookup : ∀ i path, h.Outward i path → ∀ name : Name, name.isText = true →
    ∃ found, h.Finds name path found
      ∧ f.answer (.lookup i name) = .ok (.object (found.map (·.2)))
      ∧ f.answer (.lookupParent i name) = .ok (.located found)
  /-- A declaration answers what its name means at the frame from then on. -/
  declare : ∀ i < h.outers.length, ∀ number passed, h.objects[number]? = some passed →
    ∃ object, (h.record (.declare i number)).first? i passed.name = some object
      ∧ f.answer (.declare i number) = .ok (.object (some object))
      ∧ (f.after (.declare i number)).answer (.lookup i passed.name)
          = .ok (.object (some object))
  /-- A frame binds the names declared on it, each once. -/
  names : ∀ i < h.outers.length, (h.names i).Nodup
    ∧ f.answer (.names i) = .ok (.names (h.names i))
    ∧ f.answer (.size i) = .ok (.number (h.names i).length)
    ∧ ∀ name : Name, name.isText = true →
        f.answer (.contains i name) = .ok (.truth (decide (name ∈ h.names i)))
  /-- The frame around a frame is the one that it was made in. -/
  outer : ∀ i outer, h.outers[i]? = some outer → f.answer (.outer i) = .ok (.frame outer)
  /-- Queries change nothing. -/
  queries : ∀ command : Command, command.isQuery = true → f.after command = f

/-! ## §4. Frames and the objects declared on them. -/

/-- The entry by which a frame binds an object of a textual name. -/
def Object.entry (object : Object) : Key × Object := (.text object.name.text, object)

section

variable {objects : List Object} (named : ∀ object ∈ objects, object.name.isText = true)

include named

/-- A frame made from objects finds the first one of a name. -/
theorem find?_ofList_entries {name : Name} (text : name.isText = true) :
    (Frame.ofList (objects.map Object.entry)).find? (.text name.text)
      = objects.find? (·.name = name) := by
  rw [Frame.find?_ofList]
  induction objects with
  | nil => rfl
  | cons object rest ih =>
    have others := ih fun o member => named o (List.mem_cons_of_mem _ member)
    have same := Name.text_eq_iff (named object List.mem_cons_self) text
    rw [List.map_cons, List.find?_cons]
    show List.lookup _ ((Key.text object.name.text, object) :: _) = _
    rw [List.lookup_cons, others]
    by_cases equal : object.name = name
    · simp [equal]
    · have apart : (Key.text name.text == Key.text object.name.text) = false := by
        apply beq_false_of_ne
        intro keys
        exact equal (same.1 (Key.text.inj keys).symm)
      simp [equal, apart]

/-- A frame made from objects binds the names among theirs. -/
theorem contains_ofList_entries {name : Name} (text : name.isText = true) :
    (Frame.ofList (objects.map Object.entry)).contains (.text name.text)
      = decide (name ∈ objects.map (·.name)) := by
  unfold Frame.contains
  rw [find?_ofList_entries named text, Bool.eq_iff_iff, List.find?_isSome, decide_eq_true_iff,
    List.mem_map]
  simp

/-- A frame made from objects binds each of their names once, in the order of the first objects. -/
theorem names_ofList_entries :
    (Frame.ofList (objects.map Object.entry)).values.map (·.name)
      = (objects.map (·.name)).eraseDups := by
  induction objects using List.reverseRecOn with
  | nil => rfl
  | append_singleton objects last ih =>
    have before : ∀ object ∈ objects, object.name.isText = true :=
      fun o member => named o (List.mem_append_left _ member)
    have text : last.name.isText = true := named last (by simp)
    have bound := contains_ofList_entries before text
    rw [List.map_append, List.map_append]
    show (Frame.ofList (_ ++ [last.entry])).values.map _ = (_ ++ [last.name]).eraseDups
    rw [Frame.ofList_concat, eraseDups_concat, ← ih before]
    -- the last object leaves the frame as it is, unless its name is new
    by_cases old : last.name ∈ objects.map (·.name)
    · rw [if_pos old, Frame.declare_of_contains]
      exact bound.trans (decide_eq_true old)
    · rw [if_neg old]
      have free := bound.trans (decide_eq_false old)
      show ((Frame.declare _ (Key.text last.name.text) last).entries.map _).map _ = _
      rw [Frame.entries_declare_of_not_contains free, List.map_append, List.map_append]
      rfl

end

/-! ## §5. How commands change a forest. -/

namespace Forest

theorem frame_eq (f : Forest) (i : Nat) :
    f.frame i = (f.nodes[i]?.map (·.frame)).getD .empty := by
  unfold frame
  cases f.nodes[i]? <;> rfl

/-- A new frame is the last one. -/
theorem frame_addFrame (f : Forest) (outer : Option Nat) (frame : Frame Key Object) (i : Nat) :
    (f.addFrame outer frame).frame i = if i = f.nodes.length then frame else f.frame i := by
  rw [frame_eq, frame_eq]
  show ((f.nodes ++ [_])[i]?.map _).getD _ = _
  by_cases last : i = f.nodes.length
  · rw [if_pos last, last, List.getElem?_concat_length]
    rfl
  · rw [if_neg last]
    by_cases old : i < f.nodes.length
    · rw [List.getElem?_append_left old]
    · rw [List.getElem?_eq_none (by simp; omega), List.getElem?_eq_none (by omega)]

/-- A declaration on a frame that was made changes that frame only. -/
theorem frame_declare {f : Forest} {i : Nat} (made : i < f.nodes.length) (key : Key)
    (object : Object) (j : Nat) :
    (f.declare i key object).frame j
      = if j = i then (f.frame i).declare key object else f.frame j := by
  rw [frame_eq, frame_eq, frame_eq]
  show ((f.nodes.modify i _)[j]?.map _).getD _ = _
  rw [List.getElem?_modify]
  by_cases same : j = i
  · subst same
    rw [if_pos rfl, List.getElem?_eq_getElem made]
    simp
  · rw [if_neg same]
    cases f.nodes[j]? with
    | none => rfl
    | some node => simp [Ne.symm same]

end Forest

/-! ## §6. Forest and history in step. -/

/-- The forest is what is left of the history. -/
structure Forest.Records (f : Forest) (h : History) : Prop where
  outers : f.nodes.map (·.outer) = h.outers
  objects : f.objects = h.objects
  frames : ∀ i, f.frame i = Frame.ofList ((h.on i).map Object.entry)
  /-- All names are texts. -/
  named : ∀ object ∈ h.objects, object.name.isText = true
  declared : ∀ i, ∀ object ∈ h.on i, object.name.isText = true
  /-- Nothing is declared on a frame before it is made. -/
  unmade : ∀ i, h.outers.length ≤ i → h.on i = []

namespace Forest

variable {f : Forest} {h : History}

theorem Records.length_eq (r : f.Records h) : f.nodes.length = h.outers.length := by
  rw [← r.outers, List.length_map]

theorem records_empty : Forest.empty.Records {} where
  outers := rfl
  objects := rfl
  frames := fun _ => rfl
  named := fun _ member => by cases member
  declared := fun _ _ member => by cases member
  unmade := fun _ _ => rfl

/-- A frame is made on which objects are declared at once. -/
theorem Records.addFrame (r : f.Records h) {outer : Option Nat}
    (inside : ∀ o, outer = some o → o < h.outers.length) (objects : List Object)
    (texts : ∀ object ∈ objects, object.name.isText = true) :
    (f.addFrame outer (Frame.ofList (objects.map Object.entry))).Records
      { h with
        outers := h.outers ++ [outer]
        declarations := h.declarations ++ objects.map (⟨h.outers.length, ·⟩) } := by
  have on_eq : ∀ i, declaredOn i (h.declarations ++ objects.map (⟨h.outers.length, ·⟩))
      = if i = h.outers.length then objects else h.on i := by
    intro i
    rw [declaredOn_append, declaredOn_map]
    by_cases last : i = h.outers.length
    · -- the new frame is beyond those that anything was declared on
      have fresh : declaredOn i h.declarations = [] := r.unmade i (by omega)
      rw [if_pos last, if_pos last, fresh, List.nil_append]
    · rw [if_neg last, if_neg last, List.append_nil]
      rfl
  have existing : f.existing outer = outer := by
    unfold existing
    rw [r.length_eq]
    cases outer with
    | none => rfl
    | some o => simp [inside o rfl]
  constructor
  · show List.map (·.outer) (f.nodes ++ [_]) = _
    rw [List.map_append, r.outers, List.map_singleton, existing]
  · exact r.objects
  · intro i
    rw [frame_addFrame, r.length_eq]
    show _ = Frame.ofList ((declaredOn i _).map _)
    rw [on_eq]
    by_cases last : i = h.outers.length
    · rw [if_pos last, if_pos last]
    · rw [if_neg last, if_neg last]
      exact r.frames i
  · exact r.named
  · intro i object member
    have listed : object ∈ declaredOn i (h.declarations ++ _) := member
    rw [on_eq] at listed
    by_cases last : i = h.outers.length
    · rw [if_pos last] at listed
      exact texts object listed
    · rw [if_neg last] at listed
      exact r.declared i object listed
  · intro i new
    have beyond : (h.outers ++ [outer]).length ≤ i := new
    rw [List.length_append, List.length_singleton] at beyond
    show declaredOn i _ = []
    rw [on_eq, if_neg (by omega)]
    exact r.unmade i (by omega)

/-- An object of a textual name is made. -/
theorem Records.addObject (r : f.Records h) {name : Name} (text : name.isText = true)
    (symbol : String) (typeName : Option String) :
    (f.addObject name symbol typeName).Records (h.record (.addObject name symbol typeName)) where
  outers := r.outers
  objects := by
    show f.objects ++ _ = h.objects ++ _
    rw [r.objects]
  frames := r.frames
  named := by
    intro object member
    rcases List.mem_append.1 member with old | new
    · exact r.named object old
    · rw [List.mem_singleton.1 new]
      exact text
  declared := r.declared
  unmade := r.unmade

/-- An object of a textual name is declared on a frame that was made. -/
theorem Records.declare (r : f.Records h) {i : Nat} (made : i < h.outers.length)
    {object : Object} (text : object.name.isText = true) :
    (f.declare i (.text object.name.text) object).Records
      { h with declarations := h.declarations ++ [⟨i, object⟩] } := by
  have on_eq : ∀ j, declaredOn j (h.declarations ++ [⟨i, object⟩])
      = if j = i then h.on i ++ [object] else h.on j := by
    intro j
    have single := declaredOn_map j i [object]
    rw [List.map_singleton] at single
    rw [declaredOn_append, single]
    by_cases same : j = i
    · rw [if_pos same, if_pos same, same]
      rfl
    · rw [if_neg same, if_neg same, List.append_nil]
      rfl
  constructor
  · rw [← r.outers]
    show (f.nodes.modify i _).map (·.outer) = _
    apply List.ext_getElem?
    intro j
    rw [List.getElem?_map, List.getElem?_map, List.getElem?_modify]
    cases f.nodes[j]? with
    | none => rfl
    | some node => by_cases same : i = j <;> simp [same]
  · exact r.objects
  · intro j
    rw [frame_declare (by rw [r.length_eq]; exact made)]
    show _ = Frame.ofList ((declaredOn j _).map _)
    rw [on_eq]
    by_cases same : j = i
    · rw [if_pos same, if_pos same, List.map_append, r.frames]
      exact (Frame.ofList_concat _ object.entry).symm
    · rw [if_neg same, if_neg same]
      exact r.frames j
  · exact r.named
  · intro j other member
    have listed : other ∈ declaredOn j (h.declarations ++ _) := member
    rw [on_eq] at listed
    by_cases same : j = i
    · rw [if_pos same, List.mem_append, List.mem_singleton] at listed
      rcases listed with old | rfl
      · exact r.declared i other old
      · exact text
    · rw [if_neg same] at listed
      exact r.declared j other listed
  · intro j new
    have beyond : h.outers.length ≤ j := new
    show declaredOn j _ = []
    rw [on_eq, if_neg (by omega)]
    exact r.unmade j beyond

/-- A query changes neither the forest nor the history. -/
theorem after_query (f : Forest) {command : Command} (query : command.isQuery = true) :
    f.after command = f := by
  cases command <;> first | rfl | cases query

/-- The objects of the builtin functions. -/
def builtinObjects : List Object := Builtins.functions.map fun entry => .builtin entry.1 entry.2

/-- **A command keeps the forest in step with the history.** -/
theorem Records.step (r : f.Records h) {command : Command} (allowed : h.allows command = true) :
    (f.after command).Records (h.record command) := by
  cases command with
  | addBuiltins =>
    have texts : ∀ object ∈ builtinObjects, object.name.isText = true := by decide
    exact r.addFrame (fun o none => by cases none) builtinObjects texts
  | addFrame outer =>
    have inside : ∀ o, outer = some o → o < h.outers.length := by
      intro o some
      subst some
      exact of_decide_eq_true allowed
    have made := r.addFrame inside [] fun _ member => by cases member
    simp only [List.map_nil, List.append_nil] at made
    exact made
  | addObject name symbol typeName => exact r.addObject allowed symbol typeName
  | declare i number =>
    have bounds : i < h.outers.length ∧ number < h.objects.length := by
      simpa [History.allows] using allowed
    have passed : h.objects[number]? = some h.objects[number] :=
      List.getElem?_eq_getElem bounds.2
    have text := r.named h.objects[number] (List.getElem_mem bounds.2)
    have stepped : f.after (.declare i number)
        = f.declare i (.text h.objects[number].name.text) h.objects[number] := by
      show (f.declareNumbered i number).2 = _
      unfold declareNumbered
      rw [r.objects, passed]
      simp only [Name.key_of_isText text]
    have recorded : h.record (.declare i number)
        = { h with declarations := h.declarations ++ [⟨i, h.objects[number]⟩] } := by
      unfold History.record
      simp only [passed]
    rw [stepped, recorded]
    exact r.declare bounds.1 text
  | _ => exact r

/-- **A run keeps the forest in step with the history.** -/
theorem Records.run (r : f.Records h) {commands : List Command}
    (allowed : h.allowsAll commands = true) :
    (f.run commands).Records (commands.foldl History.record h) := by
  induction commands generalizing f h with
  | nil => exact r
  | cons command rest ih =>
    have both : h.allows command = true ∧ (h.record command).allowsAll rest = true := by
      simpa [History.allowsAll] using allowed
    exact ih (r.step both.1) both.2

/-! ## §7. Walks outward. -/

/-- The frame around a frame is the one that it was made in. -/
theorem Records.outer_eq (r : f.Records h) (i : Nat) : f.outer i = (h.outers[i]?).join := by
  unfold Forest.outer
  rw [← r.outers, List.getElem?_map]
  cases f.nodes[i]? <;> rfl

theorem chain_of_none {i : Nat} (alone : f.outer i = none) : f.chain i = [i] := by
  rw [chain]
  split
  · rfl
  · rename_i around
    rw [alone] at around
    cases around

theorem chain_of_some {i o : Nat} (around : f.outer i = some o) :
    f.chain i = i :: f.chain o := by
  rw [chain]
  split
  · rename_i alone
    rw [around] at alone
    cases alone
  · rename_i around'
    rw [around] at around'
    cases around'
    rfl

/-- No frame on a walk outward is younger than the first. -/
theorem le_of_mem_chain {i j : Nat} (member : j ∈ f.chain i) : j ≤ i := by
  induction i using chain.induct f with
  | case1 i alone =>
    rw [chain_of_none alone, List.mem_singleton] at member
    omega
  | case2 i o around ih =>
    rw [chain_of_some around, List.mem_cons] at member
    have older := lt_of_outer around
    rcases member with rfl | further
    · omega
    · have bound := ih further
      omega

/-- A walk outward meets no frame twice. -/
theorem nodup_chain (f : Forest) (i : Nat) : (f.chain i).Nodup := by
  induction i using chain.induct f with
  | case1 i alone =>
    rw [chain_of_none alone]
    exact List.nodup_singleton i
  | case2 i o around ih =>
    rw [chain_of_some around, List.nodup_cons]
    constructor
    · intro again
      have bound := le_of_mem_chain again
      have older := lt_of_outer around
      omega
    · exact ih

/-- The walk outward from a frame is the one of the history. -/
theorem Records.outward (r : f.Records h) {i : Nat} (made : i < h.outers.length) :
    h.Outward i (f.chain i) := by
  have known : h.outers[i]? = some (f.outer i) := by
    rw [r.outer_eq, List.getElem?_eq_getElem made]
    rfl
  induction i using chain.induct f with
  | case1 i alone =>
    rw [alone] at known
    rw [chain_of_none alone]
    exact .outermost known
  | case2 i o around ih =>
    have made' : o < h.outers.length := by
      have older := lt_of_outer around
      omega
    have known' : h.outers[o]? = some (f.outer o) := by
      rw [r.outer_eq, List.getElem?_eq_getElem made']
      rfl
    rw [around] at known
    rw [chain_of_some around]
    exact .inside known (ih made' known')

/-! ## §8. Answers. -/

/-- A frame finds the object that was declared first under a name. -/
theorem Records.find?_frame (r : f.Records h) (i : Nat) {name : Name}
    (text : name.isText = true) : (f.frame i).find? (.text name.text) = h.first? i name := by
  rw [r.frames]
  exact find?_ofList_entries (r.declared i) text

/-- A look-up finds what the history says. -/
theorem Records.finds (r : f.Records h) {i : Nat} {name : Name} (text : name.isText = true) :
    h.Finds name (f.chain i) (f.lookupParent i (.text name.text)) := by
  have at_frame : ∀ j, (((f.frame j).find? (.text name.text)).map fun object => (j, object))
      = (h.first? j name).map fun object => (j, object) := by
    intro j
    rw [r.find?_frame j text]
  cases found : f.lookupParent i (.text name.text) with
  | none =>
    unfold lookupParent at found
    simp only [at_frame, List.findSome?_eq_none_iff, Option.map_eq_none_iff] at found
    exact .nowhere found
  | some located =>
    unfold lookupParent at found
    simp only [at_frame, List.findSome?_eq_some_iff, Option.map_eq_some_iff,
      Option.map_eq_none_iff] at found
    obtain ⟨inner, g, outer, split, ⟨object, declared, rfl⟩, undeclared⟩ := found
    rw [split]
    exact .first undeclared declared

/-- What was declared on a frame hides what was declared further outward. -/
theorem Records.lookupParent_of_first? (r : f.Records h) {i : Nat} {name : Name}
    (text : name.isText = true) {object : Object} (declared : h.first? i name = some object) :
    f.lookupParent i (.text name.text) = some (i, object) := by
  -- a walk outward starts at the frame itself
  have starts : ∃ rest, f.chain i = i :: rest := by
    cases around : f.outer i with
    | none => exact ⟨[], chain_of_none around⟩
    | some o => exact ⟨f.chain o, chain_of_some around⟩
  obtain ⟨rest, walk⟩ := starts
  unfold lookupParent
  rw [walk, List.findSome?_cons, r.find?_frame i text, declared]
  rfl

theorem answer_lookup (f : Forest) (i : Nat) {name : Name} (text : name.isText = true) :
    f.answer (.lookup i name)
        = .ok (.object ((f.lookupParent i (.text name.text)).map (·.2)))
      ∧ f.answer (.lookupParent i name) = .ok (.located (f.lookupParent i (.text name.text))) := by
  constructor
  · show name.key.map _ = _
    rw [Name.key_of_isText text]
    rfl
  · show name.key.map _ = _
    rw [Name.key_of_isText text]
    rfl

end Forest

/-- A walk outward starts at a frame that was made. -/
theorem History.Outward.made {h : History} {i : Nat} {path : List Nat}
    (walk : h.Outward i path) : i < h.outers.length := by
  cases walk with
  | outermost alone => exact (List.getElem?_eq_some_iff.1 alone).1
  | inside around => exact (List.getElem?_eq_some_iff.1 around).1

/-- There is one walk outward from a frame. -/
theorem History.Outward.unique {h : History} {i : Nat} {path path' : List Nat}
    (walk : h.Outward i path) (walk' : h.Outward i path') : path = path' := by
  induction walk generalizing path' with
  | outermost alone =>
    cases walk' with
    | outermost => rfl
    | inside around =>
      rw [alone] at around
      cases around
  | inside around _ ih =>
    cases walk' with
    | outermost alone =>
      rw [alone] at around
      cases around
    | inside around' further =>
      rw [around] at around'
      cases around'
      rw [ih further]

/-- Something was declared first, if anything was. -/
theorem History.exists_first? {h : History} {i : Nat} {object : Object}
    (declared : object ∈ h.on i) : ∃ first, h.first? i object.name = some first := by
  unfold History.first?
  rw [← Option.isSome_iff_exists, List.find?_isSome]
  exact ⟨object, declared, decide_eq_true rfl⟩

theorem nodup_eraseDups {α : Type} [DecidableEq α] (items : List α) : items.eraseDups.Nodup := by
  induction items using List.reverseRecOn with
  | nil => exact List.nodup_nil
  | append_singleton items last ih =>
    rw [eraseDups_concat]
    by_cases old : last ∈ items
    · rw [if_pos old]
      exact ih
    · rw [if_neg old, List.nodup_append]
      refine ⟨ih, List.nodup_singleton last, ?_⟩
      intro a listed b new same
      rw [same, List.mem_singleton.1 new, List.mem_eraseDups] at listed
      exact old listed

namespace Forest

variable {f : Forest} {h : History}

/-- A declaration answers what the history says of its name from then on. -/
theorem Records.answer_declare (r : f.Records h) {i number : Nat} (made : i < h.outers.length)
    {passed : Object} (given : h.objects[number]? = some passed) :
    ∃ object, (h.record (.declare i number)).first? i passed.name = some object
      ∧ f.answer (.declare i number) = .ok (.object (some object))
      ∧ (f.after (.declare i number)).answer (.lookup i passed.name)
          = .ok (.object (some object)) := by
  have bound : number < h.objects.length := (List.getElem?_eq_some_iff.1 given).1
  have text : passed.name.isText = true := r.named passed (List.mem_of_getElem? given)
  have allowed : h.allows (.declare i number) = true := by
    simp [History.allows, made, bound]
  have r' := r.step allowed
  have listed : passed ∈ (h.record (.declare i number)).on i := by
    have recorded : h.record (.declare i number)
        = { h with declarations := h.declarations ++ [⟨i, passed⟩] } := by
      simp only [History.record, given]
    rw [recorded]
    show passed ∈ declaredOn i (h.declarations ++ [⟨i, passed⟩])
    rw [declaredOn_append]
    exact List.mem_append_right _ (by simp [declaredOn])
  -- the declaration is in the history now, so some declaration was the first
  obtain ⟨object, first⟩ := History.exists_first? listed
  have answered : f.answer (.declare i number)
      = .ok (.object (((f.after (.declare i number)).frame i).find? (.text passed.name.text))) := by
    show (f.declareNumbered i number).1
      = .ok (.object (((f.declareNumbered i number).2.frame i).find? _))
    unfold declareNumbered
    rw [r.objects, given]
    simp only [Name.key_of_isText text]
  refine ⟨object, first, ?_, ?_⟩
  · rw [answered, r'.find?_frame i text, first]
  · rw [(answer_lookup _ i text).1, r'.lookupParent_of_first? text first]
    rfl

/-- The answers of a forest in step with a history are those that it determines. -/
theorem Records.determinedBy (r : f.Records h) : DeterminedBy f h where
  chain := by
    intro i made
    exact ⟨f.chain i, r.outward made, nodup_chain f i, rfl⟩
  lookup := by
    intro i path walk name text
    -- the walk that the forest makes is the only one
    have same : f.chain i = path := (r.outward walk.made).unique walk
    have found : h.Finds name (f.chain i) (f.lookupParent i (.text name.text)) := r.finds text
    rw [same] at found
    exact ⟨_, found, answer_lookup f i text⟩
  declare := fun _ made _ _ given => r.answer_declare made given
  names := by
    intro i made
    have listed : (f.frame i).values.map (·.name) = h.names i := by
      rw [r.frames]
      exact names_ofList_entries (r.declared i)
    refine ⟨nodup_eraseDups _, ?_, ?_, ?_⟩
    · rw [← listed]
      rfl
    · have size : (f.frame i).size = (h.names i).length := by
        rw [← listed, List.length_map]
        exact (List.length_map _).symm
      rw [← size]
      rfl
    · intro name text
      have bound : (f.frame i).contains (.text name.text) = decide (name ∈ h.names i) := by
        rw [r.frames, contains_ofList_entries (r.declared i) text]
        unfold History.names
        simp only [List.mem_eraseDups]
      show name.key.map _ = _
      rw [Name.key_of_isText text, ← bound]
      rfl
  outer := by
    intro i outer given
    have around : f.outer i = outer := by
      rw [r.outer_eq, given]
      rfl
    rw [← around]
    rfl
  queries := fun _ query => f.after_query query

end Forest

/-- **After every run, what scopes answer is determined by the history of declarations.** -/
theorem run_determinedBy_history (commands : List Command)
    (allowed : History.allowsAll {} commands = true) :
    DeterminedBy (Forest.empty.run commands) (.of commands) :=
  (Forest.records_empty.run allowed).determinedBy

/-- A run that fills a frame after others were made inside it, declares names twice and hides a
builtin function. -/
def lateDeclarations : List Command :=
  [.addBuiltins, .addFrame (some 0), .addFrame (some 1), .addFrame (some 1), .addFrame none,
    .addObject (.ofText "x") "%local_x.pos.1" (some "VarDecl"),
    .addObject (.ofText "x") "%local_x.pos.2" (some "VarDecl"),
    .addObject (.ofText "exit") "@ugo_main_exit" (some "FuncDecl"),
    .lookup 2 (.ofText "x"), .declare 2 1, .declare 1 0, .declare 1 1, .chain 3,
    .declare 1 2, .lookupParent 3 (.ofText "exit"), .declare 0 2, .declare 4 0, .names 1]

theorem lateDeclarations_determinedBy_history :
    History.allowsAll {} lateDeclarations = true
      ∧ DeterminedBy (Forest.empty.run lateDeclarations) (.of lateDeclarations) := by
  have allowed : History.allowsAll {} lateDeclarations = true := by decide
  exact ⟨allowed, run_determinedBy_history lateDeclarations allowed⟩

end Scope
end SlotIR
