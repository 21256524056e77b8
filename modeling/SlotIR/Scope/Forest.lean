/-
  SlotIR.Scope.Forest
  ───────────────────
  **SCOPES THAT SHARE THEIR SURROUNDINGS.**

  Frames form a forest: each has at most one frame around it, and many
  frames may have the same one.  Frames and objects are numbered in the
  order of their creation, and a frame is created inside an older one, so
  the walk outward from a frame meets ever smaller numbers and ends.
  Frames may be filled at any time; what a name means is decided when it
  is looked up, by the first frame on the walk that binds it.  Only a name
  that has a key can be bound or looked up.
-/
import SlotIR.Program.Name
import SlotIR.Scope.Basic
import SlotIR.Target.Builtins

namespace SlotIR.Scope

/-! ## §1. Objects and nodes. -/

/-- What a name is bound to.  A builtin object has no number, and no declaring node whose type
could be named. -/
structure Object where
  number : Option Nat
  name : Name
  symbol : String
  typeName : Option String
  deriving DecidableEq, Repr

/-- The object of a builtin function. -/
def Object.builtin (name symbol : String) : Object :=
  { number := none, name := .ofText name, symbol, typeName := none }

/-- A frame with the number of the frame around it. -/
structure Node where
  outer : Option Nat
  frame : Frame Key Object

/-- Frames and objects by their numbers.  The frame around another is the older one. -/
structure Forest where
  nodes : List Node := []
  objects : List Object := []
  outer_lt : ∀ (i : Nat) (node : Node) (o : Nat),
    nodes[i]? = some node → node.outer = some o → o < i := by simp

namespace Forest

/-! ## §2. Walking outward. -/

/-- The frame of a number. -/
def frame (f : Forest) (i : Nat) : Frame Key Object :=
  match f.nodes[i]? with
  | none => .empty
  | some node => node.frame

/-- The number of the frame around another. -/
def outer (f : Forest) (i : Nat) : Option Nat :=
  f.nodes[i]?.bind (·.outer)

theorem lt_of_outer {f : Forest} {i o : Nat} (h : f.outer i = some o) : o < i := by
  obtain ⟨node, found, outer⟩ := Option.bind_eq_some_iff.1 h
  exact f.outer_lt i node o found outer

/-- The frames from one outward. -/
def chain (f : Forest) (i : Nat) : List Nat :=
  match _h : f.outer i with
  | none => [i]
  | some o => i :: chain f o
termination_by i
decreasing_by exact lt_of_outer _h

/-- What a name means at a frame, with the frame that binds it. -/
def lookupParent (f : Forest) (i : Nat) (key : Key) : Option (Nat × Object) :=
  (f.chain i).findSome? fun j => ((f.frame j).find? key).map fun object => (j, object)

/-- What a name means at a frame. -/
def lookup (f : Forest) (i : Nat) (key : Key) : Option Object :=
  (f.lookupParent i key).map (·.2)

/-! ## §3. Growing. -/

/-- The number that a frame around a new one may have. -/
def existing (f : Forest) (outer : Option Nat) : Option Nat :=
  outer.filter (· < f.nodes.length)

/-- Add a frame, inside an existing one or inside none. -/
def addFrame (f : Forest) (outer : Option Nat) (frame : Frame Key Object) : Forest :=
  { f with
    nodes := f.nodes ++ [{ outer := f.existing outer, frame }]
    outer_lt := by
      intro i node o found inside
      rcases Nat.lt_trichotomy i f.nodes.length with h | h | h
      · rw [List.getElem?_append_left h] at found
        exact f.outer_lt i node o found inside
      · subst h
        simp only [List.getElem?_concat_length, Option.some.injEq] at found
        subst found
        simp only [existing, Option.filter_eq_some_iff] at inside
        simpa using inside.2
      · rw [List.getElem?_eq_none (by simp; omega)] at found
        simp at found }

/-- Add an object. -/
def addObject (f : Forest) (name : Name) (symbol : String) (typeName : Option String) : Forest :=
  { f with
    objects := f.objects ++ [{ number := some f.objects.length, name, symbol, typeName }] }

/-- Bind an object under a key in a frame, unless the frame binds the key. -/
def declare (f : Forest) (i : Nat) (key : Key) (object : Object) : Forest :=
  { f with
    nodes := f.nodes.modify i fun node =>
      { node with frame := node.frame.declare key object }
    outer_lt := by
      intro j node o found inside
      rw [List.getElem?_modify] at found
      obtain ⟨old, same, rfl⟩ := Option.map_eq_some_iff.1 found
      refine f.outer_lt j old o same ?_
      split at inside <;> exact inside }

/-- The frame that binds the builtin functions. -/
def builtinFrame : Frame Key Object :=
  Frame.ofList (Builtins.functions.map fun entry => (.text entry.1, .builtin entry.1 entry.2))

/-! ## §4. Showing. -/

/-- The line of a binding. -/
def bindingText (object : Object) : String :=
  "\t" ++ object.typeName.getD "builtin" ++ " " ++ object.name.text ++ " -> " ++ object.symbol

/-- The lines of a frame. -/
def frameLines (f : Forest) (i : Nat) : List String :=
  ("scope #" ++ i.repr ++ " \x7b") ::
    (f.frame i).values.map bindingText ++ ["\x7d"]

/-- The text of the frames from one outward. -/
def text (f : Forest) (i : Nat) : String :=
  "\n".intercalate ((f.chain i).flatMap f.frameLines) ++ "\n"

end Forest

/-! ## §5. Commands and answers. -/

/-- An operation on a forest. -/
inductive Command where
  /-- Adds a frame that binds the builtin functions. -/
  | addBuiltins
  /-- Adds an empty frame. -/
  | addFrame (outer : Option Nat)
  /-- Adds an object. -/
  | addObject (name : Name) (symbol : String) (typeName : Option String)
  /-- Binds an object, given by its number, under its name. -/
  | declare (frame object : Nat)
  /-- What a name means. -/
  | lookup (frame : Nat) (name : Name)
  /-- What a name means, and which frame binds it. -/
  | lookupParent (frame : Nat) (name : Name)
  /-- Whether a frame itself binds a name. -/
  | contains (frame : Nat) (name : Name)
  /-- How many names a frame binds. -/
  | size (frame : Nat)
  /-- The names that a frame binds. -/
  | names (frame : Nat)
  /-- The frame around another. -/
  | outer (frame : Nat)
  /-- The frames from one outward. -/
  | chain (frame : Nat)
  /-- The text of the frames from one outward. -/
  | text (frame : Nat)

/-- The answer to an operation. -/
inductive Answer where
  | number (n : Nat)
  | object (object : Option Object)
  | located (found : Option (Nat × Object))
  | truth (b : Bool)
  | names (names : List Name)
  | frame (frame : Option Nat)
  | frames (frames : List Nat)
  | text (text : String)

/-- The answer about a name, if the name has a key. -/
def answerAt (name : Name) (answer : Key → Answer) : Reading Answer :=
  name.key.map answer

/-- Bind an object of a number under its name; the answer is the object that its name is bound to
afterwards. -/
def Forest.declareNumbered (f : Forest) (frame number : Nat) : Reading Answer × Forest :=
  match f.objects[number]? with
  | none => (.ok (.object none), f)
  | some object =>
    match object.name.key with
    | .error fault => (.error fault, f)
    | .ok key =>
      let after := f.declare frame key object
      (.ok (.object ((after.frame frame).find? key)), after)

/-- Carry out an operation. -/
def Forest.step (f : Forest) : Command → Reading Answer × Forest
  | .addBuiltins => (.ok (.number f.nodes.length), f.addFrame none builtinFrame)
  | .addFrame outer => (.ok (.number f.nodes.length), f.addFrame outer .empty)
  | .addObject name symbol typeName =>
    (.ok (.number f.objects.length), f.addObject name symbol typeName)
  | .declare frame number => f.declareNumbered frame number
  | .lookup frame name => (answerAt name fun key => .object (f.lookup frame key), f)
  | .lookupParent frame name => (answerAt name fun key => .located (f.lookupParent frame key), f)
  | .contains frame name => (answerAt name fun key => .truth ((f.frame frame).contains key), f)
  | .size frame => (.ok (.number (f.frame frame).size), f)
  | .names frame => (.ok (.names ((f.frame frame).values.map (·.name))), f)
  | .outer frame => (.ok (.frame (f.outer frame)), f)
  | .chain frame => (.ok (.frames (f.chain frame)), f)
  | .text frame => (.ok (.text (f.text frame)), f)

end SlotIR.Scope
