/-
  SlotIR.Build.Path
  ─────────────────
  **THE PARTS OF A PATH.**

  A path is a sequence of names with slashes between them.  The last name
  may have an extension: what stands from its last dot on, where the dots
  that it begins with do not count.

      out.ll      has the extension  .ll
      .ll  ..ll   have none
      d/.ll  x/   have none
-/
namespace SlotIR.Build.Path

/-! ## §1. Names. -/

/-- The names in a path, from left to right; there is at least one, and any may be empty. -/
def nameChars : List Char → List (List Char)
  | [] => [[]]
  | c :: rest =>
    if c = '/' then [] :: nameChars rest
    else
      match nameChars rest with
      | [] => [[c]]
      | first :: more => (c :: first) :: more

/-- A path without a slash is one name. -/
theorem nameChars_of_no_slash {path : List Char} (plain : '/' ∉ path) :
    nameChars path = [path] := by
  induction path with
  | nil => rfl
  | cons c rest ih =>
    rw [List.mem_cons, not_or] at plain
    unfold nameChars
    rw [if_neg (Ne.symm plain.1), ih plain.2]

/-- The names in a path as texts. -/
def names (path : String) : List String :=
  (nameChars path.toList).map String.ofList

/-- The path starts at the root of the file system. -/
def isAbsolute (path : String) : Bool :=
  path.toList.head? == some '/'

/-- The path has more than one name. -/
def holdsSlash (path : String) : Bool :=
  path.toList.contains '/'

/-- The path holds a character that no path may hold. -/
def holdsNul (path : String) : Bool :=
  path.toList.contains '\x00'

/-! ## §2. Extensions. -/

/-- The extension of a name, with its dot. -/
def extensionChars (name : List Char) : List Char :=
  let rest := name.dropWhile (· = '.')
  if rest.contains '.' then '.' :: (rest.reverse.takeWhile (· ≠ '.')).reverse else []

/-- The extension of a path: that of its last name. -/
def extension (path : String) : String :=
  String.ofList (extensionChars ((nameChars path.toList).getLast?.getD []))

theorem extensionChars_of_no_dot {name : List Char} (plain : '.' ∉ name) :
    extensionChars name = [] := by
  unfold extensionChars
  have dropped : '.' ∉ name.dropWhile (· = '.') :=
    fun found => plain ((List.dropWhile_sublist _).subset found)
  simp [dropped]

/-- A name without a dot has no extension. -/
theorem extension_of_plain {path : String} (no_slash : '/' ∉ path.toList)
    (no_dot : '.' ∉ path.toList) : extension path = "" := by
  unfold extension
  rw [nameChars_of_no_slash no_slash]
  show String.ofList (extensionChars path.toList) = ""
  rw [extensionChars_of_no_dot no_dot]

example : extension "a.b.ll" = ".ll" := by decide +kernel
example : extension "a..ll" = ".ll" := by decide +kernel
example : extension "..ll" = "" := by decide +kernel
example : extension "d.ll/out" = "" := by decide +kernel
example : extension "x.ll/" = "" := by decide +kernel

end SlotIR.Build.Path
