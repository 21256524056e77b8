/-
  SlotIR.Build.Disk
  ─────────────────
  **FOLDERS AND FILES.**

  A PLACE is reached from the working folder, from a folder around it, or
  from the root, by going down through names.  A DISK says at which places
  there are folders and what the files at other places hold.  A path is
  followed name by name, and the first obstacle on it is the fault:

      a name too long       more than 255 bytes
      nothing of that name  in the folder reached
      a file                where the path goes on
      a folder              where the path ends

  Beside all this a disk may have one temporary folder, which no path of a
  user leads to.
-/
import SlotIR.Build.Path
import SlotIR.Build.System

namespace SlotIR.Build

/-! ## §1. Places. -/

/-- Where a path starts, or where going up has led. -/
inductive Origin where
  /-- The working folder. -/
  | working
  /-- The folder `levels + 1` levels above the working folder. -/
  | ancestor (levels : Nat)
  /-- The root of the file system. -/
  | root
  deriving DecidableEq, Repr

/-- The origin one level up; above the root there is only the root. -/
def Origin.up : Origin → Origin
  | .working => .ancestor 0
  | .ancestor levels => .ancestor (levels + 1)
  | .root => .root

/-- A place: an origin and the names that lead down from it, the last one first. -/
structure Place where
  origin : Origin := .working
  names : List String := []
  deriving DecidableEq, Repr

namespace Place

/-- The place of the given name inside a folder. -/
def child (here : Place) (name : String) : Place :=
  { here with names := name :: here.names }

/-- The place around another. -/
def parent (here : Place) : Place :=
  match here.names with
  | [] => { here with origin := here.origin.up }
  | _ :: outer => { here with names := outer }

/-- Where a path starts. -/
def start (path : String) : Place :=
  { origin := if Path.isAbsolute path then .root else .working }

end Place

/-! ## §2. Disks. -/

/-- Why a path cannot be followed to a file. -/
inductive PathFault where
  | missing
  | notFolder
  | isFolder
  | nameTooLong
  deriving DecidableEq, Repr

/-- The fault of the system where a path cannot be followed. -/
def PathFault.on (path : String) : PathFault → SystemFault
  | .missing => ⟨2, "No such file or directory", path⟩
  | .notFolder => ⟨20, "Not a directory", path⟩
  | .isFolder => ⟨21, "Is a directory", path⟩
  | .nameTooLong => ⟨36, "File name too long", path⟩

/-- The greatest number of bytes in a name. -/
def maxNameBytes : Nat := 255

/-- The greatest number of bytes in a path. -/
def maxPathBytes : Nat := 4095

/-- Folders and files by their places. -/
structure Disk where
  folders : List Place := []
  files : List (Place × String) := []
  /-- The files in the temporary folder, if there is one. -/
  scratch : Option (List (String × String)) := none

namespace Disk

/-- There is a folder at a place; origins are folders. -/
def hasFolder (disk : Disk) (place : Place) : Bool :=
  place.names.isEmpty || disk.folders.contains place

/-- What the file at a place holds. -/
def contentAt? (disk : Disk) (place : Place) : Option String :=
  disk.files.lookup place

/-- Put a file at a place, instead of one that is there. -/
def put (disk : Disk) (place : Place) (content : String) : Disk :=
  { disk with files := (place, content) :: disk.files.filter (·.1 ≠ place) }

@[simp] theorem contentAt?_put (disk : Disk) (place : Place) (content : String) :
    (disk.put place content).contentAt? place = some content := by
  simp [contentAt?, put]

/-- Of two files put at a place, the second stays. -/
@[simp] theorem put_put (disk : Disk) (place : Place) (first second : String) :
    (disk.put place first).put place second = disk.put place second := by
  simp [put]

@[simp] theorem hasFolder_put (disk : Disk) (place other : Place) (content : String) :
    (disk.put place content).hasFolder other = disk.hasFolder other := rfl

/-! ## §3. Following a path. -/

/-- Go from a folder into the folder of a name. -/
def enter (disk : Disk) (here : Place) (name : String) : Except PathFault Place :=
  if name = "" || name = "." then .ok here
  else if name = ".." then .ok here.parent
  else if maxNameBytes < name.utf8ByteSize then .error .nameTooLong
  else if disk.hasFolder (here.child name) then .ok (here.child name)
  else if (disk.contentAt? (here.child name)).isSome then .error .notFolder
  else .error .missing

/-- The folder that a path leads to before its last name. -/
def folderOf (disk : Disk) (path : String) : Except PathFault Place :=
  (Path.names path).dropLast.foldlM disk.enter (Place.start path)

/-- The place for a file of a name in a folder. -/
def fileIn (disk : Disk) (here : Place) (name : String) : Except PathFault Place :=
  if name = "" || name = "." || name = ".." then .error .isFolder
  else if maxNameBytes < name.utf8ByteSize then .error .nameTooLong
  else if disk.hasFolder (here.child name) then .error .isFolder
  else .ok (here.child name)

/-- The place for a file at the end of a path. -/
def locate (disk : Disk) (path : String) : Except PathFault Place :=
  if maxPathBytes < path.utf8ByteSize then .error .nameTooLong
  else do disk.fileIn (← disk.folderOf path) ((Path.names path).getLast?.getD "")

/-- What the file at the end of a path holds, if there is one. -/
def read? (disk : Disk) (path : String) : Option String :=
  match disk.locate path with
  | .ok place => disk.contentAt? place
  | .error _ => none

/-- Where a path leads into a folder, it still does after a file is put somewhere. -/
theorem enter_put {disk : Disk} {here there : Place} {name : String}
    (h : disk.enter here name = .ok there) (place : Place) (content : String) :
    (disk.put place content).enter here name = .ok there := by
  unfold enter at h ⊢
  rw [hasFolder_put]
  by_cases stays : (name = "" || name = ".") = true
  · rw [if_pos stays] at h ⊢
    exact h
  rw [if_neg stays] at h ⊢
  by_cases up : name = ".."
  · rw [if_pos up] at h ⊢
    exact h
  rw [if_neg up] at h ⊢
  by_cases long : maxNameBytes < name.utf8ByteSize
  · rw [if_pos long] at h
    exact absurd h (by simp)
  rw [if_neg long] at h ⊢
  by_cases folder : disk.hasFolder (here.child name) = true
  · rw [if_pos folder] at h ⊢
    exact h
  · rw [if_neg folder] at h
    split at h <;> exact absurd h (by simp)

/-- Where names lead one after another into a folder, they still do after a file is put
somewhere. -/
theorem foldlM_enter_put {disk : Disk} {names : List String} {here there : Place}
    (h : names.foldlM disk.enter here = .ok there) (place : Place) (content : String) :
    names.foldlM (disk.put place content).enter here = .ok there := by
  induction names generalizing here with
  | nil => exact h
  | cons name rest ih =>
    rw [List.foldlM_cons] at h ⊢
    cases step : disk.enter here name with
    | error fault =>
      rw [step] at h
      exact absurd h (by simp [bind, Except.bind])
    | ok middle =>
      rw [step] at h
      rw [enter_put step place content]
      exact ih h

/-- Where a path leads to a file, it still does after a file is put somewhere. -/
theorem locate_put {disk : Disk} {path : String} {there : Place}
    (h : disk.locate path = .ok there) (place : Place) (content : String) :
    (disk.put place content).locate path = .ok there := by
  unfold locate at h ⊢
  split at h
  · exact absurd h (by simp)
  · rename_i short
    rw [if_neg short]
    cases step : disk.folderOf path with
    | error fault =>
      rw [step] at h
      exact absurd h (by simp [bind, Except.bind])
    | ok folder =>
      rw [step] at h
      have same_folder : (disk.put place content).folderOf path = .ok folder :=
        foldlM_enter_put step place content
      rw [same_folder]
      exact h

/-- What was put at the end of a path is read back. -/
theorem read?_put {disk : Disk} {path : String} {place : Place}
    (found : disk.locate path = .ok place) (content : String) :
    (disk.put place content).read? path = some content := by
  unfold read?
  rw [locate_put found place content]
  exact contentAt?_put disk place content

/-! ## §4. Laying out a disk. -/

/-- The place one name further on, whatever is there. -/
def stepTo (here : Place) (name : String) : Place :=
  if name = "" || name = "." then here
  else if name = ".." then here.parent
  else here.child name

/-- The places along a path, from its start to its end. -/
def placesFrom (here : Place) : List String → List Place
  | [] => [here]
  | name :: rest => here :: placesFrom (stepTo here name) rest

/-- Add a folder, with those that lead to it. -/
def addFolder (disk : Disk) (path : String) : Disk :=
  { disk with folders := placesFrom (Place.start path) (Path.names path) ++ disk.folders }

/-- Add a file, with the folders that lead to it. -/
def addFile (disk : Disk) (path content : String) : Disk :=
  let places := placesFrom (Place.start path) (Path.names path)
  { disk with folders := places.dropLast ++ disk.folders }.put
    (places.getLast?.getD (Place.start path)) content

/-- The disk with the given folders and files. -/
def ofListing (folders : List String) (files : List (String × String)) : Disk :=
  files.foldl (fun disk file => disk.addFile file.1 file.2) (folders.foldl addFolder {})

/-! ## §5. The temporary folder. -/

/-- The disk with an empty temporary folder. -/
def openScratch (disk : Disk) : Disk := { disk with scratch := some [] }

/-- The disk without a temporary folder. -/
def closeScratch (disk : Disk) : Disk := { disk with scratch := none }

/-- The disk with one file more in its temporary folder, if it has one. -/
def addScratch (disk : Disk) (file : String × String) : Disk :=
  { disk with scratch := disk.scratch.map (· ++ [file]) }

end Disk
end SlotIR.Build
