import Zigbee.Failure

/-!
# The file of the database

A file that is replaced as a whole: new content is written beside it and then takes its
place. So at any time the file holds what was there before or what was written last.
Writing fails if the directory is missing, or if something that is no file stands where
the new content would be written.
-/

namespace Zigbee.Database

/-- What stands at the path of the database. -/
inductive Place where
  /-- A file, or nothing yet. -/
  | file
  /-- A directory. -/
  | directory
  /-- Nothing, and the directory around it is missing too. -/
  | missing
deriving DecidableEq, Repr

/-- The file of the database. -/
structure Disk where
  place : Place := .file
  content : Option String := none
  /-- Whether a directory stands where new content is written first. -/
  spoiled : Bool := false
deriving DecidableEq, Repr

namespace Disk

/-- The content of the file. -/
def read (d : Disk) : Except IoKind String :=
  match d.place, d.content with
  | .directory, _ => .error .isADirectory
  | .missing, _ | .file, none => .error .notFound
  | .file, some text => .ok text

/-- The file with new content. -/
def write (d : Disk) (text : String) : Except IoKind Disk :=
  match d.place with
  | .missing => .error .notFound
  | .directory => .error .isADirectory
  | .file => if d.spoiled then .error .isADirectory else .ok { d with content := some text }

/-- Put a directory where new content is written first. -/
def spoil (d : Disk) : Bool × Disk :=
  if d.place = .missing ∨ d.spoiled then (false, d) else (true, { d with spoiled := true })

/-- Take that directory away. -/
def unspoil (d : Disk) : Bool × Disk :=
  (d.spoiled, { d with spoiled := false })

theorem read_write {d e : Disk} {text : String} (h : d.write text = .ok e) :
    e.read = .ok text := by
  unfold write at h
  split at h
  · simp at h
  · simp at h
  · split at h
    · simp at h
    · rename_i hp _
      simp only [Except.ok.injEq] at h
      subst h
      simp [read, hp]

end Disk

end Zigbee.Database
