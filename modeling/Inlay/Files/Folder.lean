/-
# `Inlay.Files.Folder` — folders in memory

A `Folder` holds files at paths below it, and folders that may be empty.  Its
reader walks a path name by name, beginning in the folder itself:

    ""  "."   stays, if it stands at a folder
    ".."      goes up; above the folder nothing is known but folders
    name      goes to the file or folder of that name

A path with a slash at its front begins above the folder.
-/
import Inlay.Files.Basic

namespace Inlay

structure Folder where
  /-- The bytes of the files by the names on the way to them. -/
  files : List (List String × ByteArray)
  folders : List (List String)

namespace Folder

/-- The names on the way that a relative path goes. -/
def names (path : String) : List String :=
  (path.splitOn "/").foldl (fun way name =>
    if name = "" || name = "." then way else if name = ".." then way.dropLast else way ++ [name]) []

/-- A folder with files and folders at relative paths. -/
def ofPaths (files : List (String × ByteArray)) (folders : List String) : Folder :=
  ⟨files.map fun (path, bytes) => (names path, bytes), folders.map names⟩

/-- A stage of a walk. -/
inductive Stage
  | file (bytes : ByteArray)
  | folder (way : List String)
  /-- A folder above. -/
  | above

/-- The file or folder at the end of a way. -/
def at? (f : Folder) (way : List String) : Option Stage :=
  match f.files.find? (·.1 = way) with
  | some (_, bytes) => some (.file bytes)
  | none =>
    if way.isEmpty || f.files.any (way.isPrefixOf ·.1) || f.folders.any (way.isPrefixOf ·) then
      some (.folder way)
    else none

/-- One name of a walk. -/
def step (f : Folder) (s : Stage) (name : String) : Except FileError Stage :=
  match s with
  | .file _ => .error .notFolder
  | .above =>
    if name = "" || name = "." || name = ".." then .ok .above
    else if 255 < name.utf8ByteSize then .error .nameTooLong
    else .error .missing
  | .folder way =>
    if name = "" || name = "." then .ok s
    else if name = ".." then .ok (if way.isEmpty then .above else .folder way.dropLast)
    else if 255 < name.utf8ByteSize then .error .nameTooLong
    else
      match f.at? (way ++ [name]) with
      | some s => .ok s
      | none => .error .missing

/-- What is at a path. -/
def walk (f : Folder) (path : String) : Except FileError Stage :=
  if path.toList.contains '\x00' then .error .hasNul
  else if path.isEmpty then .error .missing
  else if 4095 < path.utf8ByteSize then .error .nameTooLong
  else
    (path.splitOn "/").foldlM f.step (if path.startsWith "/" then .above else .folder [])

/-- The text at a path. -/
def reader (f : Folder) : FileReader := fun path => do
  match ← f.walk path with
  | .file bytes => textOf bytes
  | _ => .error .isFolder

end Folder

end Inlay
