/-
# `Inlay.Files.Loader` — markup from files

A `FileLoader` reads markup at a location: a path, taken below a base path if
there is one and the location is relative.  A location where no regular file is
counts as not found, whatever the reason.
-/
import Inlay.Files.Basic

namespace Inlay

/-- Why no markup was loaded. -/
inductive LoadError
  | notFound (path : String)
  | unreadable (path : String) (reason : FileError)
  deriving Repr, DecidableEq

def LoadError.message : LoadError → String
  | .notFound path => "template source not found: " ++ path
  | .unreadable path reason => "error reading template source " ++ path ++ ": " ++ reason.message

structure FileLoader where
  base : Option String := none
  deriving Repr, DecidableEq

namespace FileLoader

/-- A path below a base path. -/
def join (base path : String) : String :=
  if path.startsWith "/" || base.isEmpty then path
  else if base.endsWith "/" then base ++ path
  else base ++ "/" ++ path

/-- The path of a location. -/
def path (l : FileLoader) (location : String) : String :=
  match l.base with
  | some base => join base location
  | none => location

/-- The markup at a location. -/
def load (l : FileLoader) (read : FileReader) (location : String) : Except LoadError String :=
  let path := l.path location
  match read path with
  | .ok markup => .ok markup
  | .error e => .error (if e.isAtFile then .unreadable path e else .notFound path)

end FileLoader

end Inlay
