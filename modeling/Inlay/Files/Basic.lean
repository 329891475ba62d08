/-
# `Inlay.Files.Basic` — reading texts by path

A `FileReader` answers the text at a path, or why there is none.  What it reads
from is left open: a folder kept in memory (`Inlay.Files.Folder`) or a table of
files that were read before.

    missing       nothing is at the path
    notFolder     the path leads through a file
    isFolder      a folder is at the path
    nameTooLong   a name has over 255 bytes, or the path over 4095
    hasNul        the path has a NUL character
    notText       the bytes at the path are no UTF-8
    failed        anything else
-/

namespace Inlay

/-- Why no text was read. -/
inductive FileError
  | missing
  | notFolder
  | isFolder
  | nameTooLong
  | hasNul
  | notText
  | failed (reason : String)
  deriving Repr, DecidableEq

namespace FileError

def message : FileError → String
  | .missing => "No such file or directory (os error 2)"
  | .notFolder => "Not a directory (os error 20)"
  | .isFolder => "Is a directory (os error 21)"
  | .nameTooLong => "File name too long (os error 36)"
  | .hasNul => "file name contained an unexpected NUL byte"
  | .notText => "stream did not contain valid UTF-8"
  | .failed reason => reason

/-- Whether a regular file is there all the same. -/
def isAtFile : FileError → Bool
  | .notText => true
  | .failed _ => true
  | _ => false

end FileError

/-- The text at a path. -/
abbrev FileReader := String → Except FileError String

/-- Bytes as text. -/
def textOf (bytes : ByteArray) : Except FileError String :=
  match String.fromUTF8? bytes with
  | some s => .ok s
  | none => .error .notText

end Inlay
