/-
# `Inlay.Main` — the command line

The files that a command names are read before it runs, and standard input
only where it names no document.
-/
import Inlay.Command.Run

namespace Inlay

/-- Why a file was not read. -/
def fileErrorOf : IO.Error → FileError
  | .noFileOrDirectory _ _ _ => .missing
  | .inappropriateType _ _ _ => .isFolder
  | e => .failed (toString e)

/-- The text of a file. -/
def readFile (path : String) : IO (Except FileError String) := do
  try
    return textOf (← IO.FS.readBinFile path)
  catch e =>
    return .error (fileErrorOf e)

/-- All that is on a stream. -/
partial def readStream (s : IO.FS.Stream) (before : ByteArray) : IO ByteArray := do
  let more ← s.read 65536
  if more.isEmpty then return before else readStream s (before ++ more)

/-- Texts that were read before, by their paths. -/
def readerOf (texts : List (String × Except FileError String)) : FileReader := fun path =>
  match texts.find? (·.1 = path) with
  | some (_, text) => text
  | none => .error .missing

/-- What is on standard input, if it is no terminal. -/
def standardInput : IO StandardInput := do
  let stdin ← IO.getStdin
  if ← stdin.isTty then return .terminal
  return .text (textOf (← readStream stdin .empty))

/-- What a command line needs to run. -/
def gather (arguments : List String) : IO (FileReader × StandardInput) := do
  match Command.ofArguments arguments with
  | .error _ => return (readerOf [], .text (.ok ""))
  | .ok c =>
    let texts ← c.paths.mapM fun path => do return (path, ← readFile path)
    let standard ← if c.input.isSome then pure (.text (.ok "")) else standardInput
    return (readerOf texts, standard)

end Inlay

def main (arguments : List String) : IO UInt32 := do
  let (read, standard) ← Inlay.gather arguments
  let report := Inlay.Command.report arguments read standard
  IO.print report.output
  IO.eprint report.message
  return report.code.toUInt32
