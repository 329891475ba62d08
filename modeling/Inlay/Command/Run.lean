/-
# `Inlay.Command.Run` — run a command

A command that names no document needs one on standard input, and nobody is
asked to type it: at a terminal the command ends.  It reads, in this order, its
settings file, the names of types, the data and the document; the first of them
that fails ends it.  Then it runs its action at the first node that its target
selects, and prints what the action answers:

    a target    the document
    nodes       each of them on a line
    templates   their keys, each on a line
    a fragment  as it is

Each is followed by a line feed.  Only the action `add` reads a template from
a file; for others the path is a key.
-/
import Inlay.Command.Arguments
import Inlay.Data.Reader
import Inlay.Dispatch.Settings
import Inlay.Files.Loader
import Inlay.Selector.Reader
import Inlay.Template.Compiled

namespace Inlay

/-- What a command has for its standard input. -/
inductive StandardInput
  | terminal
  | text (read : Except FileError String)

/-- Why a command ends without its action. -/
inductive CommandError
  | noDocument
  | settings (path : String) (reason : SettingsError)
  | unknownOutput (name : String)
  | unknownRemoval (name : String)
  | dataFile (path : String) (reason : FileError)
  | data (reason : Data.ReadError)
  | document (path : String) (reason : FileError)
  | input (reason : FileError)
  deriving Repr, DecidableEq

def CommandError.message : CommandError → String
  | .noDocument => "Error: no input document (pass a file or pipe HTML on stdin)"
  | .settings path e => "Error loading options '" ++ path ++ "': " ++ e.message
  | .unknownOutput name => "Error: unknown output type '" ++ name ++ "'"
  | .unknownRemoval name => "Error: unknown remove type '" ++ name ++ "'"
  | .dataFile path e => "Error: reading data file '" ++ path ++ "': " ++ e.message
  | .data e => "Error: invalid JSON data: " ++ e.message
  | .document path e => "Error reading file '" ++ path ++ "': " ++ e.message
  | .input e => "Error reading from stdin: " ++ e.message

namespace Command

/-- The options that the command starts from. -/
def defaults (c : Command) (read : FileReader) : Except CommandError Options :=
  match c.value? .config with
  | some path => (Options.ofFile read path).mapError (.settings path)
  | none => .ok {}

/-- The options that the command line says. -/
def overrides (c : Command) : Except CommandError Overrides := do
  let output ← match c.value? .output with
    | none => .ok none
    | some name =>
      match Output.named? name with
      | some o => .ok (some o)
      | none => .error (.unknownOutput name)
  let removal ← match c.value? .removal with
    | none => .ok none
    | some name =>
      match Removal.named? name with
      | some r => .ok (some r)
      | none => .error (.unknownRemoval name)
  let off (s : Switch) := if c.has s then some false else none
  return {
    deleteCompiled := off .keepCompiled
    storeCompiled := off .noStore
    refill := off .noRefill
    removal
    output
    validate := off .noValidate }

/-- The data of the command. -/
def dataOf (c : Command) (read : FileReader) : Except CommandError Data.Value := do
  let text? ← match c.value? .data with
    | some path => ((read path).map some).mapError (.dataFile path)
    | none => .ok (c.value? .dataText)
  match text? with
  | some text => (Data.Value.read text).mapError .data
  | none => return .null

/-- There is a document to read, be it of a file or of standard input. -/
def checkInput (c : Command) (standard : StandardInput) : Except CommandError Unit :=
  match c.input, standard with
  | none, .terminal => .error .noDocument
  | some _, _ | none, .text _ => .ok ()

/-- The text of the document. -/
def documentText (c : Command) (read : FileReader) (standard : StandardInput) :
    Except CommandError String :=
  match c.input, standard with
  | some path, _ => (read path).mapError (.document path)
  | none, .text text => text.mapError .input
  | none, .terminal => .error .noDocument

/-- Run the action of the command. -/
def act (c : Command) (read : FileReader) (defaults : Options) (p : Overrides)
    (data : Data.Value) (d : Document) : Answer CompiledTemplate :=
  let s : Dispatcher CompiledTemplate := ⟨Cache.empty, defaults⟩
  let target := (d.select ((c.value? .target).getD "body")).first
  let action := (c.value? .action).getD "add"
  match c.value? .source, Action.named? action with
  | some path, some .add =>
    s.addFrom CompiledTemplate.engine (fun l => (FileLoader.load {} read l).toOption) d target
      path data p
  | source, _ =>
    let t := match source <|> c.value? .template with
      | some key => .key key
      | none => .absent
    s.dispatch CompiledTemplate.engine d target action t data p

/-- What is printed for an answer. -/
def printed (a : Answer CompiledTemplate) : String :=
  let lines (xs : List String) := String.join (xs.map (· ++ "\n"))
  match a.outcome with
  | .target _ => lines [a.document.write]
  | .nodes s => lines (s.nodes.map a.document.outer)
  | .compiled cache => lines cache.keys
  | .raw fragment => lines [fragment]
  | .html fragment => lines [fragment.write]

/-- Run a command. -/
def run (c : Command) (read : FileReader) (standard : StandardInput) :
    Except CommandError String := do
  c.checkInput standard
  let defaults ← c.defaults read
  let p ← c.overrides
  let data ← c.dataOf read
  let text ← c.documentText read standard
  return printed (c.act read defaults p data (Document.parse text))

/-- What a command line leaves behind. -/
structure Report where
  code : Nat
  output : String := ""
  message : String := ""
  deriving Repr, DecidableEq

/-- What is printed for help. -/
def usage : String :=
  "Render templates into documents\n\nUsage: inlay [OPTIONS] [FILE]\n"

/-- Run a command line. -/
def report (arguments : List String) (read : FileReader) (standard : StandardInput) : Report :=
  match ofArguments arguments with
  | .error .help => ⟨0, usage, ""⟩
  | .error .refused => ⟨2, "", usage⟩
  | .ok c =>
    match c.run read standard with
    | .ok output => ⟨0, output, ""⟩
    | .error e => ⟨1, "", e.message ++ "\n"⟩

end Command

end Inlay
