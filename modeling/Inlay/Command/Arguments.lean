/-
# `Inlay.Command.Arguments` — what a command line asks for

    [FILE]                    the document; standard input without it
    -a, --action WORD         what to do; `add` without it
    -t, --template KEY        the template
    -s, --source FILE         the same from a file
        --target SELECTOR     where; `body` without it
    -d, --data FILE           the data
        --data-json TEXT      the same as they stand
    -c, --config FILE         a settings file
        --type NAME           what becomes of a fragment
        --remove-type NAME    what is taken away first
        --no-refill  --no-store  --no-validate  --keep-compiled
    -v, --verbose             any number of times
    -h, --help

The value of an option stands behind `=`, right behind its letter, or in the
next argument; a next argument that begins with a hyphen, other than the hyphen
alone, is no value.  Letters may stand together; behind `--` nothing is an
option.  Each option but `-v` is given once, a template or a source, and data
in one of the two forms; no path is empty.
-/

namespace Inlay

/-- An option that has a value. -/
inductive Setting
  | action | template | source | target | data | dataText | config | output | removal
  deriving Repr, DecidableEq

/-- An option that has none. -/
inductive Switch
  | noRefill | noStore | noValidate | keepCompiled
  deriving Repr, DecidableEq

/-- An option. -/
inductive Flag
  | setting (s : Setting)
  | switch (s : Switch)
  | verbose
  | help
  deriving Repr, DecidableEq

namespace Flag

/-- The option of a name. -/
def named? : String → Option Flag
  | "action" => some (.setting .action)
  | "template" => some (.setting .template)
  | "source" => some (.setting .source)
  | "target" => some (.setting .target)
  | "data" => some (.setting .data)
  | "data-json" => some (.setting .dataText)
  | "config" => some (.setting .config)
  | "type" => some (.setting .output)
  | "remove-type" => some (.setting .removal)
  | "no-refill" => some (.switch .noRefill)
  | "no-store" => some (.switch .noStore)
  | "no-validate" => some (.switch .noValidate)
  | "keep-compiled" => some (.switch .keepCompiled)
  | "verbose" => some .verbose
  | "help" => some .help
  | _ => none

/-- The option of a letter. -/
def lettered? : Char → Option Flag
  | 'a' => some (.setting .action)
  | 't' => some (.setting .template)
  | 's' => some (.setting .source)
  | 'd' => some (.setting .data)
  | 'c' => some (.setting .config)
  | 'v' => some .verbose
  | 'h' => some .help
  | _ => none

end Flag

/-- What a command line asks for. -/
structure Command where
  /-- The path of the document. -/
  input : Option String := none
  settings : List (Setting × String) := []
  switches : List Switch := []
  verbosity : Nat := 0
  deriving Repr, DecidableEq

/-- Why a command line is not run. -/
inductive Stop
  | help
  | refused
  deriving Repr, DecidableEq

namespace Command

/-- The value of an option. -/
def value? (c : Command) (s : Setting) : Option String := (c.settings.find? (·.1 = s)).map (·.2)

def has (c : Command) (s : Switch) : Bool := c.switches.contains s

/-- Whether the value of an option is a path. -/
def isPath : Setting → Bool
  | .source | .data | .config => true
  | _ => false

/-- Give an option its value. -/
def give (c : Command) (s : Setting) (value : String) : Except Stop Command :=
  if (c.value? s).isSome || (isPath s && value.isEmpty) then .error .refused
  else .ok { c with settings := c.settings ++ [(s, value)] }

/-- Give an option that has no value. -/
def turnOn (c : Command) (s : Switch) : Except Stop Command :=
  if c.has s then .error .refused else .ok { c with switches := c.switches ++ [s] }

/-- Give the path of the document. -/
def place (c : Command) (path : String) : Except Stop Command :=
  if c.input.isSome || path.isEmpty then .error .refused else .ok { c with input := some path }

/-- Whether an argument is an option or a row of options. -/
def isOption (argument : String) : Bool := argument.startsWith "-" && argument ≠ "-"

/-- Letters with a hyphen before them; an option that waits for its value is answered. -/
def readLetters (c : Command) : List Char → Except Stop (Command × Option Setting)
  | [] => .ok (c, none)
  | x :: rest =>
    match Flag.lettered? x with
    | none => .error .refused
    | some .help => .error .help
    | some .verbose => readLetters { c with verbosity := c.verbosity + 1 } rest
    | some (.switch s) => do readLetters (← c.turnOn s) rest
    | some (.setting s) =>
      match rest with
      | [] => .ok (c, some s)
      | '=' :: value => do .ok (← c.give s (String.ofList value), none)
      | value => do .ok (← c.give s (String.ofList value), none)

/-- A name with two hyphens before it, and its value if one stands behind `=`. -/
def readName (c : Command) (argument : List Char) : Except Stop (Command × Option Setting) :=
  let name := argument.takeWhile (· ≠ '=')
  let value? := match argument.dropWhile (· ≠ '=') with
    | _ :: value => some (String.ofList value)
    | [] => none
  match Flag.named? (String.ofList name), value? with
  | some (.setting s), some value => do .ok (← c.give s value, none)
  | some (.setting s), none => .ok (c, some s)
  | some (.switch s), none => do .ok (← c.turnOn s, none)
  | some .verbose, none => .ok ({ c with verbosity := c.verbosity + 1 }, none)
  | some .help, none => .error .help
  | _, _ => .error .refused

/-- Read arguments; `waiting` is the option whose value comes next. -/
def readFrom (c : Command) (waiting : Option Setting) : List String → Except Stop Command
  | [] => if waiting.isSome then .error .refused else .ok c
  | argument :: rest =>
    match waiting, isOption argument with
    | some s, false => do readFrom (← c.give s argument) none rest
    | some _, true => .error .refused
    | none, false => do readFrom (← c.place argument) none rest
    | none, true =>
      if argument = "--" then rest.foldlM place c
      else
        match argument.toList with
        | '-' :: '-' :: name => do
          let (c, waiting) ← c.readName name
          readFrom c waiting rest
        | _ :: letters => do
          let (c, waiting) ← c.readLetters letters
          readFrom c waiting rest
        | [] => .error .refused

/-- Options that are not given together. -/
def conflicts (c : Command) : Bool :=
  ((c.value? .template).isSome && (c.value? .source).isSome) ||
    ((c.value? .data).isSome && (c.value? .dataText).isSome)

/-- What the arguments of a command line ask for. -/
def ofArguments (arguments : List String) : Except Stop Command := do
  let c ← readFrom {} none arguments
  if c.conflicts then .error .refused else .ok c

/-- The paths that a command names. -/
def paths (c : Command) : List String :=
  c.input.toList ++ (c.settings.filter fun (s, _) => isPath s).map (·.2)

end Command

end Inlay
