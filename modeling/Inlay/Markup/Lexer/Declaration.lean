/-
# `Inlay.Markup.Lexer.Declaration` — comments and document types

A comment runs from `<!--` to the first `-->` or `--!>`; `<!-->` and `<!--->`
are empty comments.  A comment that the text ends in keeps all but the dashes
that could have begun its end.  Anything else behind `<!`, `<?` or `</` that
is no tag is a comment up to the next `>`.

A document type has a name and up to two identifiers.  What is malformed in it
forces the oldest layout rules, and the rest up to `>` is skipped.
-/
import Inlay.Markup.Lexer.Tag

namespace Inlay.Markup.Lexer

/-- A comment without marks of its own: up to the next `>`. -/
def bogusComment (cs : List Char) : String × List Char :=
  (String.ofList ((cs.takeWhile (· ≠ '>')).map noNull), (cs.dropWhile (· ≠ '>')).drop 1)

/-- Where in the end of a comment a reader stands: after how many dashes, or after `--!`. -/
inductive CommentState
  | body
  | dash
  | dashes
  | bang
  deriving Repr, DecidableEq

/-- The characters of a comment up to its end, in reverse, and what stands behind it. -/
def commentBody : CommentState → List Char → List Char → List Char × List Char
  | _, acc, [] => (acc, [])
  | .body, acc, c :: cs =>
    if c = '-' then commentBody .dash acc cs else commentBody .body (noNull c :: acc) cs
  | .dash, acc, c :: cs =>
    if c = '-' then commentBody .dashes acc cs
    else commentBody .body (noNull c :: '-' :: acc) cs
  | .dashes, acc, c :: cs =>
    if c = '>' then (acc, cs)
    else if c = '!' then commentBody .bang acc cs
    else if c = '-' then commentBody .dashes ('-' :: acc) cs
    else commentBody .body (noNull c :: '-' :: '-' :: acc) cs
  | .bang, acc, c :: cs =>
    if c = '>' then (acc, cs)
    else if c = '-' then commentBody .dash ('!' :: '-' :: '-' :: acc) cs
    else commentBody .body (noNull c :: '!' :: '-' :: '-' :: acc) cs

/-- A comment behind `<!--`. -/
def comment (cs : List Char) : String × List Char :=
  match cs with
  | '>' :: rest => ("", rest)
  | '-' :: '>' :: rest => ("", rest)
  | '-' :: '-' :: rest => finish (commentBody .dashes [] rest)
  | '-' :: rest =>
    match rest with
    | [] => ("", [])
    | c :: rest => finish (commentBody .body [noNull c, '-'] rest)
  | cs => finish (commentBody .body [] cs)
where
  finish (p : List Char × List Char) : String × List Char := (String.ofList p.1.reverse, p.2)

/-- Skip what is left of a document type. -/
def skipDoctype (cs : List Char) : List Char := (cs.dropWhile (· ≠ '>')).drop 1

/-- A quoted identifier behind its quote: its text, whether it was closed, what stands behind. -/
def identifier (quote : Char) (cs : List Char) : String × Bool × List Char :=
  let inside := fun c => c ≠ quote && c ≠ '>'
  let body := String.ofList ((cs.takeWhile inside).map noNull)
  match cs.dropWhile inside with
  | [] => (body, false, [])
  | c :: rest => (body, c = quote, rest)

/-- What stands behind the system identifier. -/
def afterSystem (d : Doctype) (cs : List Char) : Doctype × List Char :=
  match dropTagSpace cs with
  | [] => ({ d with forceQuirks := true }, [])
  | '>' :: rest => (d, rest)
  | rest => (d, skipDoctype rest)

/-- The system identifier behind its quote. -/
def systemPart (d : Doctype) (quote : Char) (cs : List Char) : Doctype × List Char :=
  match identifier quote cs with
  | (s, true, rest) => afterSystem { d with systemId := some s } rest
  | (s, false, rest) => ({ d with systemId := some s, forceQuirks := true }, rest)

/-- The public identifier behind its quote, and the system identifier that may follow. -/
def publicPart (d : Doctype) (quote : Char) (cs : List Char) : Doctype × List Char :=
  match identifier quote cs with
  | (s, false, rest) => ({ d with publicId := some s, forceQuirks := true }, rest)
  | (s, true, rest) =>
    let d := { d with publicId := some s }
    match dropTagSpace rest with
    | [] => ({ d with forceQuirks := true }, [])
    | '>' :: rest => (d, rest)
    | '"' :: rest => systemPart d '"' rest
    | '\'' :: rest => systemPart d '\'' rest
    | rest => ({ d with forceQuirks := true }, skipDoctype rest)

/-- Whether a text begins with a word, whatever the case of its letters; what stands behind it. -/
def dropWord? (word : List Char) (cs : List Char) : Option (List Char) :=
  if (cs.take word.length).map Char.toLower = word then some (cs.drop word.length) else none

/-- The identifiers behind the name of a document type. -/
def doctypeIdentifiers (d : Doctype) (cs : List Char) : Doctype × List Char :=
  let malformed (cs : List Char) : Doctype × List Char :=
    ({ d with forceQuirks := true }, skipDoctype cs)
  match dropTagSpace cs with
  | [] => ({ d with forceQuirks := true }, [])
  | '>' :: rest => (d, rest)
  | cs =>
    match dropWord? ['p', 'u', 'b', 'l', 'i', 'c'] cs with
    | some rest =>
      match dropTagSpace rest with
      | '"' :: rest => publicPart d '"' rest
      | '\'' :: rest => publicPart d '\'' rest
      | rest => malformed rest
    | none =>
      match dropWord? ['s', 'y', 's', 't', 'e', 'm'] cs with
      | some rest =>
        match dropTagSpace rest with
        | '"' :: rest => systemPart d '"' rest
        | '\'' :: rest => systemPart d '\'' rest
        | rest => malformed rest
      | none => malformed cs

/-- A document type behind its key word. -/
def doctype (cs : List Char) : Doctype × List Char :=
  match dropTagSpace cs with
  | [] => (⟨none, none, none, true⟩, [])
  | '>' :: rest => (⟨none, none, none, true⟩, rest)
  | cs =>
    let inside := fun c => !(isTagSpace c || c = '>')
    let name := String.ofList ((cs.takeWhile inside).map nameChar)
    let d : Doctype := ⟨some name, none, none, false⟩
    doctypeIdentifiers d (cs.dropWhile inside)

end Inlay.Markup.Lexer
