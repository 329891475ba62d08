/-
# `Inlay.Markup.Lexer` — the next token of a text

`next` reads one token in a text mode.  In `data` a run of characters goes up
to the next `<` or `&`; in the other modes it goes up to the end tag of the
element, whose name is `element`, and that tag comes next.  A run keeps the
character U+0000 in `data`, where tree construction decides what becomes of
it, and has the replacement character for it elsewhere.

`foreign` says that the text stands in an element of another vocabulary, where
`<![CDATA[` begins a run of text.

Lines may end in a carriage return, a line feed or both; `normalizeNewlines`
leaves the line feed alone.
-/
import Inlay.Markup.Lexer.Declaration
import Inlay.Markup.Lexer.RawText

namespace Inlay.Markup.Lexer

/-- Every end of line as one line feed. -/
def normalizeNewlines : List Char → List Char
  | [] => []
  | '\r' :: '\n' :: rest => '\n' :: normalizeNewlines rest
  | '\r' :: rest => '\n' :: normalizeNewlines rest
  | c :: rest => c :: normalizeNewlines rest

/-- Split before the first place where a word begins; what stands behind the word. -/
def splitAtWord (word : List Char) : List Char → List Char × List Char
  | [] => ([], [])
  | c :: cs =>
    if word.isPrefixOf (c :: cs) then ([], (c :: cs).drop word.length)
    else
      let (before, behind) := splitAtWord word cs
      (c :: before, behind)

/-- A comment token from what one of the comment readers gives. -/
def commentToken (p : String × List Char) : Token × List Char := (.comment p.1, p.2)

/-- What begins with `<!`. -/
def markup (foreign : Bool) (cs : List Char) : Token × List Char :=
  match cs with
  | '-' :: '-' :: rest => commentToken (comment rest)
  | _ =>
    match dropWord? ['d', 'o', 'c', 't', 'y', 'p', 'e'] cs with
    | some rest =>
      let (d, rest) := doctype rest
      (.doctype d, rest)
    | none =>
      let mark := ['[', 'C', 'D', 'A', 'T', 'A', '[']
      if foreign && mark.isPrefixOf cs then
        let (run, rest) := splitAtWord [']', ']', '>'] (cs.drop mark.length)
        (.text run, rest)
      else commentToken (bogusComment cs)

/-- What begins with `<`. -/
def afterLess (foreign : Bool) (cs : List Char) : Token × List Char :=
  match cs with
  | '!' :: rest => markup foreign rest
  | '?' :: _ => commentToken (bogusComment cs)
  | '/' :: '>' :: rest => (.text [], rest)
  | '/' :: c :: rest =>
    if c.isAlpha then
      match tag? (c :: rest) with
      | some (t, rest) => (.endTag t, rest)
      | none => (.eof, [])
    else commentToken (bogusComment (c :: rest))
  | ['/'] => (.text ['<', '/'], [])
  | c :: rest =>
    if c.isAlpha then
      match tag? (c :: rest) with
      | some (t, rest) => (.startTag t, rest)
      | none => (.eof, [])
    else (.text ['<'], cs)
  | [] => (.text ['<'], [])

/-- Whether a character ends a run of data. -/
def endsRun (c : Char) : Bool := c = '<' || c = '&'

/-- The token at the beginning of a text read as data. -/
def dataToken (foreign : Bool) (cs : List Char) : Token × List Char :=
  match cs with
  | [] => (.eof, [])
  | '<' :: rest => afterLess foreign rest
  | '&' :: rest =>
    let (decoded, rest) := Reference.decode false rest
    (.text decoded, rest)
  | _ => (.text (cs.takeWhile (!endsRun ·)), cs.dropWhile (!endsRun ·))

/-- The token at the beginning of a text in an element that hides markup: the run if there is
one, else the end tag. -/
def hiddenToken (run : List Char × List Char) (cs : List Char) : Token × List Char :=
  if run.1.isEmpty then
    match cs with
    | '<' :: rest => afterLess false rest
    | _ => (.eof, [])
  else (.text run.1, run.2)

/-- The next token and what stands behind it. -/
def next (mode : TextMode) (element : Option String) (foreign : Bool) (cs : List Char) :
    Token × List Char :=
  match mode with
  | .data => dataToken foreign cs
  | .rcdata => hiddenToken (rcdataRun element (cs.length + 1) [] cs) cs
  | .rawtext => hiddenToken (rawtextRun element [] cs) cs
  | .script => hiddenToken (scriptRun element .plain [] cs) cs
  | .plaintext => if cs.isEmpty then (.eof, []) else (.text (cs.map noNull), [])

end Inlay.Markup.Lexer
