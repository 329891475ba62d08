/-
# `Inlay.Markup.Lexer.Tag` — reading tags

A tag is read from its name on.  Names and attribute names are put in lower
case; of two attributes of one name the first counts.  A tag that the text
ends in is no tag at all, which is why every function here may fail.
-/
import Inlay.Text.Blank
import Inlay.Markup.Token
import Inlay.Markup.Reference

namespace Inlay.Markup.Lexer

/-- The white space that separates the parts of a tag. -/
def isTagSpace (c : Char) : Bool := c = '\t' || c = '\n' || c = '\u000c' || c = ' '

def dropTagSpace (cs : List Char) : List Char := cs.dropWhile isTagSpace

/-- A character of a name, in lower case. -/
def nameChar (c : Char) : Char := noNull c.toLower

/-- Whether a character ends the name of a tag. -/
def endsTagName (c : Char) : Bool := isTagSpace c || c = '/' || c = '>'

def endsAttributeName (c : Char) : Bool := endsTagName c || c = '='

/-- The name of a tag, and what stands behind it. -/
def tagName (cs : List Char) : String × List Char :=
  (String.ofList ((cs.takeWhile (!endsTagName ·)).map nameChar), cs.dropWhile (!endsTagName ·))

/-- The name of an attribute; its first character is taken whatever it is. -/
def attributeName (first : Char) (cs : List Char) : String × List Char :=
  (String.ofList (nameChar first :: (cs.takeWhile (!endsAttributeName ·)).map nameChar),
    cs.dropWhile (!endsAttributeName ·))

/-- The characters of a value up to the first that `ends` it, references decoded, and what stands
from there; `n` bounds the characters left. -/
def attributeValue (ends : Char → Bool) : Nat → List Char → List Char → String × List Char
  | 0, cs, acc => (String.ofList acc.reverse, cs)
  | _, [], acc => (String.ofList acc.reverse, [])
  | n + 1, c :: cs, acc =>
    if ends c then (String.ofList acc.reverse, c :: cs)
    else if c = '&' then
      let (decoded, rest) := Reference.decode true cs
      attributeValue ends n rest (decoded.reverse ++ acc)
    else attributeValue ends n cs (noNull c :: acc)

/-- A quoted value behind its opening quote; nothing if the text ends in it. -/
def quotedValue? (quote : Char) (cs : List Char) : Option (String × List Char) :=
  match attributeValue (· = quote) (cs.length + 1) cs [] with
  | (v, _ :: rest) => some (v, rest)
  | (_, []) => none

/-- The value behind an equals sign. -/
def valuePart? (cs : List Char) : Option (String × List Char) :=
  match dropTagSpace cs with
  | '"' :: rest => quotedValue? '"' rest
  | '\'' :: rest => quotedValue? '\'' rest
  | '>' :: rest => some ("", '>' :: rest)
  | cs => some (attributeValue (fun c => isTagSpace c || c = '>') (cs.length + 1) cs [])

/-- Add an attribute unless its name is there already. -/
def addAttribute (attributes : List (String × String)) (name value : String) :
    List (String × String) :=
  if attributes.any (·.1 = name) then attributes else attributes ++ [(name, value)]

/-- The attributes of a tag, whether it closes itself, and what stands behind it; `n` bounds the
steps. -/
def attributes? : Nat → List (String × String) → List Char →
    Option (List (String × String) × Bool × List Char)
  | 0, _, _ => none
  | n + 1, acc, cs =>
    match dropTagSpace cs with
    | [] => none
    | '>' :: rest => some (acc, false, rest)
    | '/' :: '>' :: rest => some (acc, true, rest)
    | '/' :: rest => attributes? n acc rest
    | c :: rest =>
      let (name, rest) := attributeName c rest
      match dropTagSpace rest with
      | '=' :: rest =>
        match valuePart? rest with
        | none => none
        | some (value, rest) => attributes? n (addAttribute acc name value) rest
      | rest => attributes? n (addAttribute acc name "") rest

/-- A tag from the first letter of its name. -/
def tag? (cs : List Char) : Option (Tag × List Char) :=
  let (name, rest) := tagName cs
  (attributes? (rest.length + 1) [] rest).map fun (attributes, closing, rest) =>
    (⟨name, attributes, closing⟩, rest)

end Inlay.Markup.Lexer
