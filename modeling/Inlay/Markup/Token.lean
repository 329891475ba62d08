/-
# `Inlay.Markup.Token` — the tokens of markup

Markup is read as tags, runs of characters, comments and document types.
How characters are read depends on where they stand: `TextMode` names the five
ways, and tree construction chooses among them when it opens an element.

    data        tags, comments and references
    rcdata      references; ends at the end tag of the element
    rawtext     neither; ends at the end tag of the element
    script      as rawtext, but `<!--` hides end tags of nested scripts
    plaintext   neither; never ends
-/

namespace Inlay.Markup

/-- A tag: its name in lower case, its attributes without repetition, and whether it ends in a
slash. -/
structure Tag where
  name : String
  attributes : List (String × String)
  selfClosing : Bool
  deriving Repr, DecidableEq

/-- A document type declaration. -/
structure Doctype where
  name : Option String
  publicId : Option String
  systemId : Option String
  /-- The declaration is malformed in a way that asks for the oldest layout rules. -/
  forceQuirks : Bool
  deriving Repr, DecidableEq

inductive Token
  | startTag (tag : Tag)
  | endTag (tag : Tag)
  | text (run : List Char)
  | comment (s : String)
  | doctype (d : Doctype)
  | eof
  deriving Repr, DecidableEq

inductive TextMode
  | data
  | rcdata
  | rawtext
  | script
  | plaintext
  deriving Repr, DecidableEq

/-- U+0000 is read as the replacement character wherever it is not dropped. -/
def noNull (c : Char) : Char := if c = '\x00' then '\ufffd' else c

end Inlay.Markup
