/-
# `Inlay.Markup.Parse` — markup as trees

`parseDocument` reads a whole page; elements that every page has are supplied
where they are not written.  `parseFragment` reads the content of an element:
the rules are those that hold inside it, and what was read stands in one
`html` element at the top.

The lexer and tree construction run in step, since an element may change how
the text behind its tag is read.
-/
import Inlay.Markup.Lexer
import Inlay.Markup.Layout
import Inlay.Markup.Construction.Foreign

namespace Inlay.Markup

/-- The three sorts of characters that the rules tell apart. -/
inductive CharSort
  | space | null | other
  deriving DecidableEq

def CharSort.of (c : Char) : CharSort :=
  if Text.isSpace c then .space else if c = '\x00' then .null else .other

/-- A run of characters as events. -/
def textEvents (run : List Char) : List Event :=
  (run.splitBy fun a b => CharSort.of a = CharSort.of b).filterMap fun group =>
    match group with
    | [] => none
    | c :: _ =>
      match CharSort.of c with
      | .space => some (.space (String.ofList group))
      | .null => some .null
      | .other => some (.word (String.ofList group))

namespace Site

def fresh (context : Option Nat) (draft : Draft) : Site :=
  { draft := draft, mode := .initial, textMode := .data, returnMode := .inBody, templateModes := []
    pending := [], stack := [], formatting := [], head := none, form := none
    framesAllowed := true, fostering := false, dropNewline := false, quirks := false
    context := context, scriptEnded := false }

/-- Handle one event; the stack bounds how often the rules can ask for it again. -/
def handle (s : Site) (e : Event) : Site := react (2 * s.stack.length + 40) s e

/-- Handle one token. -/
def feed (s : Site) (t : Token) : Site :=
  let dropping := s.dropNewline
  let s := { s with dropNewline := false }
  match t with
  | .doctype d =>
    if s.mode = .initial then
      let (draft, n) := s.draft.add (.doctype (d.name.getD ""))
      { s with
        draft := draft.append Draft.document n
        quirks := d.isQuirky
        mode := .beforeHtml }
    else s
  | .startTag tag => { s with textMode := .data }.handle (.startTag tag)
  | .endTag tag => { s with textMode := .data }.handle (.endTag tag)
  | .comment text => s.handle (.comment text)
  | .eof => s.handle .eof
  | .text run =>
    let run := match run with
      | '\n' :: rest => if dropping then rest else run
      | _ => run
    (textEvents run).foldl handle s

/-- Read a text to its end; `n` bounds the tokens, and `element` names the last start tag. -/
def drive : Nat → Option String → Site → List Char → Site
  | 0, _, s, _ => s.feed .eof
  | n + 1, element, s, cs =>
    let (t, rest) := Lexer.next s.textMode element s.inForeign cs
    match t with
    | .eof => s.feed .eof
    | t =>
      let element := match t with
        | .startTag tag => some tag.name
        | _ => element
      let s := s.feed t
      if s.scriptEnded then
        drive n element { s with scriptEnded := false } (dropMark rest)
      else drive n element s rest
where
  /-- A byte order mark at the beginning of a text is no part of it. -/
  dropMark : List Char → List Char
    | '\ufeff' :: rest => rest
    | cs => cs

def run (s : Site) (text : String) : List Tree :=
  let cs := drive.dropMark (Lexer.normalizeNewlines text.toList)
  (s.drive (cs.length + 1) none cs).draft.trees

end Site

/-- The trees of a whole page: its document type, comments and root element. -/
def parseDocument (text : String) : List Tree := (Site.fresh none Draft.empty).run text

/-- How text directly in an element is read. -/
def contextTextMode (context : String) : TextMode :=
  match context with
  | "title" | "textarea" => .rcdata
  | "style" | "xmp" | "iframe" | "noembed" | "noframes" | "noscript" => .rawtext
  | "script" => .script
  | "plaintext" => .plaintext
  | _ => .data

/-- The trees of the content of an element; they stand in one `html` element. -/
def parseFragment (context : String) (text : String) : List Tree :=
  let (draft, n) := Draft.empty.addElement ⟨.html, context⟩ []
  let s := Site.fresh (some n) draft
  let s := { s with templateModes := if context = "template" then [.inTemplate] else [] }
  let s := s.createRoot []
  { s with mode := s.fittingMode, textMode := contextTextMode context }.run text

/-- Whether a text is to be read as a whole page: it begins, behind blanks, with a document type
or with one of the elements that only a page has. -/
def isPage (text : String) : Bool :=
  let cs := text.toList.dropWhile Text.isBlank
  ["<!doctype", "<html", "<head", "<body"].any fun start =>
    let mark := start.toList
    (cs.take mark.length).map Char.toLower = mark &&
      !((cs.drop mark.length).head?.map fun c => c.isAlphanum || c = '-').getD false

end Inlay.Markup
