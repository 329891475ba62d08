/-
# `Inlay.Template.Grammar` — the grammar of templates

A template is text with tags in double braces:

    {{ expr }}                  a value or a helper call, escaped
    {{{ expr }}}  {{& expr }}   the same, not escaped
    {{# call }} … {{/ name }}   a block, with {{else}} or {{^}} and {{else call}}
    {{{{ call }}}} … {{{{/ name }}}}   a block whose body is plain text
    {{* call }}  {{#* call }} … {{/ name }}   a decorator, alone or with a body
    {{> name }}  {{#> name }} … {{/ name }}   a partial, alone or with a body
    {{! … }}  {{!-- … --}}      a comment

A tag may trim the white space on its outer sides by a tilde within its braces.
A call is a word followed by arguments and `key=argument` options, and in a
block by `as |a b|`.  An argument is a literal of the data notation, a path or
a call in parentheses.  A path is a row of keys with a slash or a point between
them, behind `this.`, `@root.`, `@` or `../`.

A backslash before the braces of a tag makes them text.
-/
import Inlay.Grammar.Pattern

namespace Inlay.Template

open Grammar (Pattern Rule)

/-- The rules of the grammar. -/
inductive Phrase
  | body | endOfText
  | text | verbatim | escape
  | value | unescaped
  | comment | longComment
  | blockOpen | blockClose | otherwise | otherwiseCall | otherwiseMark
  | verbatimOpen | verbatimClose
  | decorator | decoratorOpen | decoratorClose
  | inclusion | inclusionOpen | inclusionClose
  | trimBefore | trimAfter
  | word | closingWord | partialName | call
  | argument | option | names | keyword
  | literal | string | array | object | number | null | truth
  | doubleQuoted | singleQuoted
  | path | pathRoot | pathScope | pathUp | pathKey | pathRawKey
  deriving Repr, DecidableEq

namespace Phrase

open Inlay.Grammar.Pattern

/-- A character of words and path keys. -/
def isWordChar (c : Char) : Bool :=
  c.isAlphanum || c = '_' || c = '-' || c = '$' || '\u0080' ≤ c

/-- A character of the names of partials. -/
def isPartialChar (c : Char) : Bool :=
  c.isAlphanum || c = '_' || c = '-' || c = '/' || c = '.' || c = '@' || '\u0080' ≤ c

def digit : Pattern Phrase := .one Char.isDigit

def wordChar : Pattern Phrase := .one isWordChar

/-- Where no character of a word follows. -/
def wordEnd : Pattern Phrase := .never wordChar

/-- The text up to `stop`. -/
def upTo (stop : String) : Pattern Phrase := except (lit stop)

/-- A character of a quoted literal: escapes begin with a backslash. -/
def quotedCharBut (quote : String) : Pattern Phrase :=
  let hex : Pattern Phrase := .one fun c => c.isDigit || ('a' ≤ c && c ≤ 'f') || ('A' ≤ c && c ≤ 'F')
  any [except (any [lit quote, lit "\\"]),
    all [lit "\\", any ([quote, "\\", "/", "b", "f", "n", "r", "t"].map lit)],
    all [lit "\\", lit "u", hex, hex, hex, hex]]

/-- Arguments and options. -/
def inputs : Pattern Phrase := .alt (.rule .option) (.rule .argument)

/-- A word with at least one argument or option; or a path or a call in parentheses. -/
def expression : Pattern Phrase :=
  any [all [.rule .word, many1 inputs], .rule .call, .rule .path]

/-- The call that opens a block. -/
def blockCall : Pattern Phrase := all [.rule .word, .many inputs, .maybe (.rule .names)]

/-- A partial and its inputs. -/
def inclusionCall : Pattern Phrase :=
  all [any [.rule .partialName, .rule .call, .rule .path], .many inputs]

/-- A tag: its opening braces, what stands in it, its closing braces. -/
def tag (opening : String) (content : List (Pattern Phrase)) (closing : String) : Pattern Phrase :=
  all ([lit opening, .maybe (.rule .trimBefore)] ++ content ++
    [.maybe (.rule .trimAfter), lit closing])

/-- A block: the tag that opens it, its parts, the tag that closes it. -/
def block : Pattern Phrase :=
  all [.rule .blockOpen, .rule .body, .many (all [.rule .otherwiseCall, .rule .body]),
    .maybe (all [.rule .otherwise, .rule .body]), .rule .blockClose]

def verbatimBlock : Pattern Phrase :=
  all [.rule .verbatimOpen, .rule .verbatim, .rule .verbatimClose]

def decoratorBlock : Pattern Phrase :=
  all [.rule .decoratorOpen, .rule .body, .rule .decoratorClose]

def inclusionBlock : Pattern Phrase :=
  all [.rule .inclusionOpen, .rule .body, .rule .inclusionClose]

/-- What separates the keys of a path. -/
def separator : Pattern Phrase := any [lit "/", lit "."]

/-- A key of a path; in brackets any text. -/
def key : Pattern Phrase :=
  any [.rule .pathKey, all [lit "[", .rule .pathRawKey, lit "]"]]

def pathPattern : Pattern Phrase :=
  all [.maybe (any [all [lit "this", separator], lit "./"]),
    .maybe (all [.rule .pathRoot, separator]),
    .maybe (.rule .pathScope),
    .many (all [.rule .pathUp, separator]),
    key,
    .many (all [separator, key])]

/-- What a rule of the grammar takes. -/
def rule : Phrase → Rule Phrase
  | .body => ⟨.open_, .many (any [.rule .text, .rule .value, .rule .unescaped, block,
      verbatimBlock, .rule .longComment, .rule .comment, .rule .decorator, decoratorBlock,
      .rule .inclusion, inclusionBlock])⟩
  | .endOfText => ⟨.open_, .done⟩
  | .text => ⟨.tight, many1 (.alt (.rule .escape) (upTo "\x7b\x7b"))⟩
  | .verbatim => ⟨.tight, .many (.alt (.rule .escape) (upTo "\x7b\x7b\x7b\x7b"))⟩
  | .escape => ⟨.sealed, any [all [lit "\\", lit "\x7b\x7b", .maybe (lit "\x7b\x7b")],
      all [lit "\\", many1 (lit "\\"), .ahead (lit "\x7b\x7b")]]⟩
  | .value => ⟨.open_, .seq (.never (.alt (.rule .otherwise) (.rule .otherwiseCall)))
      (tag "\x7b\x7b" [expression] "\x7d\x7d")⟩
  | .unescaped => ⟨.open_, any [tag "\x7b\x7b\x7b" [expression] "\x7d\x7d\x7d",
      tag "\x7b\x7b" [lit "\x7b", expression, lit "\x7d"] "\x7d\x7d",
      tag "\x7b\x7b" [lit "&", expression] "\x7d\x7d"]⟩
  | .comment => ⟨.open_, all [lit "\x7b\x7b!", .many (upTo "\x7d\x7d"), lit "\x7d\x7d"]⟩
  | .longComment => ⟨.open_, all [lit "\x7b\x7b!", lit "--", .many (upTo "--\x7d\x7d"), lit "--",
      lit "\x7d\x7d"]⟩
  | .blockOpen => ⟨.open_, tag "\x7b\x7b" [lit "#", blockCall] "\x7d\x7d"⟩
  | .blockClose => ⟨.open_, tag "\x7b\x7b" [lit "/", .rule .closingWord] "\x7d\x7d"⟩
  | .otherwiseMark => ⟨.open_, any [lit "else", lit "^"]⟩
  | .otherwise => ⟨.open_, .seq (.never (.rule .escape))
      (tag "\x7b\x7b" [.rule .otherwiseMark] "\x7d\x7d")⟩
  | .otherwiseCall => ⟨.open_, .seq (.never (.rule .escape))
      (tag "\x7b\x7b" [.rule .otherwiseMark, blockCall] "\x7d\x7d")⟩
  | .verbatimOpen => ⟨.open_, tag "\x7b\x7b\x7b\x7b" [blockCall] "\x7d\x7d\x7d\x7d"⟩
  | .verbatimClose => ⟨.open_,
      tag "\x7b\x7b\x7b\x7b" [lit "/", .rule .word] "\x7d\x7d\x7d\x7d"⟩
  | .decorator => ⟨.open_, tag "\x7b\x7b" [lit "*", blockCall] "\x7d\x7d"⟩
  | .decoratorOpen => ⟨.open_, tag "\x7b\x7b" [lit "#", lit "*", blockCall] "\x7d\x7d"⟩
  | .decoratorClose => ⟨.open_, tag "\x7b\x7b" [lit "/", .rule .word] "\x7d\x7d"⟩
  | .inclusion => ⟨.open_, tag "\x7b\x7b" [lit ">", inclusionCall] "\x7d\x7d"⟩
  | .inclusionOpen => ⟨.open_, tag "\x7b\x7b" [lit "#", lit ">", inclusionCall] "\x7d\x7d"⟩
  | .inclusionClose => ⟨.open_, tag "\x7b\x7b" [lit "/", .rule .partialName] "\x7d\x7d"⟩
  | .trimBefore => ⟨.open_, lit "~"⟩
  | .trimAfter => ⟨.open_, lit "~"⟩
  | .word => ⟨.sealed, many1 wordChar⟩
  | .closingWord => ⟨.sealed, .many wordChar⟩
  | .partialName => ⟨.sealed, any [many1 (.one isPartialChar),
      all [lit "[", many1 anyChar, lit "]"],
      all [lit "'", many1 (.seq (.never (lit "'")) (.alt (lit "\\'") anyChar)), lit "'"]]⟩
  | .call => ⟨.open_, all [lit "(",
      any [all [.rule .word, many1 inputs], .rule .path], lit ")"]⟩
  | .argument => ⟨.open_, .seq (.never (.seq (.rule .keyword) wordEnd))
      (any [.rule .literal, .rule .path, .rule .call])⟩
  | .option => ⟨.open_, all [.rule .word, lit "=", .rule .argument]⟩
  | .names => ⟨.open_, all [lit "as", lit "|", .rule .word, .maybe (.rule .word), lit "|"]⟩
  | .keyword => ⟨.open_, any [lit "as", lit "else"]⟩
  | .literal => ⟨.open_, any [.rule .string, .rule .array, .rule .object, .rule .number,
      .rule .null, .rule .truth]⟩
  | .string => ⟨.tight, any [all [lit "\"", .rule .doubleQuoted, lit "\""],
      all [lit "'", .rule .singleQuoted, lit "'"]]⟩
  | .doubleQuoted => ⟨.sealed, .many (quotedCharBut "\"")⟩
  | .singleQuoted => ⟨.sealed, .many (quotedCharBut "'")⟩
  | .array => ⟨.open_, all [lit "[", .maybe (.rule .literal),
      .many (all [lit ",", .rule .literal]), lit "]"]⟩
  | .object =>
    let field : Pattern Phrase := all [.rule .string, lit ":", .rule .literal]
    ⟨.open_, all [lit "\x7b", .maybe field, .many (all [lit ",", field]), lit "\x7d"]⟩
  | .number => ⟨.sealed, all [.maybe (lit "-"), many1 digit, .maybe (lit "."), .many digit,
      .maybe (all [lit "E", .maybe (lit "-"), many1 digit]), wordEnd]⟩
  | .null => ⟨.sealed, all [lit "null", wordEnd]⟩
  | .truth => ⟨.sealed, all [any [lit "true", lit "false"], wordEnd]⟩
  | .path => ⟨.tight, pathPattern⟩
  | .pathRoot => ⟨.open_, lit "@root"⟩
  | .pathScope => ⟨.open_, lit "@"⟩
  | .pathUp => ⟨.open_, lit ".."⟩
  | .pathKey => ⟨.sealed, many1 wordChar⟩
  | .pathRawKey => ⟨.open_, .many (upTo "]")⟩

end Phrase

/-- The parts of a template, in order; or the place where it is refused. -/
def parts (text : List Char) : Except Nat (List (Grammar.Derivation Phrase)) :=
  Grammar.parse Phrase.rule (.seq (.rule .body) (.rule .endOfText)) text

end Inlay.Template
