/-
# `Inlay.Data.Reader` — reading data values

`Value.read` accepts the JSON texts and says for any other text what is wrong
and where.  The place is a line and a column; columns count bytes, and a fault
is placed either behind what was taken (`here`) or behind the next byte
(`ahead`), which the reader has seen and refused.

Numbers keep their kind: an integer that fits 64 bits stays one, `-0` and all
others become doubles.  A double is built from at most the first nineteen or
twenty digits that fit 64 bits and one multiplication or division by a power of
ten, so a long decimal may differ from the nearest double in its last bit.

Lists and records may be nested 127 deep.
-/
import Inlay.Text.Blank
import Inlay.Data.Value

namespace Inlay.Data

/-- What is wrong with the text of a value. -/
inductive Fault
  | endInList | endInObject | endInString | endInValue
  | colonExpected | listSeparatorExpected | objectSeparatorExpected
  | identifierExpected | valueExpected
  | badEscape | badNumber | numberOutOfRange
  | controlCharacter | keyNotString | loneSurrogate | unfinishedSurrogatePair
  | trailingComma | trailingCharacters | tooDeep
  deriving Repr, DecidableEq

def Fault.message : Fault → String
  | .endInList => "EOF while parsing a list"
  | .endInObject => "EOF while parsing an object"
  | .endInString => "EOF while parsing a string"
  | .endInValue => "EOF while parsing a value"
  | .colonExpected => "expected `:`"
  | .listSeparatorExpected => "expected `,` or `]`"
  | .objectSeparatorExpected => "expected `,` or `\x7d`"
  | .identifierExpected => "expected ident"
  | .valueExpected => "expected value"
  | .badEscape => "invalid escape"
  | .badNumber => "invalid number"
  | .numberOutOfRange => "number out of range"
  | .controlCharacter => "control character (\\u0000-\\u001F) found while parsing a string"
  | .keyNotString => "key must be a string"
  | .loneSurrogate => "lone leading surrogate in hex escape"
  | .unfinishedSurrogatePair => "unexpected end of hex escape"
  | .trailingComma => "trailing comma"
  | .trailingCharacters => "trailing characters"
  | .tooDeep => "recursion limit exceeded"

/-- A fault and its place. -/
structure ReadError where
  fault : Fault
  line : Nat
  column : Nat
  deriving Repr, DecidableEq

def ReadError.message (e : ReadError) : String :=
  e.fault.message ++ " at line " ++ toString e.line ++ " column " ++ toString e.column

/-- A place in a text: what is left, and how many lines and bytes were taken. -/
structure Cursor where
  rest : List Char
  line : Nat
  column : Nat

namespace Cursor

def ofString (s : String) : Cursor := ⟨s.toList, 1, 0⟩

/-- Take the next character. -/
def next (c : Cursor) : Cursor :=
  match c.rest with
  | [] => c
  | '\n' :: rest => ⟨rest, c.line + 1, 0⟩
  | x :: rest => ⟨rest, c.line, c.column + x.utf8Size⟩

/-- Take `n` characters. -/
def skip (c : Cursor) : Nat → Cursor
  | 0 => c
  | n + 1 => c.next.skip n

/-- A fault behind what was taken. -/
def here {α : Type} (c : Cursor) (f : Fault) : Except ReadError α := .error ⟨f, c.line, c.column⟩

/-- A fault behind the next byte. -/
def ahead {α : Type} (c : Cursor) (f : Fault) : Except ReadError α :=
  match c.rest with
  | [] => c.here f
  | '\n' :: _ => .error ⟨f, c.line + 1, 0⟩
  | _ :: _ => .error ⟨f, c.line, c.column + 1⟩

/-- Skip the blanks between the parts of a value: `n` bounds the characters left. -/
def skipSpaceUpTo (c : Cursor) : Nat → Cursor
  | 0 => c
  | n + 1 =>
    match c.rest with
    | ' ' :: _ | '\n' :: _ | '\t' :: _ | '\r' :: _ => c.next.skipSpaceUpTo n
    | _ => c

def skipSpace (c : Cursor) : Cursor := c.skipSpaceUpTo c.rest.length

/-- Take a run of digits. -/
def skipDigits (c : Cursor) : Cursor := c.skip (c.rest.takeWhile Char.isDigit).length

end Cursor

namespace Reader

/-- The greatest integer of 64 bits. -/
def maxWord : Nat := Nat.pow 2 64 - 1

def digitValue (c : Char) : Nat := c.toNat - 48

/-- Scale a significand by a power of ten, in steps of at most 308. -/
def scale (c : Cursor) (negative : Bool) (significand : Nat) (exponent : Int) : Except ReadError (Number × Cursor) :=
  let signed (x : Float) : Number := .double (if negative then -x else x)
  let rec go : Nat → Float → Int → Except ReadError (Number × Cursor)
    | 0, x, _ => .ok (signed x, c)
    | n + 1, x, e =>
      if e.natAbs ≤ 308 then
        let p := Float.ofScientific 1 false e.natAbs
        if 0 ≤ e then
          let y := x * p
          if y.isInf then c.here .numberOutOfRange else .ok (signed y, c)
        else .ok (signed (x / p), c)
      else if x == 0 then .ok (signed x, c)
      else if 0 ≤ e then c.here .numberOutOfRange
      else go n (x / 1e308) (e + 308)
  go 16 significand.toUInt64.toFloat exponent

/-- The digits of an exponent, clamped far beyond the range of a double. -/
def exponentValue (cs : List Char) : Nat :=
  cs.foldl (fun acc d => min (acc * 10 + digitValue d) (Nat.pow 2 31)) 0

/-- The part of a number from its exponent mark. -/
def exponentPart (c : Cursor) (negative : Bool) (significand : Nat) (start : Int) : Except ReadError (Number × Cursor) :=
  let c := c.next
  let (down, c) := match c.rest with
    | '+' :: _ => (false, c.next)
    | '-' :: _ => (true, c.next)
    | _ => (false, c)
  match c.rest with
  | [] => c.here .endInValue
  | d :: _ =>
    if !d.isDigit then c.next.here .badNumber
    else
      let digits := c.rest.takeWhile Char.isDigit
      let e := exponentValue digits
      if e ≥ Nat.pow 2 31 then
        if significand ≠ 0 && !down then
          -- the fault stands behind the digit that made the exponent too large
          (c.skip (overlong digits)).here .numberOutOfRange
        else .ok (.double (if negative then -0.0 else 0.0), c.skipDigits)
      else scale c.skipDigits negative significand (if down then start - e else start + e)
where
  /-- How many digits are taken before the exponent exceeds 31 bits. -/
  overlong (digits : List Char) : Nat :=
    ((List.range digits.length).find? fun k => exponentValue (digits.take (k + 1)) ≥ Nat.pow 2 31).elim
      digits.length (· + 1)

/-- Add digits to a significand while it fits 64 bits; also how many were added. -/
def addDigits (significand : Nat) : List Char → Nat × Nat
  | [] => (significand, 0)
  | d :: rest =>
    let grown := significand * 10 + digitValue d
    if grown ≤ maxWord then
      let (s, n) := addDigits grown rest
      (s, n + 1)
    else (significand, 0)

/-- The part of a number behind its digits: an exponent or nothing. -/
def afterDigits (c : Cursor) (negative : Bool) (significand : Nat) (exponent : Int) : Except ReadError (Number × Cursor) :=
  match c.rest with
  | 'e' :: _ | 'E' :: _ => exponentPart c negative significand exponent
  | _ => scale c negative significand exponent

/-- The part of a number from its point. -/
def fractionPart (c : Cursor) (negative : Bool) (significand : Nat) (exponent : Int) : Except ReadError (Number × Cursor) :=
  let c := c.next
  match c.rest.takeWhile Char.isDigit with
  | [] => if c.rest.isEmpty then c.ahead .endInValue else c.ahead .badNumber
  | digits =>
    let (s, n) := addDigits significand digits
    afterDigits c.skipDigits negative s (exponent - n)

/-- A number from its first digit. -/
def unsignedPart (c : Cursor) (negative : Bool) : Except ReadError (Number × Cursor) :=
  match c.rest with
  | [] => c.here .endInValue
  | '0' :: _ =>
    let c := c.next
    if (c.rest.head?.map Char.isDigit).getD false then c.ahead .badNumber
    else finish c 0
  | d :: _ =>
    if !d.isDigit then c.next.here .badNumber
    else
      let digits := c.rest.takeWhile Char.isDigit
      let (s, n) := addDigits 0 digits
      let c := c.skipDigits
      if n = digits.length then finish c s
      else
        let dropped : Int := (digits.length - n : Nat)
        match c.rest with
        | '.' :: _ => fractionPart c negative s dropped
        | _ => afterDigits c negative s dropped
where
  finish (c : Cursor) (s : Nat) : Except ReadError (Number × Cursor) :=
    match c.rest with
    | '.' :: _ => fractionPart c negative s 0
    | 'e' :: _ | 'E' :: _ => exponentPart c negative s 0
    | _ =>
      if !negative then .ok (.int s, c)
      else if s = 0 || s > Nat.pow 2 63 then .ok (.double (-(s.toUInt64.toFloat)), c)
      else .ok (.int (-(s : Int)), c)

def number (c : Cursor) : Except ReadError (Number × Cursor) :=
  match c.rest with
  | '-' :: _ => unsignedPart c.next true
  | _ => unsignedPart c false

/-- The letters of a name whose first letter was seen. -/
def letters (c : Cursor) : List Char → Except ReadError Cursor
  | [] => .ok c
  | x :: rest =>
    match c.rest with
    | [] => c.here .endInValue
    | y :: _ => if x = y then letters c.next rest else c.next.here .identifierExpected

def hexValue? (c : Char) : Option Nat :=
  if c.isDigit then some (c.toNat - 48)
  else if 'a' ≤ c ∧ c ≤ 'f' then some (c.toNat - 87)
  else if 'A' ≤ c ∧ c ≤ 'F' then some (c.toNat - 55)
  else none

/-- Four hexadecimal digits. -/
def hexUnit (c : Cursor) : Except ReadError (Nat × Cursor) :=
  match c.rest with
  | a :: b :: x :: y :: _ =>
    let behind := c.skip 4
    match hexValue? a, hexValue? b, hexValue? x, hexValue? y with
    | some a, some b, some x, some y => .ok (((a * 16 + b) * 16 + x) * 16 + y, behind)
    | _, _, _, _ => behind.here .badEscape
  | _ => (c.skip c.rest.length).here .endInString

/-- A character given by one or two hexadecimal units, behind the `u`. -/
def unicodeEscape (c : Cursor) : Except ReadError (Char × Cursor) := do
  let (n, c) ← hexUnit c
  if 0xDC00 ≤ n ∧ n ≤ 0xDFFF then c.here .loneSurrogate
  else if n < 0xD800 ∨ 0xDBFF < n then .ok (Char.ofNat n, c)
  else
    match c.rest with
    | [] => c.here .endInString
    | '\\' :: _ =>
      let c := c.next
      match c.rest with
      | [] => c.here .endInString
      | 'u' :: _ =>
        let (m, c) ← hexUnit c.next
        if m < 0xDC00 ∨ 0xDFFF < m then c.here .loneSurrogate
        else .ok (Char.ofNat (0x10000 + (n - 0xD800) * 0x400 + (m - 0xDC00)), c)
      | _ => c.next.here .unfinishedSurrogatePair
    | _ => c.next.here .unfinishedSurrogatePair

/-- An escape behind its backslash. -/
def escape (c : Cursor) : Except ReadError (Char × Cursor) :=
  match c.rest with
  | [] => c.here .endInString
  | 'u' :: _ => unicodeEscape c.next
  | x :: _ =>
    match [('"', '"'), ('\\', '\\'), ('/', '/'), ('b', '\u0008'), ('f', '\u000c'),
        ('n', '\n'), ('r', '\r'), ('t', '\t')].find? (·.1 = x) with
    | some (_, y) => .ok (y, c.next)
    | none => c.next.here .badEscape

/-- The characters of a text up to its closing quote; `n` bounds the characters left. -/
def stringBody (c : Cursor) (acc : List Char) : Nat → Except ReadError (String × Cursor)
  | 0 => c.here .endInString
  | n + 1 =>
    match c.rest with
    | [] => c.here .endInString
    | '"' :: _ => .ok (String.ofList acc.reverse, c.next)
    | '\\' :: _ => do
      let (x, c) ← escape c.next
      stringBody c (x :: acc) n
    | x :: _ => if x.toNat < 32 then c.next.here .controlCharacter else stringBody c.next (x :: acc) n

/-- A text behind its opening quote. -/
def string (c : Cursor) : Except ReadError (String × Cursor) := stringBody c [] (c.rest.length + 1)

mutual

/-- A value; `depth` counts the nestings that are left and `fuel` bounds the steps. -/
def value (depth : Nat) (c : Cursor) (fuel : Nat) : Except ReadError (Value × Cursor) :=
  match fuel with
  | 0 => c.here .tooDeep
  | n + 1 =>
    let c := c.skipSpace
    match c.rest with
    | [] => c.ahead .endInValue
    | 'n' :: _ => return (.null, ← letters c.next ['u', 'l', 'l'])
    | 't' :: _ => return (.bool true, ← letters c.next ['r', 'u', 'e'])
    | 'f' :: _ => return (.bool false, ← letters c.next ['a', 'l', 's', 'e'])
    | '"' :: _ => do
      let (s, c) ← string c.next
      .ok (.string s, c)
    | '[' :: _ => if depth ≤ 1 then c.ahead .tooDeep else items (depth - 1) c.next true [] n
    | '\x7b' :: _ => if depth ≤ 1 then c.ahead .tooDeep else fields (depth - 1) c.next true [] n
    | x :: _ =>
      if x = '-' || x.isDigit then do
        let (k, c) ← number c
        .ok (.number k, c)
      else c.ahead .valueExpected
termination_by structural fuel

/-- The items of a list behind its bracket or behind an item. -/
def items (depth : Nat) (c : Cursor) (first : Bool) (acc : List Value) (fuel : Nat) :
    Except ReadError (Value × Cursor) :=
  match fuel with
  | 0 => c.here .tooDeep
  | n + 1 =>
    let c := c.skipSpace
    match c.rest, first with
    | [], _ => c.ahead .endInList
    | ']' :: _, _ => .ok (.array acc.reverse, c.next)
    | ',' :: _, false =>
      let c := c.next.skipSpace
      match c.rest with
      | [] => c.ahead .endInValue
      | ']' :: _ => c.ahead .trailingComma
      | _ => do
        let (v, c) ← value depth c n
        items depth c false (v :: acc) n
    | _, true => do
      let (v, c) ← value depth c n
      items depth c false (v :: acc) n
    | _, false => c.ahead .listSeparatorExpected
termination_by structural fuel

/-- The fields of a record behind its brace or behind a field. -/
def fields (depth : Nat) (c : Cursor) (first : Bool) (acc : List (String × Value)) (fuel : Nat) :
    Except ReadError (Value × Cursor) :=
  match fuel with
  | 0 => c.here .tooDeep
  | n + 1 =>
    let c := c.skipSpace
    match c.rest, first with
    | [], _ => c.ahead .endInObject
    | '\x7d' :: _, _ => .ok (Value.ofFields acc.reverse, c.next)
    | ',' :: _, false =>
      let c := c.next.skipSpace
      match c.rest with
      | [] => c.ahead .endInValue
      | '"' :: _ => field depth c acc n
      | '\x7d' :: _ => c.ahead .trailingComma
      | _ => c.ahead .keyNotString
    | '"' :: _, true => field depth c acc n
    | _, true => c.ahead .keyNotString
    | _, false => c.ahead .objectSeparatorExpected
termination_by structural fuel

/-- A field from the quote of its key, and the fields behind it. -/
def field (depth : Nat) (c : Cursor) (acc : List (String × Value)) (fuel : Nat) :
    Except ReadError (Value × Cursor) :=
  match fuel with
  | 0 => c.here .tooDeep
  | n + 1 => do
    let (key, c) ← string c.next
    let c := c.skipSpace
    match c.rest with
    | [] => c.ahead .endInObject
    | ':' :: _ => do
      let (v, c) ← value depth c.next n
      fields depth c false ((key, v) :: acc) n
    | _ => c.ahead .colonExpected
termination_by structural fuel

end

end Reader

/-- Read a text that holds one value and blanks. -/
def Value.read (text : String) : Except ReadError Value := do
  let c := Cursor.ofString text
  let (v, c) ← Reader.value 128 c (3 * c.rest.length + 3)
  let c := c.skipSpace
  if c.rest.isEmpty then .ok v else c.ahead .trailingCharacters

end Inlay.Data
