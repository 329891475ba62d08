/-
# `Inlay.Data.Printer` — the written form of data

Compact writing of values: no blanks, fields in the order of their keys, and
numbers as follows.

    integers     decimal digits, `-` before negative ones
    doubles      the shortest digits that read back;
                 positional from 1e-5 up to and including sixteen places
                 before the point, with `.0` when integral;
                 otherwise one digit, the rest after a point, and `e+16`, `e-6`

A text is quoted; quotes, backslashes and the control characters below U+0020
are escaped, every other character stands for itself.
-/
import Inlay.Data.Value

namespace Inlay.Data

/-- How doubles are laid out around the decimal point. -/
structure NumberFormat where
  /-- The most places before the point in positional writing. -/
  placesBefore : Int
  /-- The most zeros between the point and the first digit in positional writing. -/
  zerosAfter : Int
  /-- What an integral double ends with. -/
  integralEnd : String
  /-- What stands between the digits and a positive exponent. -/
  exponentMark : String

/-- Sixteen places before the point, four zeros after it, `.0` and `e+`. -/
def doubleFormat : NumberFormat := ⟨16, 4, ".0", "e+"⟩

namespace Number

/-- A list of `n` zeros. -/
def zeros (n : Nat) : String := String.ofList (List.replicate n '0')

/-- A positive decimal written out in a format. -/
def writeDecimal (f : NumberFormat) (d : Decimal.Numeral) : String :=
  let digits := (Nat.toDigits 10 d.digits)
  let count : Int := digits.length
  -- where the point stands, counted from the first digit
  let point := count + d.exponent
  if count ≤ point ∧ point ≤ f.placesBefore then
    String.ofList digits ++ zeros (point - count).toNat ++ f.integralEnd
  else if 0 < point ∧ point ≤ f.placesBefore then
    String.ofList (digits.take point.toNat) ++ "." ++ String.ofList (digits.drop point.toNat)
  else if point ≤ 0 ∧ -point ≤ f.zerosAfter then
    "0." ++ zeros (-point).toNat ++ String.ofList digits
  else
    let e := point - 1
    let mantissa := String.ofList (digits.take 1) ++
      (if digits.length = 1 then "" else "." ++ String.ofList (digits.drop 1))
    mantissa ++ (if 0 ≤ e then f.exponentMark ++ toString e.toNat else "e-" ++ toString (-e).toNat)

/-- A decimal without trailing zeros in its digits. -/
def stripZeros (d : Decimal.Numeral) : Decimal.Numeral := go 18 d
where
  go : Nat → Decimal.Numeral → Decimal.Numeral
    | 0, d => d
    | n + 1, d => if d.digits ≠ 0 ∧ d.digits % 10 = 0 then go n ⟨d.digits / 10, d.exponent + 1⟩ else d

/-- The text of a double; the values that are no numbers are written as null. -/
def writeDouble (x : Float) : String :=
  match Decimal.Shape.ofBits x.toBits with
  | .notANumber | .infinite _ => "null"
  | .finite negative b =>
    let body := if b.m = 0 then "0" ++ doubleFormat.integralEnd
      else writeDecimal doubleFormat (stripZeros b.shortest)
    if negative then "-" ++ body else body

/-- The text of an integer. -/
def writeInt (i : Int) : String :=
  if 0 ≤ i then toString i.toNat else "-" ++ toString (-i).toNat

def write : Number → String
  | .int i => writeInt i
  | .double x => writeDouble x

end Number

namespace Quoted

/-- A hexadecimal digit in lower case. -/
def hexDigit (n : Nat) : Char :=
  if n < 10 then Char.ofNat (48 + n) else Char.ofNat (87 + n)

/-- The form of one character between the quotes. -/
def encodeChar (c : Char) : List Char :=
  if c = '"' then ['\\', '"']
  else if c = '\\' then ['\\', '\\']
  else if c = '\n' then ['\\', 'n']
  else if c = '\r' then ['\\', 'r']
  else if c = '\t' then ['\\', 't']
  else if c = '\u0008' then ['\\', 'b']
  else if c = '\u000c' then ['\\', 'f']
  else if c.toNat < 32 then ['\\', 'u', '0', '0', hexDigit (c.toNat / 16), hexDigit (c.toNat % 16)]
  else [c]

def encode (s : String) : String :=
  String.ofList ('"' :: s.toList.flatMap encodeChar ++ ['"'])

end Quoted

namespace Value

mutual

/-- The compact text of a value. -/
def write : Value → String
  | .null => "null"
  | .bool b => if b then "true" else "false"
  | .number n => n.write
  | .string s => Quoted.encode s
  | .array items => "[" ++ String.intercalate "," (writeItems items) ++ "]"
  | .object fields => "\x7b" ++ String.intercalate "," (writeFields fields) ++ "\x7d"

def writeItems : List Value → List String
  | [] => []
  | v :: rest => v.write :: writeItems rest

def writeFields : List (String × Value) → List String
  | [] => []
  | (k, v) :: rest => (Quoted.encode k ++ ":" ++ v.write) :: writeFields rest

end

end Value

end Inlay.Data
