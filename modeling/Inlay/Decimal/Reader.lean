/-
# `Inlay.Decimal.Reader` — texts that denote a number

    sign? digits (. digits?)? exponent?      sign? . digits exponent?
    sign? inf      sign? infinity      sign? nan      in any letter case

The answer is the double nearest to the number.
-/
import Inlay.Text.Case

namespace Inlay.Decimal

/-- The value of a row of digits. -/
def digitsValue (cs : List Char) : Nat := cs.foldl (fun n c => n * 10 + (c.toNat - 48)) 0

/-- An exponent, if the text is one or is empty. -/
def readExponent? : List Char → Option Int
  | [] => some 0
  | e :: cs =>
    if e = 'e' || e = 'E' then
      let (negative, ds) := match cs with
        | '-' :: ds => (true, ds)
        | '+' :: ds => (false, ds)
        | ds => (false, ds)
      if ds.isEmpty || !ds.all Char.isDigit then none
      else some (if negative then -(digitsValue ds : Int) else digitsValue ds)
    else none

/-- The double nearest to `n · 10 ^ e`. -/
def nearest (n : Nat) (e : Int) : Float :=
  let size : Int := (Nat.toDigits 10 n).length
  if n = 0 || size + e < -400 then 0.0
  else if 400 < size + e then 1.0 / 0.0
  else if 0 ≤ e then Float.ofScientific (n * Nat.pow 10 e.toNat) false 0
  else Float.ofScientific n true (-e).toNat

/-- A number without sign. -/
def readUnsigned? (cs : List Char) : Option Float :=
  let word := Text.lower (String.ofList cs)
  if word = "inf" || word = "infinity" then some (1.0 / 0.0)
  else if word = "nan" then some (0.0 / 0.0)
  else
    let whole := cs.takeWhile Char.isDigit
    let (fraction, rest) := match cs.dropWhile Char.isDigit with
      | '.' :: more => (more.takeWhile Char.isDigit, more.dropWhile Char.isDigit)
      | more => ([], more)
    if whole.isEmpty && fraction.isEmpty then none
    else (readExponent? rest).map fun e =>
      nearest (digitsValue (whole ++ fraction)) (e - fraction.length)

/-- The number that a text denotes. -/
def readFloat? (s : String) : Option Float :=
  match s.toList with
  | '-' :: cs => (readUnsigned? cs).map fun x => -x
  | '+' :: cs => readUnsigned? cs
  | cs => readUnsigned? cs

end Inlay.Decimal
