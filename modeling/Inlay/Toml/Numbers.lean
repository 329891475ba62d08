/-
# `Inlay.Toml.Numbers` — integers, floats, dates and times

No option is a number, so these readers take numbers without telling their
values.  They refuse the same texts as readers that do:

    integers    that do not fit 64 bits with sign, at their beginning
    floats      above the largest double, at their beginning
    dates       a month, day, minute or second out of its range, where it
                stands

A number is first read as a date or time, then as a float, then as an integer.
Once a reader has seen what makes it a date, time, float or integer to another
base, its refusals are final.
-/
import Inlay.Decimal.Reader
import Inlay.Toml.Strings

namespace Inlay.Toml

open Read

/-! ## Digits -/

def isOctalDigit (c : Char) : Bool := '0' ≤ c && c ≤ '7'

def isBinaryDigit (c : Char) : Bool := c = '0' || c = '1'

/-- More digits of a class; an underscore may stand before each. -/
def moreDigits (p : Char → Bool) : Read (List Char) := do
  let parts ← many (orElse (do pure [← one p]) (do
    char '_'
    pure [← must (one p)]))
  pure parts.flatten

/-- Digits of a class, with underscores between them. -/
def digits (p : Char → Bool) : Read (List Char) := do
  let d ← one p
  let ds ← moreDigits p
  pure (d :: ds)

/-- A sign, if there is one. -/
def sign : Read (List Char) := do
  pure (← opt (one fun c => c = '+' || c = '-')).toList

/-! ## Integers -/

/-- A decimal integer without superfluous zeros. -/
def decimal : Read (List Char) := do
  let s ← sign
  let ds ← orElse
    (do
      let d ← one fun c => '1' ≤ c && c ≤ '9'
      let ds ← moreDigits Char.isDigit
      pure (d :: ds))
    (do pure [← one Char.isDigit])
  pure (s ++ ds)

/-- The integers of 64 bits with sign. -/
def fits (negative : Bool) (n : Nat) : Option Unit :=
  if n < Nat.pow 2 63 || (negative && n = Nat.pow 2 63) then some () else none

/-- An integer to another base behind its two letters. -/
def based (letters : String) (base : Nat) (p : Char → Bool) : Read Unit :=
  bounded
    (do
      text letters
      must (digits p))
    fun cs => fits false (valueOf base cs)

def integer : Read Unit := fun c =>
  match c.rest with
  | '0' :: 'x' :: _ => based "0x" 16 isHexDigit c
  | '0' :: 'o' :: _ => based "0o" 8 isOctalDigit c
  | '0' :: 'b' :: _ => based "0b" 2 isBinaryDigit c
  | _ =>
    bounded decimal (fun cs =>
      match cs with
      | '-' :: ds => fits true (valueOf 10 ds)
      | '+' :: ds => fits false (valueOf 10 ds)
      | ds => fits false (valueOf 10 ds)) c

/-! ## Floats -/

def exponent : Read (List Char) := do
  let e ← one fun c => c = 'e' || c = 'E'
  let s ← sign
  let ds ← must (digits Char.isDigit)
  pure (e :: s ++ ds)

def fraction : Read (List Char) := do
  char '.'
  let ds ← must (digits Char.isDigit)
  pure ('.' :: ds)

/-- A float with a fraction, an exponent or both. -/
def ordinaryFloat : Read (List Char) := do
  let whole ← decimal
  let rest ← orElse exponent (do
    let f ← fraction
    let e ← opt exponent
    pure (f ++ e.getD []))
  pure (whole ++ rest)

/-- Whether a text denotes no number above the largest double. -/
def belowInfinity (cs : List Char) : Option Unit :=
  match Decimal.readFloat? (String.ofList (cs.filter (· ≠ '_'))) with
  | some x => if x == 1.0 / 0.0 then none else some ()
  | none => none

/-- Infinity, or no number. -/
def specialFloat : Read Unit := do
  let _ ← sign
  orElse (text "inf") (text "nan")

def float : Read Unit := orElse (bounded ordinaryFloat belowInfinity) specialFloat

/-! ## Dates and times -/

/-- A number of `width` digits in a range. -/
def ranged (width low high : Nat) : Read Nat :=
  checked (run Char.isDigit width (some width)) fun cs =>
    let n := valueOf 10 cs
    if low ≤ n && n ≤ high then some n else none

def isLeap (year : Nat) : Bool := (year % 4 = 0 && year % 100 ≠ 0) || year % 400 = 0

def daysIn (year month : Nat) : Nat :=
  if month = 2 then (if isLeap year then 29 else 28)
  else if month = 4 || month = 6 || month = 9 || month = 11 then 30
  else 31

def date : Read Unit := do
  let year ← ranged 4 0 9999
  char '-'
  let month ← must (ranged 2 1 12)
  must (char '-')
  bounded (must (ranged 2 1 31)) fun day => if day ≤ daysIn year month then some () else none

def time : Read Unit := do
  let _ ← ranged 2 0 23
  char ':'
  must do
    let _ ← ranged 2 0 59
    char ':'
    let _ ← ranged 2 0 60
    let _ ← opt do
      char '.'
      run Char.isDigit 1 none

/-- The distance of a time from the time of the zero meridian. -/
def offset : Read Unit :=
  orElse (do let _ ← one fun c => c = 'Z' || c = 'z') do
    let _ ← one fun c => c = '+' || c = '-'
    must do
      let _ ← ranged 2 0 23
      char ':'
      let _ ← ranged 2 0 59

def dateTime : Read Unit :=
  orElse
    (do
      date
      let _ ← opt do
        let _ ← one fun c => c = 'T' || c = 't' || c = ' '
        time
        opt offset)
    time

/-- What begins with a digit or a sign. -/
def number : Read Unit := first [dateTime, float, integer]

end Inlay.Toml
