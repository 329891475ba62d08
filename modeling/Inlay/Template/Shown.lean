/-
# `Inlay.Template.Shown` — how a template shows and judges values

A value is shown as text:

    null         nothing
    true, 12.5   as in the data notation
    text         itself
    list         [a, b, c], its items shown
    record       [object]

Shown text is escaped unless the tag says otherwise; each character that could
begin or end markup or an attribute value becomes a reference.

Null, false, zero, the empty text, list and record count as false.  A double is
zero here if it is subnormal as well.

Two values have an order if both are numbers, both texts or both truth values,
or if one is a number and the other a text that denotes one.
-/
import Inlay.Data.Printer
import Inlay.Decimal.Reader

namespace Inlay.Template

open Data (Value Number)

mutual

/-- The text that a template shows for a value. -/
def shown : Value → String
  | .null => ""
  | .bool b => if b then "true" else "false"
  | .number n => n.write
  | .string s => s
  | .array items => "[" ++ ", ".intercalate (shownItems items) ++ "]"
  | .object _ => "[object]"

def shownItems : List Value → List String
  | [] => []
  | v :: vs => shown v :: shownItems vs

end

/-- A character as a reference, where it could be markup. -/
def escapeChar (c : Char) : List Char :=
  match c with
  | '<' => "&lt;".toList
  | '>' => "&gt;".toList
  | '"' => "&quot;".toList
  | '&' => "&amp;".toList
  | '\'' => "&#x27;".toList
  | '\x60' => "&#x60;".toList
  | '=' => "&#x3D;".toList
  | c => [c]

def escape (s : String) : String := String.ofList (s.toList.flatMap escapeChar)

/-- Neither zero nor subnormal. -/
def isNormal (x : Float) : Bool :=
  let e := (x.toBits >>> 52) &&& 0x7ff
  e ≠ 0 && e ≠ 0x7ff

/-- Whether a value counts as true; with `zeroCounts` all numbers do. -/
def isTrue (zeroCounts : Bool) : Value → Bool
  | .null => false
  | .bool b => b
  | .number n => zeroCounts || isNormal n.toFloat
  | .string s => !s.isEmpty
  | .array items => !items.isEmpty
  | .object fields => !fields.isEmpty

def compareFloats (x y : Float) : Option Ordering :=
  if x < y then some .lt else if x == y then some .eq else if y < x then some .gt else none

/-- The order of an integer and a finite double, as numbers. -/
def compareIntFloat (i : Int) (x : Float) : Option Ordering :=
  match Decimal.Shape.ofBits x.toBits with
  | .finite negative b =>
    let m : Int := if negative then -(b.m : Int) else b.m
    if 0 ≤ b.q then some (compare i (m * Int.pow 2 b.q.toNat))
    else some (compare (i * Int.pow 2 (-b.q).toNat) m)
  | _ => none

def compareNumbers : Number → Number → Option Ordering
  | .int i, .int j => some (compare i j)
  | .int i, .double y => compareIntFloat i y
  | .double x, .int j => (compareIntFloat j x).map Ordering.swap
  | .double x, .double y => compareFloats x y

/-- The order of a number and a text that denotes a number. -/
def compareNumberText (n : Number) (s : String) : Option Ordering :=
  (Decimal.readFloat? s).bind fun y => compareFloats n.toFloat y

/-- The order of two values, if they have one. -/
def compareValues : Value → Value → Option Ordering
  | .number m, .number n => compareNumbers m n
  | .string s, .string t => some (compare s t)
  | .bool a, .bool b => some (compare a.toNat b.toNat)
  | .number n, .string s => compareNumberText n s
  | .string s, .number n => (compareNumberText n s).map Ordering.swap
  | _, _ => none

/-- Equal numbers are of the same kind. -/
def sameNumber : Number → Number → Bool
  | .int i, .int j => i = j
  | .double x, .double y => x == y
  | _, _ => false

mutual

/-- Equal values are of the same kind and have equal parts. -/
def sameValue : Value → Value → Bool
  | .null, .null => true
  | .bool a, .bool b => a = b
  | .number m, .number n => sameNumber m n
  | .string s, .string t => s = t
  | .array xs, .array ys => sameItems xs ys
  | .object fs, .object gs => sameFields fs gs
  | _, _ => false

def sameItems : List Value → List Value → Bool
  | [], [] => true
  | x :: xs, y :: ys => sameValue x y && sameItems xs ys
  | _, _ => false

def sameFields : List (String × Value) → List (String × Value) → Bool
  | [], [] => true
  | (k, x) :: fs, (l, y) :: gs => k = l && sameValue x y && sameFields fs gs
  | _, _ => false

end

end Inlay.Template
