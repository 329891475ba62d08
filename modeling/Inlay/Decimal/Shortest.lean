/-
# `Inlay.Decimal.Shortest` — the fewest decimal digits that read back

A finite double is `m * 2 ^ q` with natural `m`.  The reals that round to it
form an interval whose ends belong to it exactly when `m` is even.  Of the
decimals inside that interval the text of the number uses one with the fewest
digits, and among those the one nearest to the value; of two equally near
ones the one whose last digit is even.

The search is exact.  For 1, 2, … 17 digits the value is compared with its two
neighbours on the decimal grid of that size, all in natural numbers: the whole
interval is scaled by a common power of two, so that

    value = 4 m,   low end = 4 m - 2 (4 m - 1 below a power of two),
    high end = 4 m + 2,          in units of 2 ^ (q - 2).
-/

namespace Inlay.Decimal

/-- The magnitude `m * 2 ^ q` of a finite double. -/
structure Binary where
  m : Nat
  q : Int
  /-- The next double below is half as far away as the next one above. -/
  tightBelow : Bool
  deriving Repr, DecidableEq

/-- The decimal `digits * 10 ^ exponent`. -/
structure Numeral where
  digits : Nat
  exponent : Int
  deriving Repr, DecidableEq

/-- What the 64 bits of a double stand for. -/
inductive Shape
  | finite (negative : Bool) (value : Binary)
  | infinite (negative : Bool)
  | notANumber
  deriving Repr, DecidableEq

/-- The sign, exponent and fraction fields of a double, decoded. -/
def Shape.ofBits (bits : UInt64) : Shape :=
  let b : Nat := bits.toNat
  let negative := b / Nat.pow 2 63 = 1
  let biased : Nat := b / Nat.pow 2 52 % Nat.pow 2 11
  let fraction : Nat := b % Nat.pow 2 52
  if biased = 2047 then
    if fraction = 0 then .infinite negative else .notANumber
  else if biased = 0 then
    .finite negative ⟨fraction, -1074, false⟩
  else
    .finite negative ⟨Nat.pow 2 52 + fraction, (biased : Int) - 1075, fraction = 0 && biased != 1⟩

/-- A ratio of natural numbers; the bound of an interval or a point of a grid. -/
structure Ratio where
  num : Nat
  den : Nat

namespace Ratio

/-- `n * 2 ^ e`. -/
def scaleTwo (n : Nat) (e : Int) : Ratio :=
  if 0 ≤ e then ⟨n * Nat.pow 2 e.toNat, 1⟩ else ⟨n, Nat.pow 2 (-e).toNat⟩

/-- `n * 10 ^ e`. -/
def scaleTen (n : Nat) (e : Int) : Ratio :=
  if 0 ≤ e then ⟨n * Nat.pow 10 e.toNat, 1⟩ else ⟨n, Nat.pow 10 (-e).toNat⟩

def lt (a b : Ratio) : Bool := a.num * b.den < b.num * a.den

def le (a b : Ratio) : Bool := a.num * b.den ≤ b.num * a.den

/-- The distance of two ratios. -/
def distance (a b : Ratio) : Ratio :=
  let x := a.num * b.den
  let y := b.num * a.den
  ⟨if x ≤ y then y - x else x - y, a.den * b.den⟩

/-- The largest `k` with `k * 10 ^ e ≤ a`. -/
def floorOnGrid (a : Ratio) (e : Int) : Nat :=
  if 0 ≤ e then a.num / (a.den * Nat.pow 10 e.toNat) else a.num * Nat.pow 10 (-e).toNat / a.den

end Ratio

namespace Binary

def value (b : Binary) : Ratio := Ratio.scaleTwo (4 * b.m) (b.q - 2)

def low (b : Binary) : Ratio :=
  Ratio.scaleTwo (4 * b.m - if b.tightBelow then 1 else 2) (b.q - 2)

def high (b : Binary) : Ratio := Ratio.scaleTwo (4 * b.m + 2) (b.q - 2)

/-- Whether a decimal is read back as this double. -/
def readsBack (b : Binary) (d : Numeral) : Bool :=
  let x := Ratio.scaleTen d.digits d.exponent
  if b.m % 2 = 0 then b.low.le x && x.le b.high else b.low.lt x && x.lt b.high

/-- Decimal digits of a natural number, at least one. -/
def countDigits (n : Nat) : Nat := (Nat.toDigits 10 n).length

/-- The power of ten of the leading decimal digit. -/
def leadingExponent (b : Binary) : Int :=
  let v := b.value
  let guess : Int := (countDigits v.num : Int) - countDigits v.den
  if (Ratio.scaleTen 1 guess).le v then guess else guess - 1

/-- The better of the two neighbours of the value on the grid `10 ^ e`, if one reads back. -/
def onGrid (b : Binary) (e : Int) : Option Numeral :=
  let k := b.value.floorOnGrid e
  let below : Numeral := ⟨k, e⟩
  let above : Numeral := ⟨k + 1, e⟩
  match b.readsBack below, b.readsBack above with
  | true, true =>
    let toBelow := (Ratio.scaleTen k e).distance b.value
    let toAbove := (Ratio.scaleTen (k + 1) e).distance b.value
    if toBelow.lt toAbove then some below
    else if toAbove.lt toBelow then some above
    else if k % 2 = 0 then some below else some above
  | true, false => some below
  | false, true => some above
  | false, false => none

/-- The first hit on ever finer grids: `n` grids are left, starting at `10 ^ e`. -/
def search (b : Binary) (e : Int) : Nat → Numeral
  | 0 => ⟨b.value.floorOnGrid e, e⟩
  | n + 1 => (b.onGrid e).getD (b.search (e - 1) n)

/-- The shortest decimal that reads back; zero is `0 * 10 ^ 0`. -/
def shortest (b : Binary) : Numeral :=
  if b.m = 0 then ⟨0, 0⟩ else b.search b.leadingExponent 17

end Binary

end Inlay.Decimal
