/-
# `Inlay.Markup.Reference` — character references

What may stand behind an ampersand:

    # digits ;?         the character with that decimal number
    # x hex digits ;?   the character with that hexadecimal number
    name                the longest name of the table that the text begins with

Numbers that name no character give U+FFFD, and the numbers 128 to 159 give
the characters that the Windows code page has there.  In an attribute value a
name without its semicolon is not a reference when a letter, a digit or `=`
follows.  Where nothing is referred to, the ampersand stands for itself and
all that follows is read as text.
-/
import Inlay.Markup.Reference.Names

namespace Inlay.Markup.Reference

/-- The characters that the numbers 128 to 159 refer to. -/
def windowsPage : List Nat :=
  [0x20ac, 0x81, 0x201a, 0x192, 0x201e, 0x2026, 0x2020, 0x2021, 0x2c6, 0x2030, 0x160, 0x2039,
   0x152, 0x8d, 0x17d, 0x8f, 0x90, 0x2018, 0x2019, 0x201c, 0x201d, 0x2022, 0x2013, 0x2014,
   0x2dc, 0x2122, 0x161, 0x203a, 0x153, 0x9d, 0x17e, 0x178]

def replacement : Char := '\ufffd'

/-- The character that a number refers to. -/
def ofNumber (n : Nat) : Char :=
  if n > 0x10ffff ∨ n = 0 ∨ (0xd800 ≤ n ∧ n ≤ 0xdfff) then replacement
  else if 0x80 ≤ n ∧ n ≤ 0x9f then Char.ofNat (windowsPage.getD (n - 0x80) n)
  else Char.ofNat n

def digitOf? (base : Nat) (c : Char) : Option Nat :=
  if c.isDigit then some (c.toNat - 48)
  else if base = 16 ∧ 'a' ≤ c ∧ c ≤ 'f' then some (c.toNat - 87)
  else if base = 16 ∧ 'A' ≤ c ∧ c ≤ 'F' then some (c.toNat - 55)
  else none

/-- A number in the given base, if there is a digit; numbers are clamped far above all
characters.  A semicolon behind it is taken too. -/
def numeric? (base : Nat) (cs : List Char) : Option (Char × List Char) :=
  let digits := cs.takeWhile fun c => (digitOf? base c).isSome
  if digits.isEmpty then none
  else
    let n := digits.foldl (fun acc c => min (acc * base + (digitOf? base c).getD 0) 0x1000000) 0
    let rest := cs.drop digits.length
    some (ofNumber n, match rest with | ';' :: r => r | _ => rest)

/-- The characters that could belong to a name. -/
def nameLike (cs : List Char) : List Char :=
  let letters := (cs.take maxLength).takeWhile Char.isAlphanum
  match cs.drop letters.length with
  | ';' :: _ => letters ++ [';']
  | _ => letters

/-- The longest name among the first `n` characters, and what it stands for. -/
def longestName? (cs : List Char) : Nat → Option (Nat × List Char)
  | 0 => none
  | n + 1 =>
    match lookup? (String.ofList (cs.take (n + 1))) with
    | some found => some (n + 1, found)
    | none => longestName? cs n

/-- Whether a character keeps a name without semicolon from being a reference in an attribute. -/
def continuesName (c : Char) : Bool := c = '=' || c.isAlphanum

def named? (inAttribute : Bool) (cs : List Char) : Option (List Char × List Char) :=
  match longestName? cs (nameLike cs).length with
  | none => none
  | some (n, found) =>
    let rest := cs.drop n
    let open_ := cs[n - 1]? ≠ some ';'
    if inAttribute && open_ && (rest.head?.map continuesName).getD false then none
    else some (found, rest)

/-- What stands for the text behind an ampersand, and what is left of it. -/
def decode (inAttribute : Bool) (cs : List Char) : List Char × List Char :=
  let found : Option (List Char × List Char) := match cs with
    | '#' :: x :: rest =>
      if x = 'x' ∨ x = 'X' then (numeric? 16 rest).map fun (c, r) => ([c], r)
      else (numeric? 10 (x :: rest)).map fun (c, r) => ([c], r)
    | c :: _ => if c.isAlphanum then named? inAttribute cs else none
    | [] => none
  found.getD (['&'], cs)

end Inlay.Markup.Reference
