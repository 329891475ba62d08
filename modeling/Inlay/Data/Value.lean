/-
# `Inlay.Data.Value` — data values

The data that a template is rendered with: null, truth values, numbers, texts,
lists and records.  A number is an exact integer or a double, and stays what it
was when read.  A record lists its fields by strictly increasing key; `put`
keeps that order and replaces the value of a key that is present, so the last
of two equal keys wins.
-/
import Inlay.Decimal.Shortest

namespace Inlay.Data

/-- A number: an integer that fits 64 bits with or without sign, or a double. -/
inductive Number
  | int (i : Int)
  | double (x : Float)

inductive Value
  | null
  | bool (b : Bool)
  | number (n : Number)
  | string (s : String)
  | array (items : List Value)
  | object (fields : List (String × Value))

instance : Inhabited Value := ⟨.null⟩

/-- Insert or replace a field, keeping the keys in increasing order. -/
def putField {α : Type} (key : String) (v : α) : List (String × α) → List (String × α)
  | [] => [(key, v)]
  | (k, w) :: rest =>
    match compare key k with
    | .lt => (key, v) :: (k, w) :: rest
    | .eq => (key, v) :: rest
    | .gt => (k, w) :: putField key v rest

/-- The value of a field. -/
def getField? {α : Type} (key : String) (fields : List (String × α)) : Option α :=
  (fields.find? (·.1 = key)).map (·.2)

namespace Value

/-- A record with the given fields; of equal keys the last one wins. -/
def ofFields (fields : List (String × Value)) : Value :=
  .object (fields.foldl (fun acc f => putField f.1 f.2 acc) [])

/-- The field of a record; nothing for other values. -/
def field? (v : Value) (key : String) : Option Value :=
  match v with
  | .object fields => getField? key fields
  | _ => none

/-- Null, and the empty text, list and record, carry no data. -/
def isEmpty : Value → Bool
  | .null => true
  | .object fields => fields.isEmpty
  | .array items => items.isEmpty
  | .string s => s.isEmpty
  | .bool _ | .number _ => false

end Value

namespace Number

/-- The number as a double. -/
def toFloat : Number → Float
  | .int i => if 0 ≤ i then Float.ofNat i.toNat else -(Float.ofNat (-i).toNat)
  | .double x => x

end Number

end Inlay.Data
