/-
# `Inlay.Dispatch.Cache` — compiled templates by key

A cache holds at most one template for a key; its keys are in increasing order.
The first template that is stored under a key stays until the key is evicted.

The marker of a key stands in an attribute of every container that was rendered
from it: the key with its double quotes turned into single ones, so that it can
stand between double quotes in a selector.  Keys that differ only in the kind
of their quotes have one marker.
-/
import Inlay.Data.Value

namespace Inlay

/-- The marker of a key. -/
def markerOf (key : String) : String :=
  String.ofList (key.toList.map fun c => if c = '"' then '\'' else c)

structure Cache (τ : Type) where
  entries : List (String × τ)

namespace Cache

variable {τ : Type}

def empty : Cache τ := ⟨[]⟩

instance : Inhabited (Cache τ) := ⟨empty⟩

/-- The template of a key. -/
def get? (c : Cache τ) (key : String) : Option τ := Data.getField? key c.entries

def contains (c : Cache τ) (key : String) : Bool := (c.get? key).isSome

/-- Store a template, unless the key has one. -/
def insert (c : Cache τ) (key : String) (t : τ) : Cache τ :=
  if c.contains key then c else ⟨Data.putField key t c.entries⟩

/-- Forget the template of a key. -/
def evict (c : Cache τ) (key : String) : Cache τ := ⟨c.entries.filter (·.1 ≠ key)⟩

/-- Forget the templates of all keys with a marker. -/
def evictMarker (c : Cache τ) (marker : String) : Cache τ :=
  ⟨c.entries.filter (markerOf ·.1 ≠ marker)⟩

def keys (c : Cache τ) : List String := c.entries.map (·.1)

def size (c : Cache τ) : Nat := c.entries.length

def isEmpty (c : Cache τ) : Bool := c.entries.isEmpty

end Cache

end Inlay
