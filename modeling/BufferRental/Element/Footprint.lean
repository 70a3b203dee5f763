/-! How much room a value takes where it lies, and whether it owns anything elsewhere. Footprints
of compound values follow from those of their parts. -/
namespace BufferRental

structure Footprint where
  /-- Bytes, always a multiple of `align`. -/
  size : Nat
  align : Nat
  owns : Bool
  deriving DecidableEq

namespace Footprint

def nothing : Footprint := ⟨0, 1, false⟩

def word (bytes : Nat) : Footprint := ⟨bytes, bytes, false⟩

def borrowed (words : Nat) : Footprint := ⟨8 * words, 8, false⟩

def handle (words : Nat) : Footprint := ⟨8 * words, 8, true⟩

/-- The least multiple of `align` that is not below `size`. -/
def padded (size align : Nat) : Nat := (size + align - 1) / align * align

def totalSize (parts : List Footprint) : Nat := (parts.map size).foldl (· + ·) 0

def maxAlign (parts : List Footprint) : Nat := (parts.map align).foldl max 1

def anyOwns (parts : List Footprint) : Bool := parts.any owns

/-- Values of one kind side by side. No values own nothing. -/
def array (length : Nat) (item : Footprint) : Footprint :=
  ⟨length * item.size, item.align, length != 0 && item.owns⟩

/-- Several values side by side, in the order that leaves no gap between them. -/
def record (parts : List Footprint) : Footprint :=
  ⟨padded (totalSize parts) (maxAlign parts), maxAlign parts, anyOwns parts⟩

/-- One of several values, with a tag that says which. -/
def tagged (cases : List Footprint) : Footprint :=
  ⟨padded ((cases.map size).foldl max 0 + maxAlign cases) (maxAlign cases), maxAlign cases, anyOwns cases⟩

/-- One of two values, the second of which is written as bit patterns that the first never has. -/
def squeezed (first second : Footprint) : Footprint := ⟨first.size, first.align, first.owns || second.owns⟩

def unreleased (item : Footprint) : Footprint := { item with owns := false }

end Footprint

end BufferRental
