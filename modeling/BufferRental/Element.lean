import BufferRental.Fault

/-! What the library asks of the elements of a buffer. Pools only need the blank value; copying
needs `clone`, comparison `same`, sorting an order, inspection `shown`. -/
namespace BufferRental

class Element (α : Type) where
  /-- Bytes that one element takes in a buffer. -/
  size : Nat
  /-- Whether an element owns something beyond its own bytes. -/
  owns : Bool
  /-- The value of every slot of a fresh or cleared buffer. -/
  blank : α
  /-- A second value equal to the first. Making it may panic. -/
  clone : α → Except Panic α
  /-- The elements' own equality, which need not be reflexive. -/
  same : α → α → Bool
  /-- The order to sort by, if the elements have one: whether the first value may stand first. -/
  order : Option (α → α → Bool)
  shown : α → Text.Shown

namespace Element

def maxLen (α : Type) [Element α] : Nat := maxBufferLen (size α)

def blanks (α : Type) [Element α] (length : Nat) : List α := List.replicate length blank

def cleared [Element α] (slots : List α) : List α := slots.map fun _ => blank

@[simp] theorem length_blanks [Element α] (length : Nat) : (blanks α length).length = length := by
  simp [blanks]

theorem cleared_eq_blanks [Element α] (slots : List α) :
    cleared slots = blanks α slots.length :=
  List.map_const'

/-- Element by element, up to the end of both. -/
def sameAll [Element α] : List α → List α → Bool
  | [], [] => true
  | x :: xs, y :: ys => same x y && sameAll xs ys
  | _, _ => false

end Element

end BufferRental
