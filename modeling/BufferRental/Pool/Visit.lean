import BufferRental.Buffer.View
import BufferRental.Pool.Registry
import BufferRental.Settings

/-! Visits to a registry of pools. A visitor rents a buffer of one kind of element, reads what it
was lent, overwrites it and gives it up, so the next visitor of that kind may find it there. -/
namespace BufferRental.Registry

variable {κ : Type} {carrier : κ → Type} [DecidableEq κ] [∀ kind, Element (carrier kind)]

structure Found (α : Type) where
  elements : List α
  capacity : Nat

def visit (kind : κ) (items : List (carrier kind)) :
    Act (Registry κ carrier) (carrier kind) (Found (carrier kind)) := do
  let pools := fun () => asPool kind
  let buffer ← (Settings.standard ()).build pools (.withCount items.length)
  let found := buffer.elements
  let (_, buffer) := buffer.perform (.fill items)
  buffer.giveUp pools
  return ⟨found, buffer.capacity⟩

end BufferRental.Registry
