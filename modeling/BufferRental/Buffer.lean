import BufferRental.ClearMode
import BufferRental.Population

/-! Rented buffers. A buffer shows the first `count` of its slots and hides the spare ones behind
them. When its owner gives it up, all slots go back to the pool they came from, exactly once. -/
namespace BufferRental

/-- The pool is named by a handle of type `ι`. Nothing was rented for a buffer without slots. -/
structure Buffer (ι α : Type) where
  slots : Option (List α)
  count : Nat
  /-- The decision made when the buffer was built. -/
  clear : Bool
  handle : ι
  count_le : count ≤ (slots.getD []).length

namespace Buffer

def empty (clear : Bool) (handle : ι) : Buffer ι α := ⟨none, 0, clear, handle, Nat.le_refl 0⟩

def ofPopulated (clear : Bool) (handle : ι) (populated : Populated α) : Act σ α (Buffer ι α) :=
  if fits : populated.count ≤ (populated.slots.getD []).length then
    return ⟨populated.slots, populated.count, clear, handle, fits⟩
  else Act.raise (.broken .countWithinBuffer)

def capacity (buffer : Buffer ι α) : Nat := (buffer.slots.getD []).length

def isEmpty (buffer : Buffer ι α) : Bool := buffer.count == 0

def clearMode (buffer : Buffer ι α) : ClearMode := .ofDecision buffer.clear

def elements (buffer : Buffer ι α) : List α := (buffer.slots.getD []).take buffer.count

def spare (buffer : Buffer ι α) : List α := (buffer.slots.getD []).drop buffer.count

@[simp] theorem length_elements (buffer : Buffer ι α) : buffer.elements.length = buffer.count := by
  simp [elements, Nat.min_eq_left buffer.count_le]

theorem elements_append_spare (buffer : Buffer ι α) :
    buffer.elements ++ buffer.spare = buffer.slots.getD [] := List.take_append_drop ..

/-- Takes the slots out of the buffer and hands them to their pool. What is left has no slots, also
if the pool panics, so that to do it once more does nothing. -/
def returnSlots (pools : ι → Pool σ α) (buffer : Buffer ι α) :
    Act σ α (Buffer ι α × Exit Unit) :=
  match buffer.slots with
  | none => return (buffer, .done ())
  | some slots => do
    let ending ← Act.attempt ((pools buffer.handle).giveBack slots buffer.clear)
    return (.empty buffer.clear buffer.handle, ending)

/-- The end of a buffer's life: its slots go back to their pool unless they did before. -/
def giveUp (pools : ι → Pool σ α) (buffer : Buffer ι α) : Act σ α Unit := do
  let (_, ending) ← buffer.returnSlots pools
  Act.leave ending

/-- Returns the slots at a moment that the owner chooses. The buffer's life ends right after that,
also on the way of a panic. -/
def release (pools : ι → Pool σ α) (buffer : Buffer ι α) : Act σ α Unit := do
  let (left, ending) ← buffer.returnSlots pools
  match ending with
  | .panicked panic => Act.whileUnwinding panic (left.giveUp pools)
  | ending => do
    left.giveUp pools
    Act.leave ending

theorem giveUp_of_none {buffer : Buffer ι α} (pools : ι → Pool σ α) (gone : buffer.slots = none) :
    buffer.giveUp pools = return () := by
  simp only [giveUp, returnSlots, gone]
  rfl

theorem giveUp_of_some {buffer : Buffer ι α} (pools : ι → Pool σ α) {slots : List α}
    (held : buffer.slots = some slots) :
    buffer.giveUp pools = (pools buffer.handle).giveBack slots buffer.clear := by
  ext s
  simp [giveUp, returnSlots, held, Act.run_bind, Act.bind]

/-- What is left of a buffer whose slots were returned has nothing to give up. -/
theorem release_eq_giveUp (pools : ι → Pool σ α) (buffer : Buffer ι α) :
    buffer.release pools = buffer.giveUp pools := by
  cases held : buffer.slots with
  | none =>
    rw [giveUp_of_none pools held]
    simp only [release, returnSlots, held, Act.pure_bind, giveUp_of_none pools held]
    rfl
  | some slots =>
    rw [giveUp_of_some pools held]
    have gone : (empty buffer.clear buffer.handle : Buffer ι α).giveUp pools = return () :=
      giveUp_of_none pools rfl
    ext s
    simp only [release, returnSlots, held]
    rcases ran : ((pools buffer.handle).giveBack slots buffer.clear).run s with ⟨ending, state, journal⟩
    cases ending <;> simp [Act.run_bind, Act.bind, ran, gone, Act.whileUnwinding, Act.raise]

def same [Element α] (left : Buffer ι α) (right : Buffer κ α) : Bool :=
  Element.sameAll left.elements right.elements

def shown [Element α] (buffer : Buffer ι α) : Text.Shown :=
  .partialRecord "PooledBuffer"
    [("elements", .list (buffer.elements.map Element.shown)),
      ("capacity", .nat buffer.capacity), ("clear_mode", buffer.clearMode.shown)]

end Buffer

structure Description where
  count : Nat
  capacity : Nat
  isEmpty : Bool
  clearMode : ClearMode
  deriving DecidableEq

def Buffer.description (buffer : Buffer ι α) : Description :=
  ⟨buffer.count, buffer.capacity, buffer.isEmpty, buffer.clearMode⟩

end BufferRental
