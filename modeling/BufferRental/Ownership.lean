import BufferRental.Buffer

/-! One buffer with several owners. The owners leave one by one, in whatever order, and the last
one to leave gives the buffer up. -/
namespace BufferRental

structure Shares (ι α : Type) where
  owners : Nat
  buffer : Buffer ι α

/-- How an owner leaves: it just goes, or it takes the buffer out, which only the last one can, and
releases it. -/
inductive Departure where
  | drop
  | release

namespace Shares

def read (shares : Shares ι α) : Nat := shares.buffer.count

def leave (pools : ι → Pool σ α) (shares : Shares ι α) : Act σ α (Shares ι α) := do
  if shares.owners = 1 then shares.buffer.giveUp pools
  return { shares with owners := shares.owners - 1 }

def depart (pools : ι → Pool σ α) (shares : Shares ι α) : Departure → Act σ α (Shares ι α)
  | .drop => shares.leave pools
  | .release => do
    if shares.owners = 1 then shares.buffer.release pools
    return { shares with owners := shares.owners - 1 }

/-- To release the buffer at the end is to give it up. -/
theorem depart_eq_leave (pools : ι → Pool σ α) (shares : Shares ι α) (departure : Departure) :
    shares.depart pools departure = shares.leave pools := by
  cases departure with
  | drop => rfl
  | release => simp only [depart, leave, Buffer.release_eq_giveUp]

end Shares

end BufferRental
