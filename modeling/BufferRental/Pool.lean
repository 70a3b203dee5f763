import BufferRental.Act
import BufferRental.Element

/-! Pools: lenders of buffers. A pool is asked for at least so many slots and may lend any buffer
it likes; later it is handed the buffer back, with the advice to clear it or not, and may refuse
it. Both requests may panic. Nothing else is assumed of a pool. -/
namespace BufferRental

structure Reply (σ β : Type) where
  result : Except Panic β
  state : σ
  notes : List Note

structure Pool (σ α : Type) where
  rent : Nat → σ → Reply σ (List α)
  /-- Takes a buffer back; the answer is an error if the pool refuses it. -/
  takeBack : List α → Bool → σ → Reply σ (Option RentalError)
  /-- How many buffers lie idle in the pool, if it says. -/
  idle : σ → Option Nat

namespace Pool

def rentAny (pool : Pool σ α) (minLen : Nat) : Act σ α (List α) := ⟨fun s =>
  let reply := pool.rent minLen s
  let notes := reply.notes.map Event.noted
  match reply.result with
  | .ok granted => ⟨.done granted, reply.state, .rented minLen (some granted) :: notes⟩
  | .error panic => ⟨.panicked panic, reply.state, .rented minLen none :: notes⟩⟩

def handBack (pool : Pool σ α) (slots : List α) (clear : Bool) : Act σ α (Option RentalError) :=
  ⟨fun s =>
    let reply := pool.takeBack slots clear s
    let notes := reply.notes.map Event.noted
    match reply.result with
    | .ok none => ⟨.done none, reply.state, .returned slots clear .accepted :: notes⟩
    | .ok (some error) =>
      ⟨.done (some error), reply.state, .returned slots clear (.refused error) :: notes⟩
    | .error panic => ⟨.panicked panic, reply.state, .returned slots clear .panicked :: notes⟩⟩

/-- Asks for a buffer and makes sure that it is long enough. One that is too short is of no use to
anyone and does not go back either. -/
def rentChecked (pool : Pool σ α) (minLen : Nat) : Act σ α (List α) := do
  let granted ← pool.rentAny minLen
  if granted.length < minLen then
    Act.raise (.shortGrant minLen granted.length)
  else
    Act.note (.rented minLen granted.length)
    return granted

/-- Hands a buffer back for good. A refusal is logged and changes nothing else. -/
def giveBack (pool : Pool σ α) (slots : List α) (clear : Bool) : Act σ α Unit := do
  match ← pool.handBack slots clear with
  | none => return ()
  | some error => Act.note (.returnRejected error)

/-- The same pool seen as a part of a larger state. -/
def within (pool : Pool σ α) (part : τ → σ) (replace : σ → τ → τ) : Pool τ α where
  rent minLen s :=
    let reply := pool.rent minLen (part s)
    ⟨reply.result, replace reply.state s, reply.notes⟩
  takeBack slots clear s :=
    let reply := pool.takeBack slots clear (part s)
    ⟨reply.result, replace reply.state s, reply.notes⟩
  idle s := pool.idle (part s)

end Pool

end BufferRental
