import BufferRental.Pool

/-! A pool that never keeps a buffer and answers every call as laid down beforehand. It shows how
the callers of a pool fare when it lends too much or too little, refuses buffers, or panics. -/
namespace BufferRental

/-- The plan counts calls from zero, rents and returns apart. -/
structure Plan (α : Type) where
  /-- How many slots more than asked the first rents lend; later ones lend what is asked. -/
  extra : List Int
  /-- No rent lends more slots than this. -/
  cap : Nat
  /-- The value of every slot that is lent. -/
  fill : α
  panicOnRent : List Nat
  panicOnReturn : List Nat
  refuse : List Nat

def Plan.grantLen (plan : Plan α) (call minLen : Nat) : Nat :=
  min (Int.toNat (minLen + plan.extra.getD call 0)) plan.cap

structure PlannedPool (α : Type) where
  plan : Plan α
  rents : Nat
  returns : Nat

namespace PlannedPool

def start (plan : Plan α) : PlannedPool α := ⟨plan, 0, 0⟩

def rent (minLen : Nat) (pool : PlannedPool α) : Reply (PlannedPool α) (List α) :=
  let next := { pool with rents := pool.rents + 1 }
  if pool.rents ∈ pool.plan.panicOnRent then ⟨.error (.raised "mock pool: rent failed"), next, []⟩
  else ⟨.ok (List.replicate (pool.plan.grantLen pool.rents minLen) pool.plan.fill), next, []⟩

def takeBack (slots : List α) (_clear : Bool) (pool : PlannedPool α) :
    Reply (PlannedPool α) (Option RentalError) :=
  let next := { pool with returns := pool.returns + 1 }
  if pool.returns ∈ pool.plan.panicOnReturn then
    ⟨.error (.raised "mock pool: return failed"), next, []⟩
  else if pool.returns ∈ pool.plan.refuse then
    ⟨.ok (some (.foreignBuffer slots.length)), next, []⟩
  else ⟨.ok none, next, []⟩

/-- Planned pools as pools. They keep nothing, so they have no idle buffers to count. -/
def asPool (α : Type) : Pool (PlannedPool α) α := ⟨rent, takeBack, fun _ => none⟩

end PlannedPool

end BufferRental
