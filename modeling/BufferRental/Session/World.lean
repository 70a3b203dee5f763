import BufferRental.Pool.Bucket
import BufferRental.Pool.Planned
import BufferRental.Session

/-! The pools that a session can be played with: its own one, which may be a bucket pool, a planned
pool or the shared pool itself, and the pool that everybody shares, a bucket pool with standard
limits. -/
namespace BufferRental

inductive OwnPool (α : Type) where
  | bucket (pool : BucketPool α)
  | planned (pool : PlannedPool α)
  | shared

structure World (α : Type) where
  own : OwnPool α
  shared : BucketPool α

namespace World

def start (own : OwnPool α) : World α := ⟨own, .empty .standard⟩

def sharedPool (α : Type) [Element α] : Pool (World α) α :=
  (BucketPool.asPool α).within shared fun pool world => { world with shared := pool }

/-- The session's own pool as it is in this world. -/
def ownPool [Element α] (world : World α) : Pool (World α) α :=
  match world.own with
  | .bucket pool =>
    (BucketPool.asPool α).within (fun _ => pool) fun pool world => { world with own := .bucket pool }
  | .planned pool =>
    (PlannedPool.asPool α).within (fun _ => pool) fun pool world => { world with own := .planned pool }
  | .shared => sharedPool α

def pools (α : Type) [Element α] : Handle → Pool (World α) α
  | .own =>
    ⟨fun minLen world => world.ownPool.rent minLen world,
      fun slots clear world => world.ownPool.takeBack slots clear world,
      fun world => world.ownPool.idle world⟩
  | .shared => sharedPool α

def idleSlots (world : World α) : List α :=
  (match world.own with
    | .bucket pool => pool.idleSlots
    | .planned _ | .shared => []) ++ world.shared.idleSlots

end World

namespace Session

/-- Every slot in existence: of live buffers, raw buffers and idle ones, shown or spare. -/
def allSlots (session : Session (World α) α) : List α :=
  session.buffers.flatMap (·.2.slots.getD []) ++ session.raws.flatMap (·.2) ++
    session.world.idleSlots

end Session

namespace Turn

def ownIdle [Element α] (turn : Turn (World α) α) : Option Nat :=
  (World.pools α .own).idle turn.session.world

def sharedIdle (turn : Turn (World α) α) : Nat := turn.session.world.shared.idleCount

end Turn

/-- Plays a session with its own pool as given; nothing lies in the shared pool at first. -/
def playScript [Element α] (own : OwnPool α) (steps : List (Step α)) :
    List (Turn (World α) α) :=
  (Session.start (World.start own)).play (World.pools α) steps

end BufferRental
