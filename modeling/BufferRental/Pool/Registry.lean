import BufferRental.Element.Footprint
import BufferRental.Pool.Bucket

/-! One pool per kind of element. A registry holds bucket pools with the standard limits, one for
each kind, which come into being when they are first asked for. -/
namespace BufferRental

structure Registry (κ : Type) (carrier : κ → Type) where
  pools : (kind : κ) → Option (BucketPool (carrier kind))

namespace Registry

variable {κ : Type} {carrier : κ → Type}

def empty : Registry κ carrier := ⟨fun _ => none⟩

def pool (registry : Registry κ carrier) (kind : κ) : BucketPool (carrier kind) :=
  (registry.pools kind).getD (BucketPool.empty BucketLimits.standard)

def update [DecidableEq κ] (registry : Registry κ carrier) (kind : κ)
    (changed : BucketPool (carrier kind)) : Registry κ carrier :=
  ⟨fun other => if same : kind = other then some (same ▸ changed) else registry.pools other⟩

@[simp] theorem pool_empty (kind : κ) :
    (empty : Registry κ carrier).pool kind = BucketPool.empty BucketLimits.standard := rfl

@[simp] theorem pool_update_same [DecidableEq κ] (registry : Registry κ carrier) (kind : κ)
    (changed : BucketPool (carrier kind)) : (registry.update kind changed).pool kind = changed := by
  simp [pool, update]

def asPool [DecidableEq κ] (kind : κ) [Element (carrier kind)] :
    Pool (Registry κ carrier) (carrier kind) :=
  (BucketPool.asPool (carrier kind)).within (·.pool kind) fun changed registry =>
    registry.update kind changed

end Registry

/-- Buffers reach the registry through a handle that holds nothing, so all handles are the same. -/
structure SharedHandle where
  deriving DecidableEq

namespace SharedHandle

def footprint : Footprint := .nothing

def asPool {κ : Type} {carrier : κ → Type} [DecidableEq κ] (_ : SharedHandle) (kind : κ)
    [Element (carrier kind)] : Pool (Registry κ carrier) (carrier kind) := Registry.asPool kind

def shown (_ : SharedHandle) : Text.Shown := .atom "SharedPool"

end SharedHandle

end BufferRental
