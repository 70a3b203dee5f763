import BufferRental.Pool

/-! A pool that keeps idle buffers by length. Each power of two from 16 up to a limit has a bucket,
a stack with a bounded number of places. A request takes the newest buffer of the least such length
that suffices, or a fresh one. Longer requests are served too, but their buffers are not kept. -/
namespace BufferRental

open Element

def minBucketLen : Nat := 16

def isBucketLen (length : Nat) : Bool := isPowerOfTwo length && minBucketLen ≤ length

structure BucketLimits where
  /-- The length of the longest buffers that are kept. -/
  maxBufferLen : Nat
  /-- How many idle buffers of one length are kept. -/
  maxPerBucket : Nat
  hasBucket : isBucketLen maxBufferLen = true

namespace BucketLimits

def standard : BucketLimits := ⟨1048576, 50, by decide⟩

def withMaxBufferLen (limits : BucketLimits) (length : Nat) : Except Panic BucketLimits :=
  if accepted : isBucketLen length = true then .ok ⟨length, limits.maxPerBucket, accepted⟩
  else .error (.bucketLimit length)

def withMaxPerBucket (limits : BucketLimits) (count : Nat) : BucketLimits :=
  { limits with maxPerBucket := count }

def shownFields (limits : BucketLimits) : List (String × Text.Shown) :=
  [("max_buffer_len", .nat limits.maxBufferLen), ("max_buffers_per_bucket", .nat limits.maxPerBucket)]

def shown (limits : BucketLimits) : Text.Shown := .partialRecord "BucketPoolBuilder" limits.shownFields

end BucketLimits

inductive LimitSetting where
  | maxBufferLen (length : Nat)
  | maxPerBucket (count : Nat)

def LimitSetting.apply (limits : BucketLimits) : LimitSetting → Except Panic BucketLimits
  | maxBufferLen length => limits.withMaxBufferLen length
  | maxPerBucket count => .ok (limits.withMaxPerBucket count)

/-- The limits after a list of settings, made in order; the first impossible one ends it. -/
def BucketLimits.ofSettings (settings : List LimitSetting) : Except Panic BucketLimits :=
  settings.foldlM LimitSetting.apply BucketLimits.standard

/-- The place of the bucket for buffers of this length, the shortest first. -/
def bucketIndex? (length : Nat) : Option Nat :=
  if isBucketLen length then some (length.log2 - minBucketLen.log2) else none

structure BucketPool (α : Type) where
  limits : BucketLimits
  /-- The idle buffers of each length, the newest first. -/
  buckets : List (List (List α))

namespace BucketPool

def empty (limits : BucketLimits) : BucketPool α :=
  ⟨limits, List.replicate ((bucketIndex? limits.maxBufferLen).elim 0 (· + 1)) []⟩

def bucket? (pool : BucketPool α) (length : Nat) : Option (Nat × List (List α)) := do
  let index ← bucketIndex? length
  let idle ← pool.buckets[index]?
  return (index, idle)

def replaceBucket (pool : BucketPool α) (index : Nat) (idle : List (List α)) : BucketPool α :=
  { pool with buckets := pool.buckets.set index idle }

def idleCount (pool : BucketPool α) : Nat := pool.buckets.flatten.length

def idleSlots (pool : BucketPool α) : List α := pool.buckets.flatten.flatten

/-- The length of the buffers that serve a request within the limit. -/
def servedLen (minLen : Nat) : Nat := roundUpToPowerOfTwo (max minLen minBucketLen)

def rent [Element α] (minLen : Nat) (pool : BucketPool α) : Reply (BucketPool α) (List α) :=
  if pool.limits.maxBufferLen < minLen then
    ⟨.ok (blanks α minLen), pool, [.oversizeRequest minLen]⟩
  else
    let length := servedLen minLen
    match pool.bucket? length with
    | none => ⟨.error (.broken .bucketForLength), pool, []⟩
    | some (_, []) => ⟨.ok (blanks α length), pool, [.bucketEmpty length]⟩
    | some (index, newest :: older) => ⟨.ok newest, pool.replaceBucket index older, []⟩

/-- Keeps the buffer if its bucket has a place left, and drops it otherwise. A buffer that no
request could have been served with is refused. -/
def takeBack [Element α] (slots : List α) (clear : Bool) (pool : BucketPool α) :
    Reply (BucketPool α) (Option RentalError) :=
  let length := slots.length
  if pool.limits.maxBufferLen < length then ⟨.ok none, pool, [.oversizeReturn length]⟩
  else
    match pool.bucket? length with
    | none => ⟨.ok (some (.foreignBuffer length)), pool, []⟩
    | some (index, idle) =>
      if idle.length < pool.limits.maxPerBucket then
        ⟨.ok none, pool.replaceBucket index ((if clear then cleared slots else slots) :: idle), []⟩
      else ⟨.ok none, pool, []⟩

def asPool (α : Type) [Element α] : Pool (BucketPool α) α := ⟨rent, takeBack, fun pool => some pool.idleCount⟩

def shown (pool : BucketPool α) : Text.Shown := .partialRecord "BucketPool" pool.limits.shownFields

end BucketPool

end BufferRental
