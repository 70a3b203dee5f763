import BufferRental.Length
import BufferRental.Text.Quoted
import BufferRental.Text.Shown

/-! What can go wrong. An error is an answer that the caller handles; a panic unwinds through the
caller, running the clean-up of every owner on the way. Both are values that name their cause, and
one function for each writes the text. -/
namespace BufferRental

open Text

inductive RentalError where
  | invalidArgument (parameter problem : String)
  /-- A source failed while a buffer was filled from it; `source` is its own text. -/
  | copyFailed (source : String)
  | capacityOverflow (length : Nat)
  | foreignBuffer (length : Nat)
  deriving DecidableEq

namespace RentalError

def message : RentalError → String
  | invalidArgument parameter problem => s!"invalid argument '{parameter}': {problem}"
  | copyFailed _ => "source failed while populating a pooled buffer"
  | capacityOverflow length => s!"capacity overflow: cannot grow a buffer of {length} elements any further"
  | foreignBuffer length => s!"buffer of length {length} was not issued by this pool"

def source? : RentalError → Option String
  | copyFailed source => some source
  | _ => none

def shown : RentalError → Shown
  | invalidArgument parameter problem => .record "InvalidArgument"
      [("parameter", .atom (quotedString parameter)), ("problem", .atom (quotedString problem))]
  | copyFailed source => .wrapped "CopyFailed" [.atom (quotedString source)]
  | capacityOverflow length => .record "CapacityOverflow" [("length", .nat length)]
  | foreignBuffer length => .record "ForeignBuffer" [("length", .nat length)]

/-- A length that no buffer can have, given as `parameter`. -/
def tooLong (parameter : String) (length limit : Nat) : RentalError :=
  invalidArgument parameter s!"{length} exceeds the maximum buffer length of {limit} elements"

end RentalError

/-- What the library relies on within itself. A broken expectation is a defect of the library; no
pool and no source can bring one about. -/
inductive Expectation where
  /-- A rented buffer reaches as far as was asked. -/
  | requestedRoom
  /-- The elements written so far lie within their buffer. -/
  | writtenRange
  /-- A buffer that has just grown has room for one more element. -/
  | roomAfterGrowth
  /-- The elements shown of a buffer lie within it. -/
  | countWithinBuffer
  /-- Every length up to a pool's limit has a bucket. -/
  | bucketForLength
  deriving DecidableEq

def Expectation.message : Expectation → String
  | requestedRoom => "pool returned a buffer shorter than the requested length - the pool is broken"
  | writtenRange => "written never exceeds length"
  | roomAfterGrowth => "buffer always has room for the next item after growing"
  | countWithinBuffer => "logical count never exceeds the length of the rented buffer"
  | bucketForLength => "every length up to the maximum maps to a bucket"

inductive Panic where
  | shortGrant (requested received : Nat)
  | indexOutOfBounds (length index : Nat)
  /-- A limit that no bucket pool can have. -/
  | bucketLimit (length : Nat)
  | broken (expectation : Expectation)
  /-- An error met where none can be answered. -/
  | unanswerable (error : RentalError)
  /-- Raised outside the library: by a pool, a source, an element or the owner of a buffer. -/
  | raised (text : String)
  deriving DecidableEq

def Panic.message : Panic → String
  | shortGrant requested received =>
    s!"{Expectation.requestedRoom.message}: requested {requested}, received {received}"
  | indexOutOfBounds length index =>
    s!"index out of bounds: the len is {length} but the index is {index}"
  | bucketLimit length =>
    s!"BucketPool max buffer length must be a power of two of at least 16, got {length}"
  | broken expectation => expectation.message
  | unanswerable error => s!"capacity overflow: {error.shown.compact}"
  | raised text => text

end BufferRental
