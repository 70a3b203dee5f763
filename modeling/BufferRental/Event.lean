import BufferRental.Fault

/-! What can be seen of a call from outside: the requests that a pool gets and its answers, the
log, and what is asked of a source. A journal is the list of these events in the order in which
they happen; everything that is observed about traffic is read off it. -/
namespace BufferRental

inductive Level where
  | trace
  | debug
  deriving DecidableEq

def Level.name : Level → String
  | trace => "TRACE"
  | debug => "DEBUG"

inductive Note where
  | rented (requested received : Nat)
  | growing (current next : Nat)
  | oversizeRequest (minLen : Nat)
  | bucketEmpty (bufferLen : Nat)
  | oversizeReturn (length : Nat)
  | returnRejected (error : RentalError)
  deriving DecidableEq

inductive Field where
  | number (n : Nat)
  | text (s : String)
  deriving DecidableEq

namespace Note

def level : Note → Level
  | rented .. | growing .. | oversizeRequest _ | bucketEmpty _ => .trace
  | oversizeReturn _ | returnRejected _ => .debug

def message : Note → String
  | rented .. => "rented buffer"
  | growing .. => "growing pooled buffer"
  | oversizeRequest _ => "request exceeds largest bucket, allocating unpooled buffer"
  | bucketEmpty _ => "bucket empty, allocating new buffer"
  | oversizeReturn _ => "dropping returned buffer that is larger than any bucket"
  | returnRejected _ => "pool rejected returned buffer, dropping it instead"

def fields : Note → List (String × Field)
  | rented requested received => [("requested", .number requested), ("received", .number received)]
  | growing current next => [("from", .number current), ("to", .number next)]
  | oversizeRequest minLen => [("min_len", .number minLen)]
  | bucketEmpty bufferLen => [("buffer_len", .number bufferLen)]
  | oversizeReturn length => [("length", .number length)]
  | returnRejected error => [("error", .text error.message)]

end Note

inductive Verdict where
  | accepted
  | refused (error : RentalError)
  | panicked
  deriving DecidableEq

inductive Event (α : Type) where
  /-- A pool was asked for a buffer; it lent one, or panicked. -/
  | rented (request : Nat) (granted : Option (List α))
  /-- A pool was handed a buffer, with these slots. -/
  | returned (slots : List α) (clear : Bool) (verdict : Verdict)
  | noted (note : Note)
  /-- An item was taken from an iterator, a failing one included. -/
  | pulled
  /-- An element was cloned successfully. -/
  | cloned (value : α)
  /-- A bulk source was asked its length. -/
  | measured (length : Nat)
  /-- A source was given these slots to copy into. -/
  | offered (target : List α)

abbrev Journal (α : Type) := List (Event α)

namespace Journal

def notes (journal : Journal α) : List Note :=
  journal.filterMap fun | .noted note => some note | _ => none

def isTraffic : Event α → Bool
  | .rented .. | .returned .. => true
  | _ => false

def traffic (journal : Journal α) : Journal α := journal.filter isTraffic

def isReturn : Event α → Bool
  | .returned .. => true
  | _ => false

def returns (journal : Journal α) : Nat := journal.countP isReturn

def isPull : Event α → Bool
  | .pulled => true
  | _ => false

def pulls (journal : Journal α) : Nat := journal.countP isPull

def isClone : Event α → Bool
  | .cloned _ => true
  | _ => false

def clones (journal : Journal α) : Nat := journal.countP isClone

def isMeasurement : Event α → Bool
  | .measured _ => true
  | _ => false

def measurements (journal : Journal α) : Nat := journal.countP isMeasurement

/-- How many slots a source was last given, if it was given any. -/
def offeredLen (journal : Journal α) : Option Nat :=
  journal.foldl (fun last event => match event with
    | .offered target => some target.length
    | _ => last) none

end Journal

end BufferRental
