import BufferRental.Buffer.View
import BufferRental.Ownership
import BufferRental.Settings

/-! Sessions: many buffers in use at a time, each under a name of its own. Two pools are at hand,
one chosen for the session and one that everybody shares. A session is played step by step; every
step is answered, also one that fails, and leaves a journal of what it made of the pools. -/
namespace BufferRental

inductive Handle where
  | own
  | shared
  deriving DecidableEq

structure Session (σ α : Type) where
  world : σ
  buffers : List (String × Buffer Handle α)
  raws : List (String × List α)

inductive Construction (α : Type) where
  | populate (settings : List (Setting Handle)) (method : Method α)
  | new
  | fromIterator (hint : Nat) (items : List (Yield α))

inductive RawStep (α : Type) where
  | rent (handle : Handle) (minLen : Nat)
  | handBack (handle : Handle) (clear : Bool)
  /-- Hands in a buffer with these slots that no pool has lent. -/
  | handIn (handle : Handle) (slots : List α) (clear : Bool)
  | forget
  | view (start stop : Option Nat)
  | fill (start : Nat) (items : List α)

inductive Step (α : Type) where
  | build (slot : String) (construction : Construction α)
  | describe (slot : String)
  | view (slot : String) (operation : ViewOp α)
  | compare (slot other : String)
  | inspect (slot : String) (pretty : Bool)
  | giveUp (slot : String)
  | release (slot : String)
  /-- The owner of the buffer panics, and the buffer is given up on the way. -/
  | unwind (slot : String)
  /-- The buffer gets `clones` owners beside the first; the first leaves and then the others, or
  with `parallel` the others read the length and leave, and then the first. -/
  | share (slot : String) (clones : Nat) (parallel : Bool)
  | raw (slot : String) (step : RawStep α)
  | countIdle

inductive Misuse where
  | noSuchSlot
  | slotInUse
  deriving DecidableEq

def Misuse.message : Misuse → String
  | noSuchSlot => "no such slot"
  | slotInUse => "slot in use"

inductive Answer (α : Type) where
  | ok
  | description (description : Description)
  | view (answer : ViewAnswer α)
  | equality (equal : Bool)
  | text (text : String)
  /-- How many returns were seen after each of several owners had left. -/
  | returnsSeen (totals : List Nat)
  | parallelReturns (lengths : List Nat) (early after : Nat)
  | number (n : Nat)
  | idle (count : Option Nat)
  | finished
  | failed (error : RentalError)
  | panicked (panic : Panic)
  | aborted
  | misused (misuse : Misuse)

def Answer.ofExit (answer : β → Answer α) : Exit β → Answer α
  | .done value => answer value
  | .failed error => .failed error
  | .panicked panic => .panicked panic
  | .aborted => .aborted

/-- A step played: its answer, its journal, by pool, and the session after it. -/
structure Turn (σ α : Type) where
  answer : Answer α
  journal : List (Handle × Event α)
  session : Session σ α

namespace Turn

def events (turn : Turn σ α) : Journal α := turn.journal.map (·.2)

/-- The requests to the session's own pool. -/
def ownTraffic (turn : Turn σ α) : Journal α :=
  Journal.traffic ((turn.journal.filter (·.1 = .own)).map (·.2))

end Turn

namespace Construction

/-- The pool that the buffer will belong to. -/
def handle : Construction α → Handle
  | populate settings _ => (Settings.ofList .shared settings).handle
  | new | fromIterator .. => .shared

def run [Element α] (pools : Handle → Pool σ α) : Construction α → Act σ α (Buffer Handle α)
  | populate settings method => (Settings.ofList .shared settings).build pools method
  | new => return Buffer.new α .shared
  | fromIterator hint items => Buffer.fromIterator pools .shared hint items

end Construction

namespace Shares

/-- How many returns can be told to have happened since `before`: those that the session's own pool
was handed, and for the shared pool those that it keeps. -/
def seen (pools : Handle → Pool σ α) (handle : Handle) (before now : σ) (returns : Nat) : Nat :=
  match handle with
  | .own => returns
  | .shared => ((pools .shared).idle now).getD 0 - ((pools .shared).idle before).getD 0

def leaveEach (pools : Handle → Pool σ α) (before : σ) :
    Nat → Nat → Shares Handle α → Act σ α (List Nat)
  | 0, _, _ => return []
  | owners + 1, returns, shares => do
    let (shares, journal) ← (shares.leave pools).listen
    let returns := returns + journal.returns
    let now ← Act.get
    let later ← leaveEach pools before owners returns shares
    return seen pools shares.buffer.handle before now returns :: later

def answer (clones : Nat) (parallel : Bool) (shares : Shares Handle α) (totals : List Nat) :
    Answer α :=
  if parallel then
    .parallelReturns (List.replicate clones shares.read) ((totals.take clones).getLastD 0)
      (totals.getLastD 0)
  else .returnsSeen totals.tail

end Shares

namespace Session

def start (world : σ) : Session σ α := ⟨world, [], []⟩

def buffer? (session : Session σ α) (slot : String) : Option (Buffer Handle α) :=
  session.buffers.lookup slot

def raw? (session : Session σ α) (slot : String) : Option (List α) := session.raws.lookup slot

def isFree (session : Session σ α) (slot : String) : Bool :=
  (session.buffer? slot).isNone && (session.raw? slot).isNone

def without (named : List (String × β)) (slot : String) : List (String × β) :=
  named.filter (·.1 != slot)

def dropBuffer (session : Session σ α) (slot : String) : Session σ α :=
  { session with buffers := without session.buffers slot }

def dropRaw (session : Session σ α) (slot : String) : Session σ α :=
  { session with raws := without session.raws slot }

def putBuffer (session : Session σ α) (slot : String) (buffer : Buffer Handle α) : Session σ α :=
  { session with buffers := (slot, buffer) :: without session.buffers slot }

def putRaw (session : Session σ α) (slot : String) (slots : List α) : Session σ α :=
  { session with raws := (slot, slots) :: without session.raws slot }

def reply (session : Session σ α) (answer : Answer α) : Turn σ α := ⟨answer, [], session⟩

def misuse (session : Session σ α) (misuse : Misuse) : Turn σ α := session.reply (.misused misuse)

/-- Runs an act on the pool of a handle and answers with how it ends; a value it ends with may
change the session. -/
def call (session : Session σ α) (handle : Handle) (act : Act σ α β) (answer : β → Answer α)
    (change : β → Session σ α → Session σ α) : Turn σ α :=
  let outcome := act.run session.world
  let after := { session with world := outcome.state }
  ⟨.ofExit answer outcome.exit, outcome.journal.map (handle, ·),
    match outcome.exit with
    | .done value => change value after
    | _ => after⟩

def ownerPanic : Panic := .raised "owner panicked"

def rawStep (pools : Handle → Pool σ α) (session : Session σ α) (slot : String) :
    RawStep α → Turn σ α
  | .rent handle minLen =>
    if session.isFree slot then
      session.call handle ((pools handle).rentAny minLen) (.number ·.length)
        fun slots session => session.putRaw slot slots
    else session.misuse .slotInUse
  | .handIn handle slots clear =>
    session.call handle ((pools handle).handBack slots clear) (·.elim .ok .failed) fun _ => id
  | .handBack handle clear =>
    match session.raw? slot with
    | none => session.misuse .noSuchSlot
    | some slots =>
      (session.dropRaw slot).call handle ((pools handle).handBack slots clear) (·.elim .ok .failed)
        fun _ => id
  | .forget =>
    match session.raw? slot with
    | none => session.misuse .noSuchSlot
    | some _ => (session.dropRaw slot).reply .ok
  | .view start stop =>
    match session.raw? slot with
    | none => session.misuse .noSuchSlot
    | some slots =>
      session.reply (.view ((slice? slots (start.getD 0) (stop.getD slots.length)).elim .outside .elements))
  | .fill start items =>
    match session.raw? slot with
    | none => session.misuse .noSuchSlot
    | some slots =>
      (session.putRaw slot (slots.take start ++ overwrite items (slots.drop start))).reply
        (.number (min items.length (slots.length - start)))

def step [Element α] (pools : Handle → Pool σ α) (session : Session σ α) : Step α → Turn σ α
  | .build slot construction =>
    if session.isFree slot then
      session.call construction.handle (construction.run pools) (.description ·.description)
        fun buffer session => session.putBuffer slot buffer
    else session.misuse .slotInUse
  | .describe slot =>
    match session.buffer? slot with
    | none => session.misuse .noSuchSlot
    | some buffer => session.reply (.description buffer.description)
  | .view slot operation =>
    match session.buffer? slot with
    | none => session.misuse .noSuchSlot
    | some buffer =>
      let (answer, buffer) := buffer.perform operation
      (session.putBuffer slot buffer).reply (.view answer)
  | .compare slot other =>
    match session.buffer? slot, session.buffer? other with
    | some left, some right => session.reply (.equality (left.same right))
    | _, _ => session.misuse .noSuchSlot
  | .inspect slot pretty =>
    match session.buffer? slot with
    | none => session.misuse .noSuchSlot
    | some buffer =>
      session.reply (.text (if pretty then buffer.shown.pretty else buffer.shown.compact))
  | .giveUp slot =>
    match session.buffer? slot with
    | none => session.misuse .noSuchSlot
    | some buffer =>
      (session.dropBuffer slot).call buffer.handle (buffer.giveUp pools) (fun _ => .ok) fun _ => id
  | .release slot =>
    match session.buffer? slot with
    | none => session.misuse .noSuchSlot
    | some buffer =>
      (session.dropBuffer slot).call buffer.handle (buffer.release pools) (fun _ => .ok) fun _ => id
  | .unwind slot =>
    match session.buffer? slot with
    | none => session.misuse .noSuchSlot
    | some buffer =>
      (session.dropBuffer slot).call buffer.handle
        (Act.whileUnwinding ownerPanic (buffer.giveUp pools) : Act σ α Unit) (fun _ => .ok) fun _ => id
  | .share slot clones parallel =>
    match session.buffer? slot with
    | none => session.misuse .noSuchSlot
    | some buffer =>
      let shares : Shares Handle α := ⟨clones + 1, buffer⟩
      (session.dropBuffer slot).call buffer.handle
        (shares.leaveEach pools session.world (clones + 1) 0) (shares.answer clones parallel) fun _ => id
  | .raw slot step => session.rawStep pools slot step
  | .countIdle => session.reply (.idle ((pools .own).idle session.world))

/-- Gives up buffers one after the other, each on its own, so that a panic stops none of the rest.
The first ending that is not a plain one is reported. -/
def giveUpAll (pools : Handle → Pool σ α) :
    List (Buffer Handle α) → σ → Answer α × List (Handle × Event α) × σ
  | [], world => (.finished, [], world)
  | buffer :: rest, world =>
    let outcome := (buffer.giveUp pools).run world
    let (later, journal, last) := giveUpAll pools rest outcome.state
    (match outcome.exit with
      | .done () => later
      | exit => .ofExit (fun _ => .finished) exit,
      outcome.journal.map (buffer.handle, ·) ++ journal, last)

/-- The end of a session: the live buffers are given up in the order of their names, and the raw
ones are forgotten. -/
def close (pools : Handle → Pool σ α) (session : Session σ α) : Turn σ α :=
  let byName := session.buffers.mergeSort fun a b => a.1 ≤ b.1
  let (answer, journal, world) := giveUpAll pools (byName.map (·.2)) session.world
  ⟨answer, journal, start world⟩

def play [Element α] (pools : Handle → Pool σ α) (session : Session σ α) :
    List (Step α) → List (Turn σ α)
  | [] => [session.close pools]
  | step :: rest =>
    let turn := session.step pools step
    turn :: play pools turn.session rest

end Session

end BufferRental
