import BufferRental.Pool
import BufferRental.Source

/-! Renting a buffer and filling it. However filling ends, the buffer that is held at that moment
is settled: kept if all went well, and otherwise handed back before the failure reaches the
caller. A buffer that is filled without knowing how much will come grows by moving what is
written so far into a larger one, and the outgrown one goes back at once. -/
namespace BufferRental

/-- What filling leaves: the rented slots, unless nothing was rented, and how many of them, from
the first, hold elements. -/
structure Populated (α : Type) where
  slots : Option (List α)
  count : Nat

/-- A buffer that is being filled from the front. -/
structure Filling (α : Type) where
  array : Array α
  written : Nat

namespace Filling

def start (slots : List α) : Filling α := ⟨slots.toArray, 0⟩

def slots (filling : Filling α) : List α := filling.array.toList

def isFull (filling : Filling α) : Bool := filling.array.size ≤ filling.written

def put (filling : Filling α) (value : α) : Filling α :=
  ⟨filling.array.setIfInBounds filling.written value, filling.written + 1⟩

@[simp] theorem slots_start (slots : List α) : (start slots).slots = slots := rfl

@[simp] theorem written_start (slots : List α) : (start slots).written = 0 := rfl

theorem isFull_iff {filling : Filling α} :
    filling.isFull = true ↔ filling.slots.length ≤ filling.written := by
  simp [isFull, slots]

@[simp] theorem slots_put (filling : Filling α) (value : α) :
    (filling.put value).slots = filling.slots.set filling.written value := by simp [put, slots]

@[simp] theorem written_put (filling : Filling α) (value : α) :
    (filling.put value).written = filling.written + 1 := rfl

@[simp] theorem length_put (filling : Filling α) (value : α) :
    (filling.put value).slots.length = filling.slots.length := by simp

/-- A slot that is written joins the written ones and leaves the others as they are. -/
theorem put_slots {filling : Filling α} (room : filling.isFull = false) (value : α) :
    (filling.put value).slots.take (filling.written + 1) =
        filling.slots.take filling.written ++ [value] ∧
      (filling.put value).slots.drop (filling.written + 1) =
        filling.slots.drop (filling.written + 1) := by
  have bound : filling.written < filling.slots.length := by
    rw [← Nat.not_le, ← isFull_iff, room]; simp
  constructor
  · rw [slots_put, List.take_add_one, List.take_set_of_le (Nat.le_refl _)]
    simp [bound]
  · rw [slots_put]
    exact List.drop_set_of_lt (Nat.lt_succ_self _)

/-- Moves what is written into another buffer by swapping, so that the outgrown buffer gets the
first slots of the other one in exchange. -/
def moveInto (filling : Filling α) (slots : List α) :
    Except Expectation (Filling α × List α) :=
  if slots.length < filling.written then .error .requestedRoom
  else if filling.slots.length < filling.written then .error .writtenRange
  else .ok
    (⟨(filling.slots.take filling.written ++ slots.drop filling.written).toArray, filling.written⟩,
      slots.take filling.written ++ filling.slots.drop filling.written)

def populated (filling : Filling α) : Populated α := ⟨some filling.slots, filling.written⟩

end Filling

def CopyEnding.exit : CopyEnding → Exit Unit
  | finished => .done ()
  | failed text => .failed (.copyFailed text)
  | panicked panic => .panicked panic

namespace Pool

/-- Ends a population that holds `slots`. Every ending but success hands them back first. -/
def settle (pool : Pool σ α) (clear : Bool) (slots : List α) : Exit β → Act σ α β
  | .done value => return value
  | .failed error => do
    pool.giveBack slots clear
    Act.fail error
  | .panicked panic => Act.whileUnwinding panic (pool.giveBack slots clear)
  | .aborted => Act.leave .aborted

def checkLen (α : Type) [Element α] (parameter : String) (length : Nat) : Act σ α Unit :=
  if Element.maxLen α < length then Act.fail (.tooLong parameter length (Element.maxLen α))
  else return ()

def withCount [Element α] (pool : Pool σ α) (count : Nat) : Act σ α (Populated α) := do
  checkLen α "count" count
  if count = 0 then return ⟨none, 0⟩
  let slots ← pool.rentChecked count
  return ⟨some slots, count⟩

/-- Offers the first `length` slots of a rented buffer to `copy`, which fills them all at once. -/
def fillAtOnce (pool : Pool σ α) (clear : Bool) (length : Nat) (slots : List α)
    (copy : List α → Copy α) : Act σ α (Populated α) := do
  if slots.length < length then
    pool.settle clear slots (.panicked (.broken .requestedRoom))
  else
    let target := slots.take length
    let copied := copy target
    let filled := copied.target ++ slots.drop length
    Act.record (.offered target :: copied.cloned.map .cloned)
    pool.settle clear filled (copied.ending.exit.map fun _ => ⟨some filled, length⟩)

def copySlice [Element α] (pool : Pool σ α) (clear : Bool) (source : List α) :
    Act σ α (Populated α) := do
  if source.isEmpty then return ⟨none, 0⟩
  let slots ← pool.rentChecked source.length
  pool.fillAtOnce clear source.length slots (cloneRun source)

/-- Rents a buffer and lets a bulk source copy into it. The source is asked its length once, and
that answer decides how much is rented, offered and counted. -/
def copyFrom [Element α] (pool : Pool σ α) (clear : Bool) (source : BulkSource α) :
    Act σ α (Populated α) := do
  let length := source.lengthAt 0
  Act.record [.measured length]
  if length = 0 then return ⟨none, 0⟩
  checkLen α "count" length
  let slots ← pool.rentChecked length
  pool.fillAtOnce clear length slots source.copyTo

/-- Writes items into the first `room` slots. A slot is found before an item is asked for, so no
item is taken that has no place. -/
def assignItems (room : Nat) : List (Yield α) → Filling α → Act σ α (Filling α × Exit Unit)
  | [], filling => return (filling, .done ())
  | turn :: rest, filling => do
    if room ≤ filling.written || filling.isFull then return (filling, .done ())
    Act.record [.pulled]
    match turn with
    | .panic text => return (filling, .panicked (.raised text))
    | .item value => assignItems room rest (filling.put value)

/-- Rents as many slots as an iterator reports and takes at most as many items. If fewer come,
only those count. -/
def collectExact [Element α] (pool : Pool σ α) (clear : Bool) (reported : Nat)
    (items : List (Yield α)) : Act σ α (Populated α) := do
  if reported = 0 then return ⟨none, 0⟩
  checkLen α "count" reported
  let slots ← pool.rentChecked reported
  let (filling, ending) ← assignItems reported items (.start slots)
  pool.settle clear filling.slots (ending.map fun _ => filling.populated)

/-- Replaces a full buffer by one of at least twice its length. The result is the buffer that is
held afterwards, which is still the old one if no larger one can be had. -/
def grow (pool : Pool σ α) (clear : Bool) (limit : Nat) (filling : Filling α) :
    Act σ α (Filling α × Exit Unit) := do
  let current := filling.slots.length
  match nextLen current limit with
  | none => return (filling, .failed (.capacityOverflow current))
  | some next =>
    Act.note (.growing current next)
    match ← Act.attempt (pool.rentChecked next) with
    | .done slots =>
      match filling.moveInto slots with
      | .error expectation => return (filling, .panicked (.broken expectation))
      | .ok (grown, outgrown) =>
        let ending ← Act.attempt (pool.giveBack outgrown clear)
        return (grown, ending)
    | exit => return (filling, exit.map fun _ => ())

/-- Takes every item, growing when one comes that has no place. A failing item is noticed before
room is made for it. -/
def appendItems (pool : Pool σ α) (clear : Bool) (limit : Nat) :
    List (Yield (Except String α)) → Filling α → Act σ α (Filling α × Exit Unit)
  | [], filling => return (filling, .done ())
  | turn :: rest, filling => do
    Act.record [.pulled]
    match turn with
    | .panic text => return (filling, .panicked (.raised text))
    | .item (.error text) => return (filling, .failed (.copyFailed text))
    | .item (.ok value) =>
      let (filling, ending) ←
        if filling.isFull then pool.grow clear limit filling else pure (filling, .done ())
      match ending with
      | .done () =>
        if filling.isFull then return (filling, .panicked (.broken .roomAfterGrowth))
        else appendItems pool clear limit rest (filling.put value)
      | stopped => return (filling, stopped)

/-- Takes all items of an iterator whose items may fail, starting with room for `capacity` of
them, and for one at least. -/
def tryCollect [Element α] (pool : Pool σ α) (clear : Bool) (capacity : Nat)
    (items : List (Yield (Except String α))) : Act σ α (Populated α) := do
  checkLen α "capacity" capacity
  let slots ← pool.rentChecked (max capacity 1)
  let (filling, ending) ← pool.appendItems clear (Element.maxLen α) items (.start slots)
  pool.settle clear filling.slots (ending.map fun _ => filling.populated)

def collect [Element α] (pool : Pool σ α) (clear : Bool) (capacity : Nat)
    (items : List (Yield α)) : Act σ α (Populated α) :=
  pool.tryCollect clear capacity (items.map (Yield.map Except.ok))

end Pool

end BufferRental
