import BufferRental.Buffer

/-! Reading and changing what a buffer shows. Every operation works on the slots in place and
stops at `count`: no operation reads or changes a spare slot, or the number of slots. -/
namespace BufferRental

inductive ViewOp (α : Type) where
  /-- The elements from `start` up to `stop`, by default all of them. -/
  | slice (start stop : Option Nat)
  | all
  | reversed
  | get (index : Nat)
  | first
  | last
  /-- Like `get`, for an index that is known to be good. -/
  | index (index : Nat)
  | set (index : Nat) (value : α)
  /-- Like `set`, for an index that is known to be good. -/
  | assign (index : Nat) (value : α)
  /-- Overwrites the elements in order, as far as both reach. -/
  | fill (items : List α)
  | swap (i j : Nat)
  | reverse
  | sort
  | contains (value : α)

inductive ViewAnswer (α : Type) where
  | elements (values : List α)
  /-- The range asked for does not lie within the elements. -/
  | outside
  | found (value : Option α)
  | element (value : α)
  | flag (holds : Bool)
  | number (n : Nat)
  | panicked (panic : Panic)

def slice? (values : List α) (start stop : Nat) : Option (List α) :=
  if start ≤ stop && stop ≤ values.length then some ((values.take stop).drop start) else none

/-- Puts items into slots in order, as far as both reach. -/
def overwrite (items slots : List α) : List α := items.take slots.length ++ slots.drop items.length

@[simp] theorem length_overwrite (items slots : List α) :
    (overwrite items slots).length = slots.length := by simp [overwrite]; omega

def swapSlots (slots : List α) (i j : Nat) : List α :=
  match slots[i]?, slots[j]? with
  | some x, some y => (slots.set i y).set j x
  | _, _ => slots

@[simp] theorem length_swapSlots (slots : List α) (i j : Nat) :
    (swapSlots slots i j).length = slots.length := by
  unfold swapSlots; split <;> simp

namespace Buffer

def edit (buffer : Buffer ι α) (change : List α → List α)
    (keeps : ∀ slots, (change slots).length = slots.length) : Buffer ι α :=
  { buffer with
    slots := buffer.slots.map change
    count_le := by
      have := buffer.count_le
      cases h : buffer.slots <;> simp_all }

/-- Changes only the first `count` slots. -/
def editShown (buffer : Buffer ι α) (change : List α → List α)
    (keeps : ∀ slots, (change slots).length = slots.length) : Buffer ι α :=
  buffer.edit (fun slots => change (slots.take buffer.count) ++ slots.drop buffer.count)
    (by intro slots; simp [keeps]; omega)

@[simp] theorem spare_editShown (buffer : Buffer ι α) (change : List α → List α)
    (keeps : ∀ slots, (change slots).length = slots.length) :
    (buffer.editShown change keeps).spare = buffer.spare := by
  have bound := buffer.count_le
  cases held : buffer.slots with
  | none => simp [editShown, edit, spare, held]
  | some slots =>
    have size : (change (slots.take buffer.count)).length = buffer.count := by
      simp only [held, Option.getD_some] at bound
      simp [keeps, bound]
    simp [editShown, edit, spare, held, size]

def get? (buffer : Buffer ι α) (index : Nat) : Option α :=
  if index < buffer.count then (buffer.slots.getD [])[index]? else none

def outOfBounds (buffer : Buffer ι α) (index : Nat) : ViewAnswer α :=
  .panicked (.indexOutOfBounds buffer.count index)

def perform [Element α] (buffer : Buffer ι α) : ViewOp α → ViewAnswer α × Buffer ι α
  | .slice start stop =>
    match slice? buffer.elements (start.getD 0) (stop.getD buffer.count) with
    | some values => (.elements values, buffer)
    | none => (.outside, buffer)
  | .all => (.elements buffer.elements, buffer)
  | .reversed => (.elements buffer.elements.reverse, buffer)
  | .get index => (.found (buffer.get? index), buffer)
  | .first => (.found (buffer.get? 0), buffer)
  | .last => (.found (if buffer.isEmpty then none else buffer.get? (buffer.count - 1)), buffer)
  | .index index =>
    match buffer.get? index with
    | some value => (.element value, buffer)
    | none => (buffer.outOfBounds index, buffer)
  | .set index value =>
    if index < buffer.count then
      (.flag true, buffer.edit (·.set index value) fun _ => List.length_set)
    else (.flag false, buffer)
  | .assign index value =>
    if index < buffer.count then
      (.flag true, buffer.edit (·.set index value) fun _ => List.length_set)
    else (buffer.outOfBounds index, buffer)
  | .fill items =>
    (.number (min items.length buffer.count), buffer.editShown (overwrite items) (length_overwrite items))
  | .swap i j =>
    if buffer.count ≤ i then (buffer.outOfBounds i, buffer)
    else if buffer.count ≤ j then (buffer.outOfBounds j, buffer)
    else (.flag true, buffer.edit (swapSlots · i j) fun _ => length_swapSlots ..)
  | .reverse => (.flag true, buffer.editShown List.reverse fun _ => List.length_reverse)
  | .sort =>
    match Element.order (α := α) with
    | none => (.flag false, buffer)
    | some before =>
      (.flag true, buffer.editShown (·.mergeSort before) fun _ => List.length_mergeSort _)
  | .contains value => (.flag (buffer.elements.any (Element.same · value)), buffer)

end Buffer

end BufferRental
