import BufferRental.Element

/-! Where the elements of a new buffer come from: iterators, which yield one item after the other,
and bulk sources, which know their length and copy everything at once. -/
namespace BufferRental

/-- One turn of an iterator. It yields an item, or panics in producing it. -/
inductive Yield (β : Type) where
  | item (value : β)
  | panic (text : String)

def Yield.map (f : β → γ) : Yield β → Yield γ
  | item value => .item (f value)
  | panic text => .panic text

inductive CopyEnding where
  | finished
  | failed (text : String)
  | panicked (panic : Panic)

structure Copy (α : Type) where
  target : List α
  cloned : List α
  ending : CopyEnding

/-- Clones the elements one by one into the slots of the target, up to the end of either or the
first panic. -/
def cloneRun [Element α] : List α → List α → Copy α
  | x :: source, slot :: target =>
    match Element.clone x with
    | .ok value =>
      let rest := cloneRun source target
      ⟨value :: rest.target, value :: rest.cloned, rest.ending⟩
    | .error panic => ⟨slot :: target, [], .panicked panic⟩
  | _, target => ⟨target, [], .finished⟩

theorem length_cloneRun [Element α] (source target : List α) :
    (cloneRun source target).target.length = target.length := by
  induction source generalizing target with
  | nil => rfl
  | cons x source ih =>
    cases target with
    | nil => rfl
    | cons slot target =>
      unfold cloneRun
      split
      · simp [ih]
      · rfl

/-- Clones two runs of elements, the second into the slots behind the first. -/
def cloneRuns [Element α] (front back target : List α) : Copy α :=
  let first := cloneRun front (target.take front.length)
  match first.ending with
  | .finished =>
    let second := cloneRun back (target.drop front.length)
    ⟨first.target ++ second.target, first.cloned ++ second.cloned, second.ending⟩
  | ending => ⟨first.target ++ target.drop front.length, first.cloned, ending⟩

theorem length_cloneRuns [Element α] (front back target : List α) :
    (cloneRuns front back target).target.length = target.length := by
  have front_length := length_cloneRun front (target.take front.length)
  have back_length := length_cloneRun back (target.drop front.length)
  simp only [List.length_take, List.length_drop] at front_length back_length
  unfold cloneRuns
  dsimp only
  split <;> simp [front_length, back_length] <;> omega

/-- Any source that can be asked its length, and may answer differently each time, and that copies
into slots without changing their number. -/
structure BulkSource (α : Type) where
  /-- The answer to the question number `n`, counted from zero. -/
  lengthAt : Nat → Nat
  copyTo : List α → Copy α
  length_copyTo : ∀ target, (copyTo target).target.length = target.length

namespace BulkSource

def ofList [Element α] (elements : List α) : BulkSource α :=
  ⟨fun _ => elements.length, cloneRun elements, length_cloneRun elements⟩

def ofRuns [Element α] (front back : List α) : BulkSource α :=
  ⟨fun _ => front.length + back.length, cloneRuns front back, length_cloneRuns front back⟩

/-- Moves as many items as fit to the front of the target and then ends as told. The lengths are
answered in turn, the last one from then on. -/
def scripted (lengths : List Nat) (items : List α) (ending : CopyEnding) : BulkSource α where
  lengthAt question := lengths.getD question (lengths.getLastD items.length)
  copyTo target := ⟨items.take target.length ++ target.drop items.length, [], ending⟩
  length_copyTo target := by simp; omega

end BulkSource

structure TwoRuns (α : Type) where
  front : List α
  back : List α

inductive QueueStep (α : Type) where
  | pushBack (value : α)
  | pushFront (value : α)
  | popBack
  | popFront

namespace TwoRuns

def empty : TwoRuns α := ⟨[], []⟩

def toList (queue : TwoRuns α) : List α := queue.front ++ queue.back

def step (queue : TwoRuns α) : QueueStep α → TwoRuns α
  | .pushBack value => ⟨queue.front, queue.back ++ [value]⟩
  | .pushFront value => ⟨value :: queue.front, queue.back⟩
  | .popBack => if queue.back.isEmpty then ⟨queue.front.dropLast, []⟩ else ⟨queue.front, queue.back.dropLast⟩
  | .popFront => if queue.front.isEmpty then ⟨[], queue.back.tail⟩ else ⟨queue.front.tail, queue.back⟩

def ofSteps (steps : List (QueueStep α)) : TwoRuns α := steps.foldl step empty

@[simp] theorem toList_pushBack (queue : TwoRuns α) (value : α) :
    (queue.step (.pushBack value)).toList = queue.toList ++ [value] := by simp [step, toList]

@[simp] theorem toList_pushFront (queue : TwoRuns α) (value : α) :
    (queue.step (.pushFront value)).toList = value :: queue.toList := by simp [step, toList]

@[simp] theorem toList_popBack (queue : TwoRuns α) :
    (queue.step .popBack).toList = queue.toList.dropLast := by
  obtain ⟨front, back⟩ := queue
  cases back with
  | nil => simp [step, toList]
  | cons x xs => simp [step, toList, List.dropLast_append_of_ne_nil]

@[simp] theorem toList_popFront (queue : TwoRuns α) :
    (queue.step .popFront).toList = queue.toList.tail := by
  obtain ⟨front, back⟩ := queue
  cases front <;> simp [step, toList]

end TwoRuns

end BufferRental
