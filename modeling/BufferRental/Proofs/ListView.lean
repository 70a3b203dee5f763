import BufferRental.Buffer.View
import BufferRental.Element.Kind

/-! What a buffer shows as a list of its own. Every operation answers as it does on the list of the
elements and leaves that list as the operation leaves it; the spare slots, their number and all
else stay as they were. So nothing but the elements decides any answer. -/
namespace BufferRental

def inTurn (perform : γ → ω → δ × γ) : γ → List ω → List δ × γ
  | state, [] => ([], state)
  | state, operation :: rest =>
    let (answer, next) := perform state operation
    let (answers, last) := inTurn perform next rest
    (answer :: answers, last)

/-- The answer of an operation on a list of fixed length, and the list after it. -/
def ViewOp.onList [Element α] (values : List α) : ViewOp α → ViewAnswer α × List α
  | .slice start stop =>
    match slice? values (start.getD 0) (stop.getD values.length) with
    | some part => (.elements part, values)
    | none => (.outside, values)
  | .all => (.elements values, values)
  | .reversed => (.elements values.reverse, values)
  | .get i => (.found values[i]?, values)
  | .first => (.found values.head?, values)
  | .last => (.found values.getLast?, values)
  | .index i =>
    match values[i]? with
    | some value => (.element value, values)
    | none => (.panicked (.indexOutOfBounds values.length i), values)
  | .set i value => (.flag (i < values.length), values.set i value)
  | .assign i value =>
    if i < values.length then (.flag true, values.set i value)
    else (.panicked (.indexOutOfBounds values.length i), values)
  | .fill items => (.number (min items.length values.length), overwrite items values)
  | .swap i j =>
    match values[i]?, values[j]? with
    | none, _ => (.panicked (.indexOutOfBounds values.length i), values)
    | some _, none => (.panicked (.indexOutOfBounds values.length j), values)
    | some x, some y => (.flag true, (values.set i y).set j x)
  | .reverse => (.flag true, values.reverse)
  | .sort =>
    match Element.order (α := α) with
    | none => (.flag false, values)
    | some before => (.flag true, values.mergeSort before)
  | .contains value => (.flag (values.any (Element.same · value)), values)

/-- The indices at which an operation finds an element or panics. -/
def ViewOp.indices : ViewOp α → List Nat
  | .index i | .assign i _ => [i]
  | .swap i j => [i, j]
  | _ => []

def Text.Shown.part? (label : String) : Shown → Option Shown
  | .group _ _ _ _ parts => parts.findSome? fun
    | .labelled name value => if name = label then some value else none
    | _ => none
  | _ => none

/-- An operation panics just for an index beyond the end, the first one if there are two. -/
theorem ViewOp.onList_panicked_iff [Element α] {values : List α} {operation : ViewOp α}
    {panic : Panic} : (operation.onList values).1 = .panicked panic ↔
      ∃ i, operation.indices.find? (values.length ≤ ·) = some i ∧
        panic = .indexOutOfBounds values.length i := by
  cases operation with
  | slice start stop =>
    simp only [onList, indices]
    cases slice? values (start.getD 0) (stop.getD values.length) <;> simp
  | sort =>
    simp only [onList, indices]
    cases Element.order (α := α) <;> simp
  | all | reversed | get | first | last | set | fill | reverse | contains => simp [onList, indices]
  | index i =>
    by_cases bound : i < values.length
    · simp [onList, indices, bound]
    · simp [onList, indices, bound, Nat.not_lt.mp bound, eq_comm]
  | assign i value =>
    by_cases bound : i < values.length
    · simp [onList, indices, bound]
    · simp [onList, indices, bound, Nat.not_lt.mp bound, eq_comm]
  | swap i j =>
    by_cases first : i < values.length
    · by_cases second : j < values.length
      · simp [onList, indices, first, second]
      · simp [onList, indices, first, second, Nat.not_lt.mp second, eq_comm]
    · simp [onList, indices, first, Nat.not_lt.mp first, eq_comm]

theorem Element.sameAll_iff [Element α] {xs ys : List α} : sameAll xs ys = true ↔
    xs.length = ys.length ∧ ∀ pair ∈ xs.zip ys, same pair.1 pair.2 = true := by
  induction xs generalizing ys with
  | nil => cases ys <;> simp [sameAll]
  | cons x xs ih =>
    cases ys with
    | nil => simp [sameAll]
    | cons y ys =>
      simp only [sameAll, Bool.and_eq_true, ih, List.length_cons, List.zip_cons_cons,
        List.forall_mem_cons, Nat.add_right_cancel_iff]
      exact and_left_comm

theorem swapSlots_append {front : List α} (back : List α) {i j : Nat} (first : i < front.length)
    (second : j < front.length) :
    swapSlots (front ++ back) i j = swapSlots front i j ++ back := by
  simp [swapSlots, List.getElem?_append_left, first, second, List.set_append_left]

namespace Buffer

variable {buffer : Buffer ι α}

/-- Only what is shown may differ between two states of a buffer. -/
structure Kept (before after : Buffer ι α) : Prop where
  count : after.count = before.count
  clear : after.clear = before.clear
  handle : after.handle = before.handle
  lengths : after.slots.map List.length = before.slots.map List.length
  spare : after.spare = before.spare

namespace Kept

variable {before middle after : Buffer ι α}

theorem rfl : Kept buffer buffer := ⟨.refl _, .refl _, .refl _, .refl _, .refl _⟩

theorem trans (first : Kept before middle) (second : Kept middle after) : Kept before after :=
  ⟨second.count.trans first.count, second.clear.trans first.clear,
    second.handle.trans first.handle, second.lengths.trans first.lengths,
    second.spare.trans first.spare⟩

theorem capacity (kept : Kept before after) : after.capacity = before.capacity := by
  have lengths := kept.lengths
  cases old : before.slots <;> cases new : after.slots <;> simp_all [Buffer.capacity]

/-- The slots are what is shown now and the spare slots from before. -/
theorem slots_eq (kept : Kept before after) :
    after.slots = before.slots.map fun _ => after.elements ++ before.spare := by
  have lengths := kept.lengths
  have whole := after.elements_append_spare
  rw [kept.spare] at whole
  cases old : before.slots <;> cases new : after.slots <;> simp_all

end Kept

theorem get?_eq (index : Nat) : buffer.get? index = buffer.elements[index]? := by
  rw [get?, elements, List.getElem?_take]

variable {change : List α → List α} (keeps : ∀ slots, (change slots).length = slots.length)

theorem elements_editShown : (buffer.editShown change keeps).elements = change buffer.elements := by
  have bound := buffer.count_le
  cases held : buffer.slots with
  | none =>
    have nothing : change [] = [] := List.eq_nil_of_length_eq_zero (keeps [])
    simp [editShown, edit, elements, held, nothing]
  | some slots =>
    have size : (change (slots.take buffer.count)).length = buffer.count := by
      rw [held, Option.getD_some] at bound
      rw [keeps, List.length_take, Nat.min_eq_left bound]
    simp [editShown, edit, elements, held, size]

theorem editShown_kept : Kept buffer (buffer.editShown change keeps) := by
  refine ⟨rfl, rfl, rfl, ?_, spare_editShown buffer change keeps⟩
  cases held : buffer.slots with
  | none => simp [editShown, edit, held]
  | some slots =>
    simp only [editShown, edit, held, Option.map_some, List.length_append, keeps, List.length_take,
      List.length_drop, Option.some.injEq]
    omega

/-- A change in place that reaches no spare slot is a change of what is shown. -/
theorem edit_eq_editShown (inside : ∀ back : List α,
    change (buffer.elements ++ back) = change buffer.elements ++ back) :
    buffer.edit change keeps = buffer.editShown change keeps := by
  have slots : buffer.slots.map change =
      buffer.slots.map fun slots => change (slots.take buffer.count) ++ slots.drop buffer.count := by
    cases held : buffer.slots with
    | none => rfl
    | some slots =>
      have local' := inside buffer.spare
      rw [elements_append_spare] at local'
      simpa [elements, spare, held] using local'
  simp only [edit, editShown, slots]

theorem edit_set {index : Nat} (bound : index < buffer.count) (value : α) :
    buffer.edit (·.set index value) (fun _ => List.length_set) =
      buffer.editShown (·.set index value) fun _ => List.length_set := by
  apply edit_eq_editShown
  intro back
  exact List.set_append_left _ _ (buffer.length_elements.symm ▸ bound)

structure Agrees (before : Buffer ι α) (result : ViewAnswer α × Buffer ι α)
    (listed : ViewAnswer α × List α) : Prop where
  answer : result.1 = listed.1
  elements : result.2.elements = listed.2
  kept : Kept before result.2

theorem agrees_look {answer listed : ViewAnswer α} (same : answer = listed) :
    Agrees buffer (answer, buffer) (listed, buffer.elements) := ⟨same, rfl, .rfl⟩

theorem agrees_change {answer listed : ViewAnswer α} (same : answer = listed) :
    Agrees buffer (answer, buffer.editShown change keeps) (listed, change buffer.elements) :=
  ⟨same, elements_editShown keeps, editShown_kept keeps⟩

variable [Element α]

/-- An operation answers as on the list of the elements, and at most what is shown changes. -/
theorem perform_agrees (buffer : Buffer ι α) (operation : ViewOp α) :
    Agrees buffer (buffer.perform operation) (operation.onList buffer.elements) := by
  have length := buffer.length_elements
  cases operation with
  | slice start stop =>
    simp only [perform, ViewOp.onList, length]
    cases slice? buffer.elements (start.getD 0) (stop.getD buffer.count) <;> exact agrees_look rfl
  | all | reversed | contains => exact agrees_look rfl
  | get index => exact agrees_look (congrArg ViewAnswer.found (get?_eq index))
  | first =>
    simp only [perform, ViewOp.onList, get?_eq, List.head?_eq_getElem?]
    exact agrees_look rfl
  | last =>
    apply agrees_look
    rw [get?_eq, List.getLast?_eq_getElem?, length, isEmpty]
    by_cases empty : buffer.count = 0
    · simp [empty, List.length_eq_zero_iff.mp (length.trans empty)]
    · simp [empty]
  | index index =>
    simp only [perform, ViewOp.onList, get?_eq, length, outOfBounds]
    cases buffer.elements[index]? <;> exact agrees_look rfl
  | set index value =>
    simp only [perform, ViewOp.onList, length]
    by_cases bound : index < buffer.count
    · rw [if_pos bound, edit_set bound value]
      exact agrees_change _ (by simp [bound])
    · rw [if_neg bound, List.set_eq_of_length_le (by omega)]
      exact agrees_look (by simp [bound])
  | assign index value =>
    simp only [perform, ViewOp.onList, length]
    by_cases bound : index < buffer.count
    · rw [if_pos bound, if_pos bound, edit_set bound value]
      exact agrees_change _ rfl
    · rw [if_neg bound, if_neg bound]
      exact agrees_look rfl
  | fill items => exact agrees_change _ (by rw [length])
  | swap i j =>
    simp only [perform, ViewOp.onList, length, outOfBounds]
    by_cases first : buffer.count ≤ i
    · rw [if_pos first, List.getElem?_eq_none (length ▸ first)]
      exact agrees_look rfl
    rw [if_neg first, List.getElem?_eq_getElem (by omega)]
    by_cases second : buffer.count ≤ j
    · rw [if_pos second, List.getElem?_eq_none (length ▸ second)]
      exact agrees_look rfl
    have swapped : swapSlots buffer.elements i j =
        (buffer.elements.set i buffer.elements[j]).set j buffer.elements[i] := by
      simp [swapSlots, length, Nat.not_le.mp first, Nat.not_le.mp second]
    rw [if_neg second, List.getElem?_eq_getElem (by omega), edit_eq_editShown]
    · dsimp only
      rw [← swapped]
      exact agrees_change _ rfl
    · exact fun back => swapSlots_append back (by omega) (by omega)
  | reverse => exact agrees_change _ rfl
  | sort =>
    unfold perform ViewOp.onList
    cases Element.order (α := α) with
    | none => exact agrees_look rfl
    | some before => exact agrees_change _ rfl

/-- A panic leaves the buffer as it was. -/
theorem perform_of_panicked {operation : ViewOp α} {panic : Panic}
    (panicked : (buffer.perform operation).1 = .panicked panic) :
    (buffer.perform operation).2 = buffer := by
  cases operation with
  | all | reversed | get | first | last | contains => rfl
  | slice start stop =>
    simp only [perform]
    split <;> rfl
  | index i =>
    simp only [perform]
    split <;> rfl
  | set i value =>
    simp only [perform] at panicked ⊢
    split at panicked <;> cases panicked
  | assign i value =>
    by_cases bound : i < buffer.count
    · simp [perform, bound] at panicked
    · simp [perform, bound]
  | swap i j =>
    by_cases first : buffer.count ≤ i
    · simp [perform, first]
    by_cases second : buffer.count ≤ j
    · simp [perform, first, second]
    · simp [perform, first, second] at panicked
  | fill | reverse => cases panicked
  | sort =>
    simp only [perform] at panicked ⊢
    split at panicked <;> cases panicked

/-- A run of operations does to a buffer what it does to the list of its elements. -/
theorem inTurn_agrees (buffer : Buffer ι α) (operations : List (ViewOp α)) :
    (inTurn perform buffer operations).1 = (inTurn ViewOp.onList buffer.elements operations).1 ∧
      (inTurn perform buffer operations).2.elements =
        (inTurn ViewOp.onList buffer.elements operations).2 ∧
      Kept buffer (inTurn perform buffer operations).2 := by
  -- each operation leaves another buffer, so the buffer is general in the induction
  induction operations generalizing buffer with
  | nil => exact ⟨rfl, rfl, .rfl⟩
  | cons operation rest ih =>
    have first := perform_agrees buffer operation
    obtain ⟨answers, elements, kept⟩ := ih (buffer.perform operation).2
    rw [first.elements] at answers elements
    refine ⟨?_, elements, first.kept.trans kept⟩
    simp only [inTurn, first.answer, answers]

theorem part?_shown (buffer : Buffer ι α) :
    buffer.shown.part? "elements" = some (.list (buffer.elements.map Element.shown)) := by
  simp [shown, Text.Shown.partialRecord, Text.Shown.part?]

/-- Every access that a buffer grants stops at `count`, whatever lies behind. -/
structure StopsAt (buffer : Buffer ι α) (count : Nat) : Prop where
  get : ∀ i, (∃ value, (buffer.perform (.get i)).1 = .found (some value)) ↔ i < count
  panics : ∀ operation panic, (buffer.perform operation).1 = .panicked panic ↔
    ∃ i, operation.indices.find? (count ≤ ·) = some i ∧ panic = .indexOutOfBounds count i
  unharmed : ∀ operation panic, (buffer.perform operation).1 = .panicked panic →
    (buffer.perform operation).2 = buffer

theorem stopsAt_count (buffer : Buffer ι α) : buffer.StopsAt buffer.count := by
  constructor
  · intro i
    simp only [perform, get?_eq, ViewAnswer.found.injEq, ← Option.isSome_iff_exists]
    simp
  · intro operation panic
    rw [(perform_agrees buffer operation).answer, ViewOp.onList_panicked_iff, length_elements]
  · exact fun operation panic => perform_of_panicked

structure RunsAs (buffer : Buffer ι α) (operations : List (ViewOp α))
    (listed : List (ViewAnswer α) × List α) : Prop where
  answers : (inTurn perform buffer operations).1 = listed.1
  elements : (inTurn perform buffer operations).2.elements = listed.2
  count : (inTurn perform buffer operations).2.count = buffer.count
  capacity : (inTurn perform buffer operations).2.capacity = buffer.capacity
  clearMode : (inTurn perform buffer operations).2.clearMode = buffer.clearMode
  stops : (inTurn perform buffer operations).2.StopsAt buffer.count
  equality : ∀ (κ : Type) (other : Buffer κ α),
    (inTurn perform buffer operations).2.same other = true ↔
      listed.2.length = other.count ∧
        ∀ pair ∈ listed.2.zip other.elements, Element.same pair.1 pair.2 = true
  text : (inTurn perform buffer operations).2.shown.part? "elements" =
    some (.list (listed.2.map Element.shown))

structure Alike (left : Buffer ι α) (right : Buffer κ α) (operations : List (ViewOp α)) :
    Prop where
  answers : (inTurn perform left operations).1 = (inTurn perform right operations).1
  elements : (inTurn perform left operations).2.elements =
    (inTurn perform right operations).2.elements
  compared : ∀ (μ : Type) (other : Buffer μ α),
    (inTurn perform left operations).2.same other =
        (inTurn perform right operations).2.same other ∧
      other.same (inTurn perform left operations).2 =
        other.same (inTurn perform right operations).2
  text : (inTurn perform left operations).2.shown.part? "elements" =
    (inTurn perform right operations).2.shown.part? "elements"

/-- A buffer acts as the list of its elements does, however it came to be and whatever lies in
its spare slots; so another one that shows the same acts the same. -/
theorem acts_as_list (buffer : Buffer ι α) (operations : List (ViewOp α)) :
    buffer.RunsAs operations (inTurn ViewOp.onList buffer.elements operations) ∧
      ∀ (κ : Type) (twin : Buffer κ α), twin.elements = buffer.elements →
        twin.Alike buffer operations := by
  obtain ⟨answers, elements, kept⟩ := inTurn_agrees buffer operations
  constructor
  · refine ⟨answers, elements, kept.count, kept.capacity, ?_, ?_, ?_, ?_⟩
    · rw [clearMode, kept.clear, clearMode]
    · rw [← kept.count]
      exact stopsAt_count _
    · intro κ other
      rw [same, elements, Element.sameAll_iff, length_elements]
    · rw [part?_shown, elements]
  · intro κ twin alike
    obtain ⟨twinAnswers, twinElements, _⟩ := inTurn_agrees twin operations
    rw [alike, ← answers] at twinAnswers
    rw [alike, ← elements] at twinElements
    refine ⟨twinAnswers, twinElements, fun μ other => ?_, ?_⟩
    · simp only [same, twinElements, and_self]
    · simp only [part?_shown, twinElements]

theorem acts_as_list_beyond :
    let wide : Buffer Nat UInt8 := ⟨some [7, 8, 0, 0], 2, true, 1, by decide⟩
    let narrow : Buffer Unit UInt8 := ⟨some [7, 8], 2, false, (), by decide⟩
    let operations : List (ViewOp UInt8) := [.swap 0 2, .reverse, .set 3 1, .assign 0 5]
    (inTurn perform wide operations).1 =
        [.panicked (.indexOutOfBounds 2 2), .flag true, .flag false, .flag true] ∧
      (inTurn perform wide operations).2.slots = some [5, 7, 0, 0] ∧
      narrow.elements = wide.elements ∧ narrow.Alike wide operations :=
  ⟨rfl, rfl, rfl, (acts_as_list _ _).2 Unit _ rfl⟩

end Buffer

end BufferRental
