import BufferRental.Settings

/-! How a buffer that is being filled moves on: what a larger buffer takes over, and how taking a
list of items splits into taking its parts. -/
namespace BufferRental

theorem Element.maxLen_le_maxWord (α : Type) [Element α] : Element.maxLen α ≤ maxWord := by
  unfold Element.maxLen maxBufferLen
  split
  · exact Nat.le_refl _
  · exact Nat.le_trans (Nat.div_le_self _ _) (by decide)

/-- Within a word, doubling is exact up to the limit. -/
theorem nextLen_eq_some_iff {current limit next : Nat} (word : limit ≤ maxWord) :
    nextLen current limit = some next ↔
      current < limit ∧ next = max 1 (min (2 * current) limit) := by
  unfold nextLen
  split <;> rename_i bound
  · simp [Nat.not_lt.mpr bound]
  · simp only [Option.some.injEq]
    omega

theorem nextLen_within {current limit next : Nat} (grows : nextLen current limit = some next) :
    1 ≤ next ∧ next ≤ limit := by
  unfold nextLen at grows
  split at grows
  · cases grows
  · cases grows
    omega

namespace Filling

variable {filling : Filling α} {slots : List α}

/-- Two buffers that both reach as far as what is written exchange their first slots. -/
theorem moveInto_eq (written : filling.written ≤ filling.slots.length)
    (room : filling.written ≤ slots.length) :
    filling.moveInto slots = .ok
      (⟨(filling.slots.take filling.written ++ slots.drop filling.written).toArray,
          filling.written⟩,
        slots.take filling.written ++ filling.slots.drop filling.written) := by
  unfold moveInto
  rw [if_neg (Nat.not_lt.mpr room), if_neg (Nat.not_lt.mpr written)]

theorem moveInto_lengths (written : filling.written ≤ filling.slots.length)
    (room : filling.written ≤ slots.length) :
    ∃ grown outgrown, filling.moveInto slots = .ok (grown, outgrown) ∧
      grown.written = filling.written ∧ grown.slots.length = slots.length ∧
      outgrown.length = filling.slots.length := by
  refine ⟨_, _, moveInto_eq written room, rfl, ?_, ?_⟩
  · show (filling.slots.take filling.written ++ slots.drop filling.written).length = _
    simp only [List.length_append, List.length_take, List.length_drop]
    omega
  · simp only [List.length_append, List.length_take, List.length_drop]
    omega

theorem length_moveInto {grown : Filling α} {outgrown : List α}
    (moved : filling.moveInto slots = .ok (grown, outgrown)) :
    grown.slots.length = slots.length := by
  have bounds : filling.written ≤ slots.length ∧ filling.written ≤ filling.slots.length := by
    unfold moveInto at moved
    split at moved
    · cases moved
    split at moved
    · cases moved
    omega
  obtain ⟨_, _, same, _, size, _⟩ := moveInto_lengths bounds.2 bounds.1
  cases moved.symm.trans same
  exact size

theorem isFull_eq_false_iff : filling.isFull = false ↔ filling.written < filling.slots.length := by
  rw [← Bool.not_eq_true, isFull_iff, Nat.not_le]

end Filling

namespace Pool

open Act

variable {pool : Pool σ α} {clear : Bool} {limit : Nat}

def makeRoom (pool : Pool σ α) (clear : Bool) (limit : Nat) (filling : Filling α) :
    Act σ α (Filling α × Exit Unit) :=
  if filling.isFull then pool.grow clear limit filling else return (filling, .done ())

def putNext (pool : Pool σ α) (clear : Bool) (limit : Nat) (value : α)
    (rest : List (Yield (Except String α))) :
    Filling α × Exit Unit → Act σ α (Filling α × Exit Unit)
  | (filling, .done ()) =>
    if filling.isFull then return (filling, .panicked (.broken .roomAfterGrowth))
    else pool.appendItems clear limit rest (filling.put value)
  | (filling, stopped) => return (filling, stopped)

theorem appendItems_value (value : α) (rest : List (Yield (Except String α)))
    (filling : Filling α) :
    pool.appendItems clear limit (.item (.ok value) :: rest) filling =
      record [.pulled] >>= fun _ => pool.makeRoom clear limit filling >>=
        pool.putNext clear limit value rest := by
  rw [appendItems]
  cases full : filling.isFull with
  | false => simp [makeRoom, putNext, full]
  | true =>
    simp only [makeRoom, full, if_true]
    congr 1; funext _; congr 1; funext made
    obtain ⟨filling, ending⟩ := made
    cases ending <;> rfl

/-- Taking items goes on behind a part of them only if that part was taken without trouble. -/
def andThen (next : Filling α → Act σ α (Filling α × Exit Unit)) :
    Filling α × Exit Unit → Act σ α (Filling α × Exit Unit)
  | (filling, .done ()) => next filling
  | (filling, stopped) => return (filling, stopped)

theorem appendItems_append (first second : List (Yield (Except String α)))
    (filling : Filling α) :
    pool.appendItems clear limit (first ++ second) filling =
      pool.appendItems clear limit first filling >>=
        andThen (pool.appendItems clear limit second) := by
  induction first generalizing filling with
  | nil => rfl
  | cons turn first ih =>
    cases turn with
    | panic text => rfl
    | item value =>
      cases value with
      | error text => rfl
      | ok value =>
        simp only [List.cons_append, appendItems_value, bind_assoc]
        congr 1; funext _; congr 1; funext made
        obtain ⟨filling, ending⟩ := made
        cases ending with
        | failed | panicked | aborted => rfl
        | done _ =>
          simp only [putNext]
          split
          · rfl
          · exact ih _

theorem assignItems_append (room : Nat) (first second : List (Yield α)) (filling : Filling α) :
    (assignItems room (first ++ second) filling : Act σ α _) =
      assignItems room first filling >>= andThen (assignItems room second) := by
  induction first generalizing filling with
  | nil => rfl
  | cons turn first ih =>
    simp only [List.cons_append, assignItems]
    split
    · rename_i done
      cases second with
      | nil => rfl
      | cons next second => simp only [pure_bind, andThen, assignItems, done, if_true]
    · cases turn with
      | panic text => rfl
      | item value => simp [ih]

end Pool

namespace Settings

variable [Element α] (pools : ι → Pool σ α) (settings : Settings ι)

def populate : Method α → Act σ α (Populated α)
  | .withCount count => (pools settings.handle).withCount count
  | .copySlice source => (pools settings.handle).copySlice (settings.clear α) source
  | .copyFrom source => (pools settings.handle).copyFrom (settings.clear α) source
  | .collectExact reported items =>
    (pools settings.handle).collectExact (settings.clear α) reported items
  | .collect items =>
    (pools settings.handle).collect (settings.clear α) settings.suggestedCapacity items
  | .tryCollect items =>
    (pools settings.handle).tryCollect (settings.clear α) settings.suggestedCapacity items

theorem build_eq_populate (method : Method α) : settings.build pools method =
    settings.populate pools method >>= Buffer.ofPopulated (settings.clear α) settings.handle := by
  cases method <;> rfl

end Settings

end BufferRental
