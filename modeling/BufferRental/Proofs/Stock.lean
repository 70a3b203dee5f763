import BufferRental.Element.Kind
import BufferRental.Proofs.Shelves
import BufferRental.Proofs.Traffic
import Mathlib.Data.List.Perm.Subperm

/-! How many buffers lie idle. A call changes the stock of the one length that it is about, by a
rule that knows only how many there were, so the calls of a run tell the stock of every length.
Among callers who hand back only what was lent, a buffer lies idle because it was in use before. -/
namespace BufferRental

namespace Call

def length? : Call → Option Nat
  | rent _ granted => granted
  | hand length _ => some length

def lent? : Call → Option Nat
  | rent _ granted => granted
  | hand .. => none

def handed? : Call → Option Nat
  | rent .. => none
  | hand length _ => some length

/-- The stock of a length after a call, if no more than `room` buffers are kept. -/
def stock (room length idle : Nat) : Call → Nat
  | rent _ granted => if granted = some length then idle - 1 else idle
  | hand returned _ => if returned = length then min (idle + 1) room else idle

/-- How many buffers of a length were lent and have not come back. -/
def outstanding (length : Nat) (calls : List Call) : Nat :=
  (calls.filterMap lent?).count length - (calls.filterMap handed?).count length

def peak (length : Nat) (calls : List Call) : Nat :=
  (calls.inits.map (outstanding length)).max?.getD 0

/-- At every moment the buffers that came back are among those that were lent, each of them once.
Only their lengths tell them apart, so this holds of all who return nothing else. -/
def ReturnsLent (calls : List Call) : Prop :=
  ∀ early ∈ calls.inits, (early.filterMap handed?).Subperm (early.filterMap lent?)

instance (calls : List Call) : Decidable (ReturnsLent calls) :=
  inferInstanceAs (Decidable (∀ early ∈ calls.inits, _))

variable {room length idle : Nat} {call : Call} {calls : List Call}

theorem stock_of_other (other : call.length? ≠ some length) : call.stock room length idle = idle := by
  cases call with
  | rent request granted => exact if_neg other
  | hand returned clear => exact if_neg fun same => other (congrArg some same)

theorem foldl_stock_of_unused (unused : ∀ call ∈ calls, call.length? ≠ some length) :
    calls.foldl (stock room length) idle = idle := by
  induction calls generalizing idle with
  | nil => rfl
  | cons call rest ih =>
    rw [List.foldl_cons, stock_of_other (unused call List.mem_cons_self)]
    exact ih fun other member => unused other (List.mem_cons_of_mem _ member)

theorem count_filterMap_concat (read : Call → Option Nat) :
    ((calls ++ [call]).filterMap read).count length =
      (calls.filterMap read).count length + if read call = some length then 1 else 0 := by
  rw [List.filterMap_append, List.count_append, List.filterMap_cons]
  cases read call with
  | none => simp
  | some found => simp [List.count_singleton]

theorem outstanding_le_peak {early : List Call} (part : early <+: calls) :
    outstanding length early ≤ peak length calls :=
  List.le_max?_getD_of_mem (List.mem_map_of_mem ((List.mem_inits early calls).mpr part))

theorem ReturnsLent.count_le (returns : ReturnsLent calls) (length : Nat) :
    (calls.filterMap handed?).count length ≤ (calls.filterMap lent?).count length :=
  (returns calls ((List.mem_inits ..).mpr (List.prefix_refl calls))).count_le length

theorem ReturnsLent.before (returns : ReturnsLent (calls ++ [call])) : ReturnsLent calls := by
  intro early member
  apply returns early
  rw [List.mem_inits] at member ⊢
  exact member.trans (List.prefix_append calls [call])

/-- A call moves a buffer between the stock and its holders, or brings a fresh one to an empty
stock, or drops one. -/
theorem ReturnsLent.step (returns : ReturnsLent (calls ++ [call])) (room length idle : Nat) :
    call.stock room length idle + outstanding length (calls ++ [call]) ≤
        idle + outstanding length calls ∨
      call.stock room length idle = 0 := by
  have before := returns.before.count_le length
  have now := returns.count_le length
  rw [count_filterMap_concat, count_filterMap_concat] at now
  simp only [outstanding, count_filterMap_concat]
  cases call with
  | rent request granted =>
    simp only [stock, lent?, handed?, reduceCtorEq, if_false] at now ⊢
    by_cases about : granted = some length
    · simp only [about, if_true]
      omega
    · simp only [about, if_false]
      omega
  | hand returned clear =>
    simp only [stock, lent?, handed?, reduceCtorEq, if_false, Option.some.injEq] at now ⊢
    by_cases about : returned = length
    · simp only [about, if_true] at now ⊢
      omega
    · simp only [about, if_false]
      omega

/-- Whatever lies idle was outstanding at the same time with what is so now. -/
theorem ReturnsLent.idle_add_outstanding_le (returns : ReturnsLent calls) (room length : Nat) :
    ∃ early, early <+: calls ∧
      calls.foldl (stock room length) 0 + outstanding length calls ≤ outstanding length early := by
  -- by the last call: either the sum does not grow, or all that it counts is outstanding now
  induction calls using List.reverseRecOn with
  | nil => exact ⟨[], List.prefix_refl [], Nat.le_refl _⟩
  | append_singleton calls call ih =>
    obtain ⟨early, part, bound⟩ := ih returns.before
    rw [List.foldl_concat]
    rcases returns.step room length (calls.foldl (stock room length) 0) with moved | empty
    · exact ⟨early, part.trans (List.prefix_append calls [call]), Nat.le_trans moved bound⟩
    · exact ⟨_, List.prefix_refl _, by rw [empty, Nat.zero_add]⟩

end Call

namespace Shelves

variable {limits : BucketLimits} {shelves next last : Shelves α} {length : Nat}

theorem length_replace (shelves : Shelves α) (changed : Nat) (idle : List (List α)) :
    (shelves.replace changed idle length).length =
      if changed = length then idle.length else (shelves length).length := by
  by_cases same : changed = length
  · rw [if_pos same, same, replace_same]
  · rw [if_neg same, replace_other _ _ (Ne.symm same)]

variable [Element α]

theorem Serves.stock {request : Request α} {events : Journal α}
    (serves : Serves limits shelves request events next) (fit : shelves.Fit limits)
    (shelved : limits.Shelved length) : (next length).length =
      events.calls.foldl (Call.stock limits.maxPerBucket length) (shelves length).length := by
  cases serves with
  | reuse minLen served newest older within rounded idle =>
    have size := fit.lengths served newest (by simp [idle])
    rw [length_replace]
    by_cases same : served = length
    · subst same
      simp [Event.call?, Call.stock, size, idle]
    · simp [Event.call?, Call.stock, size, same]
  | fresh minLen served within rounded idle =>
    by_cases same : served = length
    · subst same
      simp [Event.call?, Call.stock, idle]
    · simp [Event.call?, Call.stock, same]
  | unpooled minLen beyond =>
    have other : minLen ≠ length := by
      rintro rfl
      exact absurd shelved.most (Nat.not_le.mpr beyond)
    simp [Event.call?, Call.stock, other]
  | keep slots clear kept room =>
    rw [length_replace]
    by_cases same : slots.length = length
    · subst same
      have rest : min ((shelves slots.length).length + 1) limits.maxPerBucket =
          (shelves slots.length).length + 1 := Nat.min_eq_left room
      simp [Event.call?, Call.stock, rest]
    · simp [Event.call?, Call.stock, same]
  | full slots clear kept room =>
    by_cases same : slots.length = length
    · subst same
      simp [Event.call?, Call.stock, room]
    · simp [Event.call?, Call.stock, same]
  | oversize slots clear beyond =>
    have other : slots.length ≠ length := by
      rintro rfl
      exact absurd shelved.most (Nat.not_le.mpr beyond)
    simp [Event.call?, Call.stock, other]
  | foreign slots clear within unkept =>
    have other : slots.length ≠ length := by
      rintro rfl
      exact unkept shelved
    simp [Event.call?, Call.stock, other]

/-- The calls of a run tell what is in stock after it. -/
theorem ServesAll.stock {requests : List (Request α)} {journal : Journal α}
    (serves : ServesAll limits shelves requests journal last) (fit : shelves.Fit limits)
    (shelved : limits.Shelved length) : (last length).length =
      journal.calls.foldl (Call.stock limits.maxPerBucket length) (shelves length).length := by
  induction serves with
  | none => rfl
  | next first later ih =>
    rw [Journal.calls_append, List.foldl_append, ← first.stock fit shelved]
    exact ih (first.fit fit)

end Shelves

namespace BucketPool

def idleOfLen (pool : BucketPool α) (length : Nat) : Nat :=
  pool.buckets.flatten.countP (·.length = length)

theorem Sound.idleOfLen_eq {pool : BucketPool α} (sound : pool.Sound) (length : Nat) :
    pool.idleOfLen length = (pool.shelves length).length := by
  have shelf (index : Nat) : (pool.shelves (minBucketLen * 2 ^ index)).countP (·.length = length) =
      if minBucketLen * 2 ^ index = length then (pool.shelves length).length else 0 := by
    have lengths := sound.fit.lengths (minBucketLen * 2 ^ index)
    by_cases same : minBucketLen * 2 ^ index = length
    · rw [if_pos same]
      subst same
      exact List.countP_eq_length.mpr fun slots member => decide_eq_true (lengths slots member)
    · rw [if_neg same]
      refine List.countP_eq_zero.mpr fun slots member => ?_
      rw [lengths slots member]
      simpa using same
  have counted : pool.idleOfLen length = ∑ index ∈ Finset.range pool.buckets.length,
      if minBucketLen * 2 ^ index = length then (pool.shelves length).length else 0 := by
    rw [idleOfLen, List.countP_flatten]
    conv_lhs => rw [buckets_eq, List.map_map]
    exact congrArg List.sum (List.map_congr_left fun index _ => shelf index)
  rw [counted]
  by_cases shelved : pool.limits.Shelved length
  · obtain ⟨place, rfl⟩ := bucketLen_iff.mp ⟨shelved.power, shelved.least⟩
    rw [Finset.sum_eq_single place, if_pos rfl]
    · intro index _ apart
      apply if_neg
      intro same
      exact apart (Nat.pow_right_injective (Nat.le_refl 2) (Nat.eq_of_mul_eq_mul_left (by decide) same))
    · intro outside
      exact absurd (Finset.mem_range.mpr ((sound.places place).mpr shelved.most)) outside
  · have nothing : pool.shelves length = [] := by
      by_contra idle
      exact shelved (sound.fit.shelved length idle)
    simp [nothing]

variable [Element α]

/-- A pool that starts empty and gets back only what it lent never has more buffers of a length,
idle and outstanding together, than were outstanding at the same time at some moment. So no more
lie idle than were in use at once, and no more than there are places. -/
theorem idle_within_peak (limits : BucketLimits) (requests : List (Request α)) :
    let run := (asPool α).serveAll requests (empty limits)
    Call.ReturnsLent run.2.calls → ∀ length,
      run.1.idleOfLen length + Call.outstanding length run.2.calls ≤ Call.peak length run.2.calls ∧
        run.1.idleOfLen length ≤ min (Call.peak length run.2.calls) limits.maxPerBucket := by
  intro run returns length
  obtain ⟨serves, same, sound⟩ := serveAll_serves (empty_sound (α := α) limits) requests
  have fit := sound.fit
  rw [same] at fit
  rw [shelves_empty] at serves
  rw [sound.idleOfLen_eq]
  have within : (run.1.shelves length).length + Call.outstanding length run.2.calls ≤
      Call.peak length run.2.calls := by
    by_cases shelved : limits.Shelved length
    · have stock : (run.1.shelves length).length = _ := serves.stock (Shelves.none_fit limits) shelved
      obtain ⟨early, part, moved⟩ := returns.idle_add_outstanding_le limits.maxPerBucket length
      rw [stock]
      exact Nat.le_trans moved (Call.outstanding_le_peak part)
    · have nothing : run.1.shelves length = [] := by
        by_contra idle
        exact shelved (fit.shelved length idle)
      rw [nothing, List.length_nil, Nat.zero_add]
      exact Call.outstanding_le_peak (List.prefix_refl _)
  exact ⟨within, Nat.le_min.mpr ⟨Nat.le_trans (Nat.le_add_right ..) within, fit.bounded length⟩⟩

/-- Two buffers of 32 slots are in use at once and come back, then one of them is lent again; a
shorter one never comes back. -/
theorem idle_within_peak_two :
    let run := (asPool UInt8).serveAll
      [.rent 20, .rent 32, .rent 5, .hand (List.replicate 32 7) true,
        .hand (List.replicate 32 8) false, .rent 30] (empty ⟨32, 2, by decide⟩)
    Call.ReturnsLent run.2.calls ∧ Call.outstanding 32 run.2.calls = 1 ∧
      Call.peak 32 run.2.calls = 2 ∧ run.1.idleOfLen 32 = 1 ∧
      run.1.idleOfLen 32 + Call.outstanding 32 run.2.calls ≤ Call.peak 32 run.2.calls := by
  intro run
  have returns : Call.ReturnsLent run.2.calls := by decide +kernel
  have within := idle_within_peak (α := UInt8) ⟨32, 2, by decide⟩ _ returns 32
  exact ⟨returns, by decide +kernel, by decide +kernel, by decide +kernel, within.1⟩

end BucketPool

end BufferRental
