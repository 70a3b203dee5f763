import BufferRental.Proofs.Spares

/-! One list, many ways to fill a buffer from it. Cloning a slice, copying in bulk, taking a known
number of items and growing from item to item are four algorithms for one function: whatever the
pool lends, the buffer shows the list, and nothing that it shows tells which of them filled it. -/
namespace BufferRental

open Act

structure BulkSource.Holds (source : BulkSource α) (values : List α) : Prop where
  length : source.lengthAt 0 = values.length
  copy : ∀ target, target.length = values.length →
    (source.copyTo target).target = values ∧ (source.copyTo target).ending = .finished

/-- The ways to fill a buffer with these values, if nothing fails in producing them. What is copied
from is a list whose elements clone to the values. -/
inductive Method.Delivers [Element α] (values : List α) : Method α → Prop where
  | copySlice (source : List α) (clones : source.map Element.clone = values.map .ok) :
    Delivers values (.copySlice source)
  | copyFrom (source : BulkSource α) (holds : source.Holds values) :
    Delivers values (.copyFrom source)
  | collectExact : Delivers values (.collectExact values.length (values.map .item))
  | collect : Delivers values (.collect (values.map .item))
  | tryCollect : Delivers values (.tryCollect (values.map fun value => .item (.ok value)))

structure Populated.Shows (values : List α) (populated : Populated α) : Prop where
  count : populated.count = values.length
  shown : (populated.slots.getD []).take populated.count = values

namespace Populated.Shows

theorem nothing {values : List α} (none : values.length = 0) : Shows values ⟨.none, 0⟩ := by
  rw [List.length_eq_zero_iff] at none
  subst none
  exact ⟨rfl, rfl⟩

theorem in_front {values : List α} (rest : List α) {count : Nat} (all : count = values.length) :
    Shows values ⟨some (values ++ rest), count⟩ := by
  subst all
  exact ⟨rfl, by simp⟩

theorem fits {values : List α} {populated : Populated α} (shown : populated.Shows values) :
    populated.count ≤ (populated.slots.getD []).length := by
  have length := congrArg List.length shown.shown
  rw [List.length_take] at length
  have count := shown.count
  omega

end Populated.Shows

section Clones

variable [Element α] {source values target : List α}

theorem length_of_clones (clones : source.map Element.clone = values.map .ok) :
    source.length = values.length := by
  simpa using congrArg List.length clones

theorem cloneRun_of_clones (clones : source.map Element.clone = values.map .ok)
    (fits : target.length = source.length) :
    cloneRun source target = ⟨values, values, .finished⟩ := by
  induction source generalizing values target with
  | nil =>
    rw [List.length_nil, List.length_eq_zero_iff] at fits
    rw [List.map_nil, eq_comm, List.map_eq_nil_iff] at clones
    subst fits clones
    rfl
  | cons x source ih =>
    obtain ⟨slot, target, rfl⟩ := List.exists_cons_of_length_eq_add_one fits
    obtain ⟨value, values, rfl, first, rest⟩ := List.map_eq_cons_iff.mp clones.symm
    have later : cloneRun source target = ⟨values, values, .finished⟩ :=
      ih rest.symm (by simpa using fits)
    simp [cloneRun, ← first, later]

theorem BulkSource.ofList_holds (clones : source.map Element.clone = values.map .ok) :
    (ofList source).Holds values := by
  have length := length_of_clones clones
  refine ⟨length, fun target fits => ?_⟩
  have copied : (ofList source).copyTo target = ⟨values, values, .finished⟩ :=
    cloneRun_of_clones clones (fits.trans length.symm)
  rw [copied]
  exact ⟨rfl, rfl⟩

/-- It does not matter where the elements are split. -/
theorem BulkSource.ofRuns_holds {front back : List α}
    (clones : (front ++ back).map Element.clone = values.map .ok) :
    (ofRuns front back).Holds values := by
  have length := length_of_clones clones
  rw [List.length_append] at length
  rw [List.map_append, eq_comm, List.map_eq_append_iff] at clones
  obtain ⟨first, second, rfl, inFront, behind⟩ := clones
  refine ⟨length, fun target fits => ?_⟩
  have frontRun : cloneRun front (target.take front.length) = ⟨first, first, .finished⟩ :=
    cloneRun_of_clones inFront.symm (by simp; omega)
  have backRun : cloneRun back (target.drop front.length) = ⟨second, second, .finished⟩ :=
    cloneRun_of_clones behind.symm (by simp; omega)
  have copied : (ofRuns front back).copyTo target =
      ⟨first ++ second, first ++ second, .finished⟩ := by
    simp [ofRuns, cloneRuns, frontRun, backRun]
  rw [copied]
  exact ⟨rfl, rfl⟩

end Clones

namespace Pool

variable {pool : Pool σ α} {clear : Bool} {pre : σ → Journal α → Prop}

/-- Every item gets a slot if there is room for all of them. -/
theorem assignItems_all {room : Nat} {lent : List α} (values : List α) {taken : List α}
    {filling : Filling α} (took : filling.Took taken lent)
    (within : taken.length + values.length ≤ room) (enough : room ≤ lent.length) :
    ∃ (full : Filling α) (journal : Journal α), full.Took (taken ++ values) lent ∧ ∀ s : σ,
      (assignItems room (values.map .item) filling).run s = ⟨.done (full, .done ()), s, journal⟩ := by
  induction values generalizing taken filling with
  | nil => exact ⟨filling, [], by simpa using took, fun _ => rfl⟩
  | cons value values ih =>
    rw [List.length_cons] at within
    have written := took.written
    have notFull : filling.isFull = false := by
      rw [Filling.isFull_eq_false_iff, took.length]
      omega
    have size : (taken ++ [value]).length = taken.length + 1 := by simp
    obtain ⟨full, journal, tookAll, ran⟩ := ih (took.put notFull value) (by omega)
    refine ⟨full, .pulled :: journal, by simpa using tookAll, fun s => ?_⟩
    have more : ¬ (room ≤ filling.written || filling.isFull) = true := by
      simp only [notFull, Bool.or_false, decide_eq_true_eq]
      omega
    rw [List.map_cons, assignItems, if_neg more, run_bind_done _ (run_record _ s)]
    simp [ran]

theorem fillAtOnce_shows {slots values : List α} {length : Nat} {copy : List α → Copy α}
    (all : length = values.length) (enough : length ≤ slots.length)
    (copied : (copy (slots.take length)).target = values ∧
      (copy (slots.take length)).ending = .finished) :
    Ensures pre (pool.fillAtOnce clear length slots copy)
      (fun populated _ _ => populated.Shows values) fun _ _ _ => False := by
  obtain ⟨target, finished⟩ := copied
  have recorded (events : Journal α) : Ensures pre (record events)
      (fun _ _ _ => True) fun _ _ _ => False := ensures_record fun _ _ _ => trivial
  unfold fillAtOnce
  rw [if_neg (Nat.not_lt.mpr enough)]
  apply ensures_bind (recorded _)
  intro _
  simp only [finished, target, CopyEnding.exit, Exit.map, settle]
  exact ensures_pure fun _ _ _ => .in_front _ all

theorem checkLen_within [Element α] (parameter : String) (length : Nat) :
    Ensures pre (checkLen α parameter length) (fun _ => pre)
      fun _ _ _ => Element.maxLen α < length := by
  unfold checkLen
  split
  · exact ensures_fail fun _ _ _ => ‹_›
  · exact ensures_pure fun _ _ => id

/-- A buffer is rented unless the pool fails, and then whatever is right for every buffer that is
long enough is right. -/
theorem rentChecked_then {length : Nat} {next : List α → Act σ α β} {post : β → Prop}
    (rest : ∀ slots, length ≤ slots.length →
      Ensures (fun _ _ => True) (next slots) (fun value _ _ => post value) fun _ _ _ => False) :
    Ensures (fun _ _ => True) (pool.rentChecked length >>= next) (fun value _ _ => post value)
      fun _ _ j => ¬ j.Served := by
  apply ensures_bind (rentChecked_added (fun _ => True) length)
  intro slots
  apply ensures_given (fun _ _ start => start.1)
  intro enough
  exact (rest slots enough).imp (fun _ _ _ => trivial) (fun _ _ _ => id) fun _ _ _ => False.elim

variable [Element α] {values : List α}

theorem copySlice_shows {source : List α} (clones : source.map Element.clone = values.map .ok) :
    Ensures (fun _ _ => True) (pool.copySlice clear source)
      (fun populated _ _ => populated.Shows values) fun _ _ j => ¬ j.Served := by
  have length := length_of_clones clones
  unfold copySlice
  by_cases empty : source.isEmpty = true
  · rw [if_pos empty]
    rw [List.isEmpty_iff_length_eq_zero] at empty
    exact ensures_pure fun _ _ _ => .nothing (by omega)
  · rw [if_neg empty]
    apply rentChecked_then
    intro slots enough
    apply fillAtOnce_shows length enough
    rw [cloneRun_of_clones clones (by rw [List.length_take]; omega)]
    exact ⟨rfl, rfl⟩

theorem copyFrom_shows {source : BulkSource α} (holds : source.Holds values) :
    Ensures (fun _ _ => True) (pool.copyFrom clear source)
      (fun populated _ _ => populated.Shows values)
      fun _ _ j => values.length ≤ Element.maxLen α → ¬ j.Served := by
  have length := holds.length
  unfold copyFrom
  apply ensures_bind (ensures_record fun _ _ _ => trivial : Ensures _ _ (fun _ _ _ => True) _)
  intro _
  by_cases empty : source.lengthAt 0 = 0
  · rw [if_pos empty]
    exact ensures_pure fun _ _ _ => .nothing (by omega)
  · rw [if_neg empty]
    apply ensures_bind ((checkLen_within "count" _).stops _)
    · intro _
      apply (rentChecked_then ?_).stops fun _ _ _ unserved _ => unserved
      intro slots enough
      apply fillAtOnce_shows length enough
      exact holds.copy _ (by rw [List.length_take]; omega)
    · intro _ _ _ beyond few
      omega

theorem collectExact_shows (values : List α) :
    Ensures (fun _ _ => True) (pool.collectExact clear values.length (values.map .item))
      (fun populated _ _ => populated.Shows values)
      fun _ _ j => values.length ≤ Element.maxLen α → ¬ j.Served := by
  unfold collectExact
  by_cases empty : values.length = 0
  · rw [if_pos empty]
    exact ensures_pure fun _ _ _ => .nothing empty
  · rw [if_neg empty]
    apply ensures_bind ((checkLen_within "count" _).stops _)
    · intro _
      apply (rentChecked_then ?_).stops fun _ _ _ unserved _ => unserved
      intro slots enough s past _
      obtain ⟨full, journal, took, ran⟩ := assignItems_all (σ := σ) values
        (⟨rfl, rfl, Nat.zero_le _⟩ : (Filling.start slots).Took [] slots) (by simp) enough
      rw [run_bind_done _ (ran s)]
      have slotsFull : full.slots = values ++ slots.drop values.length := took.slots
      have writtenFull : full.written = values.length := took.written
      simp only [Exit.map, settle, run_pure, Exit.Satisfies, Filling.populated, slotsFull]
      exact .in_front _ writtenFull
    · intro _ _ _ beyond few
      omega

theorem tryCollect_shows (capacity : Nat) (values : List α) :
    Ensures (fun _ j => j = [])
      (pool.tryCollect clear capacity (values.map fun value => .item (.ok value)))
      (fun populated _ _ => populated.Shows values)
      fun _ _ j => capacity ≤ Element.maxLen α → values.length ≤ Element.maxLen α → ¬ j.Served := by
  apply (tryCollect_grown capacity values).after
  rintro populated _ _ ⟨filling, first, later, rfl, grown⟩
  have took := grown.took
  simp only [Filling.populated, took.slots]
  exact .in_front _ took.written

end Pool

namespace Settings

variable [Element α] (pools : ι → Pool σ α) (settings : Settings ι)

theorem populate_shows {values : List α} {method : Method α} (delivers : method.Delivers values) :
    Ensures (fun _ j => j = []) (settings.populate pools method)
      (fun populated _ _ => populated.Shows values)
      fun _ _ j => settings.suggestedCapacity ≤ Element.maxLen α →
        values.length ≤ Element.maxLen α → ¬ j.Served := by
  cases delivers with
  | copySlice source clones =>
    exact (Pool.copySlice_shows clones).imp (fun _ _ _ => trivial) (fun _ _ _ => id)
      fun _ _ _ unserved _ _ => unserved
  | copyFrom source holds =>
    exact (Pool.copyFrom_shows holds).imp (fun _ _ _ => trivial) (fun _ _ _ => id)
      fun _ _ _ unserved _ => unserved
  | collectExact =>
    exact (Pool.collectExact_shows values).imp (fun _ _ _ => trivial) (fun _ _ _ => id)
      fun _ _ _ unserved _ => unserved
  | collect =>
    have same : (values.map .item).map (Yield.map (Except.ok (ε := String))) =
        values.map fun value => .item (.ok value) := by
      simp [Yield.map]
    simp only [populate, Pool.collect, same]
    exact Pool.tryCollect_shows settings.suggestedCapacity values
  | tryCollect => exact Pool.tryCollect_shows settings.suggestedCapacity values

theorem build_shows {values : List α} {method : Method α} (delivers : method.Delivers values) :
    Ensures (fun _ j => j = []) (settings.build pools method)
      (fun buffer _ _ => buffer.count = values.length ∧ buffer.elements = values)
      fun _ _ j => settings.suggestedCapacity ≤ Element.maxLen α →
        values.length ≤ Element.maxLen α → ¬ j.Served := by
  rw [build_eq_populate]
  apply ensures_bind (populate_shows pools settings delivers)
  intro populated
  apply ensures_given (fun _ _ shown => shown)
  intro shown
  unfold Buffer.ofPopulated
  rw [dif_pos shown.fits]
  exact ensures_pure fun _ _ _ => ⟨shown.count, shown.shown⟩

/-- However a buffer is filled from a list, it is filled if all calls are served, and it shows the
list. So two buffers that were filled from one list show the same, whatever tells apart the ways
in which it was done, their settings, their pools and what those lent. -/
theorem strategies_agree {values : List α} {method : Method α} (s : σ)
    (delivers : method.Delivers values) (few : values.length ≤ Element.maxLen α)
    (capacity : settings.suggestedCapacity ≤ Element.maxLen α)
    (served : ((settings.build pools method).run s).journal.Served) :
    ∃ buffer, ((settings.build pools method).run s).exit = .done buffer ∧
      buffer.count = values.length ∧ buffer.elements = values ∧
      ∀ (κ τ : Type) (others : κ → Pool τ α) (other : Settings κ) (way : Method α) (t : τ)
        (twin : Buffer κ α), way.Delivers values →
        ((other.build others way).run t).exit = .done twin →
          twin.count = buffer.count ∧ twin.elements = buffer.elements := by
  have after := build_shows pools settings delivers s [] rfl
  cases ended : ((settings.build pools method).run s).exit with
  | failed | panicked | aborted =>
    rw [ended] at after
    exact absurd served (after capacity few)
  | done buffer =>
    rw [ended] at after
    obtain ⟨count, elements⟩ := after
    refine ⟨buffer, rfl, count, elements, ?_⟩
    intro κ τ others other way t twin delivered built
    have same := build_shows others other delivered t [] rfl
    rw [built] at same
    exact ⟨same.1.trans count.symm, same.2.trans elements.symm⟩

/-- The pool lends two slots more than asked at first and refuses the first return. -/
theorem strategies_agree_three :
    let pools : Unit → Pool (PlannedPool UInt8) UInt8 := fun _ => PlannedPool.asPool UInt8
    let built (method : Method UInt8) := ((⟨.auto, 0, ()⟩ : Settings Unit).build pools method).run
      (.start ⟨[0, 2], 4096, 7, [], [], [0]⟩)
    ∀ method ∈ ([.copySlice [3, 1, 2], .copyFrom (.ofList [3, 1, 2]), .copyFrom (.ofRuns [3] [1, 2]),
        .collectExact 3 ([3, 1, 2].map .item), .collect ([3, 1, 2].map .item),
        .tryCollect ([3, 1, 2].map fun value => .item (.ok value))] : List (Method UInt8)),
      method.Delivers [3, 1, 2] ∧ (built method).journal.Served ∧
        ∃ buffer, (built method).exit = .done buffer ∧ buffer.elements = [3, 1, 2] := by
  intro pools built method member
  have delivers : method.Delivers [3, 1, 2] := by
    simp only [List.mem_cons, List.not_mem_nil, or_false] at member
    rcases member with rfl | rfl | rfl | rfl | rfl | rfl
    · exact .copySlice _ rfl
    · exact .copyFrom _ (BulkSource.ofList_holds rfl)
    · exact .copyFrom _ (BulkSource.ofRuns_holds rfl)
    · exact .collectExact
    · exact .collect
    · exact .tryCollect
  have served : (built method).journal.Served := by
    simp only [List.mem_cons, List.not_mem_nil, or_false] at member
    rcases member with rfl | rfl | rfl | rfl | rfl | rfl <;> decide
  obtain ⟨buffer, done, _, elements, _⟩ :=
    strategies_agree pools _ _ delivers (by decide) (by decide) served
  exact ⟨delivers, served, buffer, done, elements⟩

end Settings

end BufferRental
