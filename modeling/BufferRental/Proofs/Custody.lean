import BufferRental.Proofs.Stages

/-! The books of one call. A population holds at most one buffer at a time apart from the moment
in which it grows, and every buffer in it is longer than the one before; so the buffers handed back
are the first of those that were lent, in the same order, and at most the last one is kept. -/
namespace BufferRental

/-- Each buffer lent is longer than the one before; `held` are the lengths of those that have not
been handed back, and the others went back in the order in which they came. -/
structure Journal.Owes (journal : Journal α) (held : List Nat) : Prop where
  rising : (journal.lent.map List.length).Pairwise (· < ·)
  settled : journal.lent.map List.length = journal.handed.map List.length ++ held

namespace Journal.Owes

variable {journal later : Journal α} {held : List Nat}

theorem of_still (still : journal.traffic = []) : journal.Owes [] := by
  obtain ⟨lent, handed⟩ := lent_of_traffic_nil still
  exact ⟨by simp [lent], by simp [lent, handed]⟩

theorem append_still (owes : journal.Owes held) (lent : later.lent = [])
    (handed : later.handed = []) : Owes (journal ++ later) held := by
  constructor
  · simpa [lent] using owes.rising
  · simpa [lent, handed] using owes.settled

theorem append_lent {slots : List α} (owes : journal.Owes held)
    (longest : ∀ length ∈ journal.lent.map List.length, length < slots.length)
    (lent : later.lent = [slots]) (handed : later.handed = []) :
    Owes (journal ++ later) (held ++ [slots.length]) := by
  constructor
  · rw [lent_append, lent, List.map_append, List.pairwise_append]
    exact ⟨owes.rising, List.pairwise_singleton .., by simpa using longest⟩
  · simp only [lent_append, handed_append, lent, handed, List.map_append, owes.settled]
    simp

theorem append_handed {slots : List α} (owes : journal.Owes (slots.length :: held))
    (lent : later.lent = []) (handed : later.handed = [slots]) : Owes (journal ++ later) held := by
  constructor
  · simpa [lent] using owes.rising
  · simp [lent, handed, owes.settled]

theorem le_last {last : Nat} (owes : journal.Owes [last]) :
    ∀ length ∈ journal.lent.map List.length, length ≤ last := by
  intro length member
  have rising := owes.rising
  rw [owes.settled] at rising member
  rcases List.mem_append.mp member with early | final
  · exact Nat.le_of_lt ((List.pairwise_append.mp rising).2.2 length early last (by simp))
  · exact Nat.le_of_eq (List.mem_singleton.mp final)

end Journal.Owes

def Populated.held (populated : Populated α) : List Nat :=
  (populated.slots.map List.length).toList

structure Populated.Fits (populated : Populated α) : Prop where
  bound : populated.count ≤ (populated.slots.getD []).length
  rented : populated.slots ≠ some []

namespace Populated.Fits

theorem nothing : Fits (⟨none, 0⟩ : Populated α) := ⟨Nat.le_refl 0, nofun⟩

theorem of_room {slots : List α} {count : Nat} (bound : count ≤ slots.length)
    (room : 0 < slots.length) : Fits ⟨some slots, count⟩ := by
  refine ⟨bound, ?_⟩
  rintro same
  cases Option.some.inj same
  exact absurd room (Nat.lt_irrefl 0)

end Populated.Fits

namespace Pool

open Act

variable {pool : Pool σ α} {clear : Bool}

theorem rentChecked_owes (minLen : Nat) (held : List Nat) :
    Ensures (fun _ j => j.Owes held ∧ ∀ length ∈ j.lent.map List.length, length < minLen)
      (pool.rentChecked minLen)
      (fun slots _ j => minLen ≤ slots.length ∧ j.Owes (held ++ [slots.length]))
      (fun ending _ j => ending ≠ .aborted ∧ j.Owes held) := by
  apply ensures_rentChecked
  · intro s past slots next notes start _ enough
    refine ⟨enough, start.1.append_lent ?_ ?_ ?_⟩
    · intro length member
      exact Nat.lt_of_lt_of_le (start.2 length member) enough
    · simp [Event.lent?, enough]
    · simp [Event.handed?]
  · intro s past slots next notes start _ short
    exact ⟨by simp, start.1.append_still (by simp [Event.lent?, Nat.not_le.mpr short])
      (by simp [Event.handed?])⟩
  · intro s past panic next notes start _
    exact ⟨by simp, start.1.append_still (by simp [Event.lent?]) (by simp [Event.handed?])⟩

theorem giveBack_owes (slots : List α) (held : List Nat) :
    Ensures (fun _ j => j.Owes (slots.length :: held)) (pool.giveBack slots clear)
      (fun _ _ j => j.Owes held) (fun ending _ j => ending ≠ .aborted ∧ j.Owes held) := by
  apply ensures_giveBack
  · intro s past next notes start _
    exact start.append_handed (by simp [Event.lent?]) (by simp [Event.handed?])
  · intro s past error next notes start _
    exact start.append_handed (by simp [Event.lent?]) (by simp [Event.handed?])
  · intro s past panic next notes start _
    exact ⟨by simp, start.append_handed (by simp [Event.lent?]) (by simp [Event.handed?])⟩

/-- Settling keeps the buffer of a success and hands back the buffer of a failure, whatever becomes
of that return. -/
theorem settle_owes (slots : List α) (exit : Exit β) (ended : exit ≠ .aborted) :
    Ensures (fun _ j => j.Owes [slots.length]) (pool.settle clear slots exit)
      (fun value _ j => exit = .done value ∧ j.Owes [slots.length]) (fun _ _ j => j.Owes []) := by
  cases exit with
  | done value => exact ensures_pure fun _ _ start => ⟨rfl, start⟩
  | failed error =>
    refine ensures_bind ((giveBack_owes slots []).stops fun _ _ _ => And.right) fun _ => ?_
    exact ensures_fail fun _ _ => id
  | panicked panic =>
    refine ensures_whileUnwinding ((giveBack_owes slots []).stops fun ending _ _ stopped => ?_)
    cases ending <;> exact stopped.2
  | aborted => exact absurd rfl ended

end Pool

structure Filling.Holds (filling : Filling α) (journal : Journal α) : Prop where
  bound : filling.written ≤ filling.slots.length
  room : 0 < filling.slots.length
  owes : journal.Owes [filling.slots.length]

namespace Filling.Holds

variable {filling : Filling α} {journal later : Journal α}

theorem append_still (holds : filling.Holds journal) (lent : later.lent = [])
    (handed : later.handed = []) : filling.Holds (journal ++ later) :=
  ⟨holds.bound, holds.room, holds.owes.append_still lent handed⟩

theorem put (holds : filling.Holds journal) (room : filling.isFull = false) (value : α) :
    (filling.put value).Holds journal := by
  refine ⟨?_, by simpa using holds.room, by simpa using holds.owes⟩
  have := isFull_eq_false_iff.mp room
  simp only [written_put, length_put]
  omega

theorem fits (holds : filling.Holds journal) : filling.populated.Fits :=
  .of_room holds.bound holds.room

end Filling.Holds

namespace Pool

open Act

variable {pool : Pool σ α} {clear : Bool} {limit : Nat}

/-- Whatever happens in growing, one buffer is held afterwards: the larger one as soon as it is
there, even if the return of the outgrown one panics, and the old one otherwise. -/
theorem grow_holds (word : limit ≤ maxWord) (filling : Filling α) :
    Ensures (fun _ j => filling.Holds j) (pool.grow clear limit filling)
      (fun made _ j => made.1.Holds j ∧ made.2 ≠ .aborted) (fun _ _ _ => False) := by
  unfold grow
  dsimp only
  split
  · exact ensures_pure fun _ _ start => ⟨start, by simp⟩
  rename_i next grows
  have larger : filling.slots.length < next := by
    have := (nextLen_eq_some_iff word).mp grows
    omega
  refine ensures_given (fun _ _ start => And.intro start.bound start.room) fun ⟨bound, room⟩ => ?_
  have noted : Ensures (fun (_ : σ) j => filling.Holds j)
      (note (.growing filling.slots.length next))
      (fun _ _ j => j.Owes [filling.slots.length] ∧
        ∀ length ∈ j.lent.map List.length, length < next) (fun _ _ _ => False) := by
    refine ensures_record fun _ _ start => ?_
    refine ⟨start.owes.append_still rfl rfl, fun length member => ?_⟩
    have still : length ≤ filling.slots.length :=
      (start.owes.append_still rfl rfl).le_last length member
    exact Nat.lt_of_le_of_lt still larger
  refine ensures_bind noted fun _ =>
    ensures_bind (ensures_attempt_unaborted (rentChecked_owes next _)) fun exit => ?_
  cases exit with
  | done slots =>
    refine ensures_given (fun _ _ start => start.2.1) fun enough => ?_
    have reach : filling.written ≤ slots.length := by omega
    obtain ⟨grown, outgrown, moved, written, length, old⟩ := Filling.moveInto_lengths bound reach
    have exchanged : Ensures (fun _ j => j.Owes [filling.slots.length, slots.length])
        (attempt (pool.giveBack outgrown clear))
        (fun exit _ j => exit ≠ .aborted ∧ j.Owes [slots.length]) (fun _ _ _ => False) := by
      rw [← old]
      refine (ensures_attempt_unaborted (giveBack_owes outgrown [slots.length])).imp
        (fun _ _ => id) ?_ fun _ _ _ => id
      intro exit _ _ after
      cases exit <;> exact after
    simp only [moved]
    -- from here on the larger buffer is held, also if the return of the old one panics
    refine ensures_bind (exchanged.imp (fun _ _ start => start.2.2) (fun _ _ _ => id)
      fun _ _ _ => id) fun ending => ensures_pure fun _ _ after => ⟨⟨?_, ?_, ?_⟩, after.1⟩
    · show grown.written ≤ grown.slots.length
      omega
    · show 0 < grown.slots.length
      omega
    · exact length ▸ after.2
  | failed | panicked | aborted =>
    exact ensures_pure fun _ _ start => ⟨⟨bound, room, start.2⟩, by
      have := start.1
      simp_all [Exit.map]⟩

theorem makeRoom_holds (word : limit ≤ maxWord) (filling : Filling α) :
    Ensures (fun _ j => filling.Holds j) (pool.makeRoom clear limit filling)
      (fun made _ j => made.1.Holds j ∧ made.2 ≠ .aborted) (fun _ _ _ => False) := by
  unfold makeRoom
  split
  · exact grow_holds word filling
  · exact ensures_pure fun _ _ start => ⟨start, by simp⟩

theorem appendItems_holds (word : limit ≤ maxWord) (items : List (Yield (Except String α)))
    (filling : Filling α) :
    Ensures (fun _ j => filling.Holds j) (pool.appendItems clear limit items filling)
      (fun made _ j => made.1.Holds j ∧ made.2 ≠ .aborted) (fun _ _ _ => False) := by
  induction items generalizing filling with
  | nil => exact ensures_pure fun _ _ start => ⟨start, by simp⟩
  | cons turn rest ih =>
    have pulled : Ensures (fun (_ : σ) j => filling.Holds j) (record [.pulled])
        (fun _ _ j => filling.Holds j) (fun _ _ _ => False) :=
      ensures_record fun _ _ start => start.append_still rfl rfl
    rcases turn with (text | value) | text
    · exact ensures_bind pulled fun _ => ensures_pure fun _ _ start => ⟨start, by simp⟩
    · rw [appendItems_value]
      refine ensures_bind pulled fun _ => ensures_bind (makeRoom_holds word filling) ?_
      rintro ⟨made, ending⟩
      cases ending with
      | failed | panicked => exact ensures_pure fun _ _ start => ⟨start.1, by simp⟩
      | aborted => exact ensures_pure fun _ _ start => ⟨start.1, start.2⟩
      | done _ =>
        simp only [putNext]
        split
        · exact ensures_pure fun _ _ start => ⟨start.1, by simp⟩
        · rename_i room
          exact (ih (made.put value)).imp
            (fun _ _ start => start.1.put (Bool.eq_false_iff.mpr room) value)
            (fun _ _ _ => id) fun _ _ _ => id
    · exact ensures_bind pulled fun _ => ensures_pure fun _ _ start => ⟨start, by simp⟩

theorem assignItems_holds (room : Nat) (items : List (Yield α)) (filling : Filling α) :
    Ensures (fun (_ : σ) j => filling.Holds j) (assignItems room items filling)
      (fun made _ j => made.1.Holds j ∧ made.2 ≠ .aborted) (fun _ _ _ => False) := by
  induction items generalizing filling with
  | nil => exact ensures_pure fun _ _ start => ⟨start, by simp⟩
  | cons turn rest ih =>
    unfold assignItems
    split
    · exact ensures_pure fun _ _ start => ⟨start, by simp⟩
    rename_i more
    have notFull : filling.isFull = false := by
      simp_all
    have pulled : Ensures (fun (_ : σ) j => filling.Holds j) (record [.pulled])
        (fun _ _ j => filling.Holds j) (fun _ _ _ => False) :=
      ensures_record fun _ _ start => start.append_still rfl rfl
    refine ensures_bind pulled fun _ => ?_
    cases turn with
    | panic text => exact ensures_pure fun _ _ start => ⟨start, by simp⟩
    | item value =>
      exact (ih (filling.put value)).imp (fun _ _ start => start.put notFull value)
        (fun _ _ _ => id) fun _ _ _ => id

theorem rentFirst_owes (minLen : Nat) :
    Ensures (fun _ j => j.traffic = []) (pool.rentChecked minLen)
      (fun slots _ j => minLen ≤ slots.length ∧ j.Owes [slots.length]) (fun _ _ j => j.Owes []) :=
  (rentChecked_owes minLen []).imp
    (fun _ _ still => ⟨.of_still still, by simp [(Journal.lent_of_traffic_nil still).1]⟩)
    (fun _ _ _ => id) fun _ _ _ => And.right

/-- A call keeps the books if a buffer is kept exactly when it succeeds. -/
def KeepsBooks (act : Act σ α (Populated α)) : Prop :=
  Ensures (fun _ j => j.traffic = []) act (fun populated _ j => populated.Fits ∧ j.Owes populated.held)
    (fun _ _ j => j.Owes [])

theorem settle_populated {filling : Filling α} {ending : Exit Unit} :
    Ensures (fun _ j => filling.Holds j ∧ ending ≠ .aborted)
      (pool.settle clear filling.slots (ending.map fun _ => filling.populated))
      (fun populated _ j => populated.Fits ∧ j.Owes populated.held) (fun _ _ j => j.Owes []) := by
  refine ensures_given (fun _ _ start => And.intro start.1.fits start.2) fun ⟨fits, ended⟩ => ?_
  refine (settle_owes filling.slots _ ?_).imp (fun _ _ start => start.1.owes) ?_ fun _ _ _ => id
  · cases ending <;> simp_all [Exit.map]
  · rintro populated _ _ ⟨same, owes⟩
    cases ending with
    | done _ =>
      cases same
      exact ⟨fits, owes⟩
    | failed | panicked | aborted => cases same

theorem fillAtOnce_owes {length : Nat} {slots : List α} {copy : List α → Copy α}
    (enough : length ≤ slots.length) (nonempty : 0 < length)
    (keeps : ∀ target, (copy target).target.length = target.length) :
    Ensures (fun _ j => j.Owes [slots.length]) (pool.fillAtOnce clear length slots copy)
      (fun populated _ j => populated.Fits ∧ j.Owes populated.held) (fun _ _ j => j.Owes []) := by
  unfold fillAtOnce
  rw [if_neg (Nat.not_lt.mpr enough)]
  have filled : ((copy (slots.take length)).target ++ slots.drop length).length = slots.length := by
    simp only [List.length_append, keeps, List.length_take, List.length_drop]
    omega
  have offered : Ensures (fun (_ : σ) (j : Journal α) => j.Owes [slots.length])
      (record (.offered (slots.take length) :: (copy (slots.take length)).cloned.map .cloned))
      (fun _ _ j => j.Owes [((copy (slots.take length)).target ++ slots.drop length).length])
      (fun _ _ j => j.Owes []) := by
    rw [filled]
    refine ensures_record fun _ _ start => start.append_still ?_ ?_
    · simp [Event.lent?, Journal.lent]
    · simp [Event.handed?, Journal.handed]
  refine ensures_bind offered fun _ => ?_
  refine (settle_owes _ _ ?_).imp (fun _ _ => id) ?_ fun _ _ _ => id
  · cases (copy (slots.take length)).ending <;> simp [CopyEnding.exit, Exit.map]
  · rintro populated _ _ ⟨ended, owes⟩
    cases ending : (copy (slots.take length)).ending with
    | finished =>
      rw [ending] at ended
      cases ended
      exact ⟨.of_room (by omega) (by omega), owes⟩
    | failed | panicked => simp [ending, CopyEnding.exit, Exit.map] at ended

theorem appendAll_owes [Element α] (items : List (Yield (Except String α))) {slots : List α}
    (room : 0 < slots.length) :
    Ensures (fun _ j => j.Owes [slots.length])
      (pool.appendItems clear (Element.maxLen α) items (.start slots) >>= fun made =>
        pool.settle clear made.1.slots (made.2.map fun _ => made.1.populated))
      (fun populated _ j => populated.Fits ∧ j.Owes populated.held) (fun _ _ j => j.Owes []) := by
  have appended : Ensures (fun _ j => (Filling.start slots).Holds j)
      (pool.appendItems clear (Element.maxLen α) items (.start slots)) _ _ :=
    appendItems_holds (Element.maxLen_le_maxWord α) items (.start slots)
  have start (s : σ) (j : Journal α) (owes : j.Owes [slots.length]) :
      (Filling.start slots).Holds j := ⟨Nat.zero_le _, room, owes⟩
  exact ensures_bind (appended.before start).unstopped fun made => settle_populated

theorem fill_owes [Element α] {capacity : Nat} {method : Method α} {slots : List α}
    (nonempty : 0 < method.firstLen capacity) (enough : method.firstLen capacity ≤ slots.length) :
    Ensures (fun _ j => j.Owes [slots.length]) (pool.fill clear method slots)
      (fun populated _ j => populated.Fits ∧ j.Owes populated.held) (fun _ _ j => j.Owes []) := by
  have room : 0 < slots.length := Nat.lt_of_lt_of_le nonempty enough
  cases method with
  | withCount count => exact ensures_pure fun _ _ owes => ⟨.of_room enough room, owes⟩
  | copySlice source => exact fillAtOnce_owes enough nonempty (length_cloneRun source)
  | copyFrom source => exact fillAtOnce_owes enough nonempty source.length_copyTo
  | collectExact reported items =>
    have start (s : σ) (j : Journal α) (owes : j.Owes [slots.length]) :
        (Filling.start slots).Holds j := ⟨Nat.zero_le _, room, owes⟩
    have assigned := assignItems_holds (σ := σ) reported items (.start slots)
    exact ensures_bind (assigned.before start).unstopped fun made => settle_populated
  | collect items => exact appendAll_owes _ room
  | tryCollect items => exact appendAll_owes items room

end Pool

def Buffer.held (buffer : Buffer ι α) : List Nat := (buffer.slots.map List.length).toList

namespace Buffer

variable {buffer : Buffer ι α}

theorem length_held (buffer : Buffer ι α) : buffer.held.length = buffer.slots.toList.length := by
  rw [held]
  cases buffer.slots <;> rfl

/-- What is rented for a buffer has room for something, so there are slots just if there is
capacity. -/
theorem held_of_rented (rented : buffer.slots ≠ some []) :
    buffer.held = if 0 < buffer.capacity then [buffer.capacity] else [] := by
  cases slots : buffer.slots with
  | none => simp [held, capacity, slots]
  | some own =>
    have room : 0 < own.length := by
      rw [List.length_pos_iff]
      rintro rfl
      exact rented slots
    simp [held, capacity, slots, room]

theorem rented_of_lengths {before : Buffer ι α}
    (lengths : buffer.slots.map List.length = before.slots.map List.length)
    (rented : before.slots ≠ some []) : buffer.slots ≠ some [] := by
  intro emptied
  rw [emptied] at lengths
  obtain ⟨slots, held, length⟩ := Option.map_eq_some_iff.mp lengths.symm
  rw [List.length_eq_zero_iff.mp length] at held
  exact rented held

end Buffer

namespace Act

/-- A construction keeps the books if its buffer owns just the slots that are still out, from the
pool of the handle. -/
def Builds (handle : ι) (act : Act σ α (Buffer ι α)) : Prop :=
  Ensures (fun _ j => j.traffic = []) act
    (fun buffer _ j => buffer.handle = handle ∧ buffer.slots ≠ some [] ∧ j.Owes buffer.held)
    (fun _ _ j => j.Owes [])

variable [Element α] (pools : ι → Pool σ α)

theorem populate_books (settings : Settings ι) (method : Method α) :
    Pool.KeepsBooks (settings.populate pools method) := by
  have measured : Ensures (fun (_ : σ) j => j.traffic = []) (record method.measurement)
      (fun _ _ j => j.traffic = []) (fun _ _ j => j.Owes []) := by
    refine ensures_record fun _ _ still => ?_
    cases method <;> simpa [Method.measurement, Journal.traffic, Journal.isTraffic] using still
  apply Settings.ensures_populate measured
  · exact fun _ _ _ _ _ _ => .of_still
  · exact fun _ _ _ still => ⟨.nothing, .of_still still⟩
  · exact fun _ _ => Pool.rentFirst_owes _
  · intro nonempty slots
    refine ensures_given (fun _ _ start => start.1) fun enough => ?_
    exact (Pool.fill_owes nonempty enough).before fun _ _ => And.right

theorem build_builds (settings : Settings ι) (method : Method α) :
    Builds settings.handle (settings.build pools method) := by
  rw [Settings.build_eq_populate]
  refine ensures_bind (populate_books pools settings method) fun populated => ?_
  refine ensures_given (fun _ _ start => start.1) fun fits => ?_
  unfold Buffer.ofPopulated
  rw [dif_pos fits.bound]
  exact ensures_pure fun _ _ start => ⟨rfl, fits.rented, start.2⟩

theorem fromIterator_builds (handle : ι) (hint : Nat) (items : List (Yield α)) :
    Builds handle (Buffer.fromIterator pools handle hint items) := by
  unfold Buffer.fromIterator
  dsimp only
  apply ensures_expect
  have same : (if 0 < hint then (Settings.standard handle).apply
      (.suggestedCapacity (min hint (Element.maxLen α))) else Settings.standard handle).handle =
      handle := by split <;> rfl
  refine (build_builds pools _ (.collect items)).imp (fun _ _ => id) ?_ ?_
  · rintro buffer _ _ ⟨owner, rest⟩
    exact ⟨owner.trans same, rest⟩
  · intro ending _ _ owes
    cases ending <;> exact owes

end Act

end BufferRental
