import BufferRental.Proofs.Consumption
import BufferRental.Proofs.OneLoan

/-! Pools that lend too little. Whichever request it is, the population stops right there: the short
buffer is not written, it does not go back, and the library logs nothing of it. A buffer that was held
until then goes back once, full of the items that were stored in it. -/
namespace BufferRental

open Act

def Journal.Ample (journal : Journal α) : Prop :=
  ∀ request granted, .rented request (some granted) ∈ journal → request ≤ granted.length

theorem Journal.ample_of_calls {journal : Journal α}
    (ample : ∀ request granted, .rent request (some granted) ∈ journal.calls → request ≤ granted) :
    journal.Ample := by
  intro request granted lent
  exact ample request granted.length (List.mem_filterMap.mpr ⟨_, lent, rfl⟩)

theorem Method.ample_measurement (method : Method α) : method.measurement.Ample := by
  intro request granted lent
  cases method <;> simp [measurement] at lent

namespace Pool

variable {pool : Pool σ α}

theorem Denies.of_mem {asked : Nat} {panic : Panic} {events : Journal α}
    (denied : pool.Denies asked panic events) {request : Nat} {granted : List α}
    (lent : .rented request (some granted) ∈ events) :
    request = asked ∧ panic = .shortGrant request granted.length ∧
      ∃ s next notes, pool.rent request s = ⟨.ok granted, next, notes⟩ ∧
        events = .rented request (some granted) :: notes.map .noted := by
  cases denied with
  | panicked => simp at lent
  | short reply less =>
    obtain ⟨rfl, rfl⟩ : request = _ ∧ granted = _ := by simpa using lent
    exact ⟨rfl, rfl, _, _, _, reply, rfl⟩

/-- Once a population that does not grow has its buffer, it asks for no other. -/
theorem fill_ample [Element α] {clear : Bool} {capacity : Nat} {method : Method α}
    (fixed : method.heedsCapacity = false) {slots : List α}
    (enough : method.firstLen capacity ≤ slots.length) (notes : List Note) :
    Ensures (fun _ j => j = method.measurement ++
        .rented (method.firstLen capacity) (some slots) :: notes.map .noted)
      (pool.fill clear method slots) (fun _ _ j => j.Ample) fun _ _ j => j.Ample := by
  let calls : List Call :=
    [.rent (method.firstLen capacity) (some slots.length), .hand slots.length clear]
  have reaches {rest : List Call} {j : Journal α} (made : j.calls ++ rest = calls) : j.Ample := by
    apply Journal.ample_of_calls
    intro request granted lent
    have among : Call.rent request (some granted) ∈ calls := made ▸ List.mem_append_left _ lent
    obtain ⟨rfl, rfl⟩ : request = method.firstLen capacity ∧ granted = slots.length := by
      simpa [calls] using among
    exact enough
  have filled : Ensures (Owing (fun _ => True) clear [slots.length] calls)
      (pool.fill clear method slots) (Holding (fun _ => True) clear calls)
      fun _ => After (fun _ => True) calls := (takesIn_any pool).fill fixed enough
  refine filled.imp ?_ ?_ ?_
  · rintro _ _ rfl
    have measured : method.measurement.calls = [] := by cases method <;> rfl
    exact ⟨trivial, by simp [calls, measured, Event.call?]⟩
  · rintro _ _ _ ⟨_, _, _, made⟩
    exact reaches made
  · rintro _ _ _ ⟨_, made⟩
    exact reaches ((List.append_nil _).trans made)

end Pool

/-- How a population ends whose pool lent these slots for a longer request, and its journal. The
panic is the one of the short buffer, whatever else happens; only if the pool panics in taking the
buffer back that was held so far, it does not get to the caller. -/
inductive Settings.Catches [Element α] (pools : ι → Pool σ α) (settings : Settings ι)
    (method : Method α) (request : Nat) (granted : List α) (notes : List Note) :
    Exit (Buffer ι α) → Journal α → Prop where
  /-- There is no buffer yet, and the source was asked its length at most. -/
  | first (asked : request = method.firstLen settings.suggestedCapacity) :
    Catches pools settings method request granted notes
      (.panicked (.shortGrant request granted.length))
      (method.measurement ++ .rented request (some granted) :: notes.map .noted)
  /-- One buffer is held, which is the last one that was lent, and it is full. -/
  | later {stored : List α} {value : α} {rest : List (Yield (Except String α))}
      {past back : Journal α} {panic? : Option Panic}
      (split : method.turns = Yield.ofValues stored ++ .item (.ok value) :: rest)
      (grows : nextLen stored.length (Element.maxLen α) = some request) (served : past.Served)
      (pulls : past.pulls = stored.length + 1)
      (held : past.lent.length = past.handed.length + 1)
      (full : past.lent.getLast?.map List.length = some stored.length)
      (gone : (pools settings.handle).TakesBack stored (settings.clear α) panic? back) :
    Catches pools settings method request granted notes
      (Exit.overtaken (.panicked (.shortGrant request granted.length)) panic?).raised
      (past ++ .rented request (some granted) :: (notes.map .noted ++ back))

namespace Settings

variable [Element α] (pools : ι → Pool σ α) (settings : Settings ι) (method : Method α)

/-- A population that does not grow is denied its only request, or it never sees a short buffer. -/
theorem build_ample (fixed : method.heedsCapacity = false) :
    Concludes (fun _ j => j = []) (settings.build pools method) fun exit _ j => j.Ample ∨
      ∃ panic events, exit = .panicked panic ∧ j = method.measurement ++ events ∧
        (pools settings.handle).Denies (method.firstLen settings.suggestedCapacity) panic events := by
  have measured : Ensures (fun (_ : σ) j => j = []) (record method.measurement)
      (fun _ _ j => j = method.measurement) (fun _ _ _ => False) :=
    ensures_record fun _ _ none => by rw [none]; rfl
  have populated : Ensures (fun _ j => j = []) (settings.populate pools method)
      (fun _ _ j => j.Ample) fun ending _ j => j.Ample ∨
        ∃ panic events, (ending.raised : Exit (Buffer ι α)) = .panicked panic ∧
          j = method.measurement ++ events ∧
          (pools settings.handle).Denies (method.firstLen settings.suggestedCapacity) panic
            events := by
    apply ensures_populate measured.unstopped
    · rintro _ _ _ _ _ _ rfl
      exact .inl method.ample_measurement
    · rintro _ _ _ rfl
      exact method.ample_measurement
    · intro _ _
      refine ((pools settings.handle).rentChecked_exact _ method.measurement).stops ?_
      rintro _ _ _ ⟨panic, events, rfl, denied, rfl⟩
      exact .inr ⟨panic, events, rfl, rfl, denied⟩
    · intro _ slots
      refine ensures_given (fun _ _ lent => lent.1) fun enough => ?_
      refine Ensures.before (ensures_each fun past start => ?_) fun _ _ lent => lent.2
      obtain ⟨notes, rfl⟩ := start
      exact (Pool.fill_ample fixed enough notes).stops fun _ _ _ => .inl
  rw [build_eq_populate]
  refine ensures_bind populated fun made => ?_
  unfold Buffer.ofPopulated
  split
  · exact ensures_pure fun _ _ => .inl
  · exact ensures_raise fun _ _ => .inl

variable {pools settings method}

theorem catches_first {request : Nat} {granted : List α} {panic : Panic} {events : Journal α}
    {exit : Exit (Buffer ι α)} {journal : Journal α}
    (denied : (pools settings.handle).Denies (method.firstLen settings.suggestedCapacity) panic events)
    (ended : exit = .panicked panic) (whole : journal = method.measurement ++ events)
    (lent : .rented request (some granted) ∈ events) :
    ∃ s next notes, (pools settings.handle).rent request s = ⟨.ok granted, next, notes⟩ ∧
      settings.Catches pools method request granted notes exit journal := by
  obtain ⟨asked, rfl, s, next, notes, reply, rfl⟩ := denied.of_mem lent
  subst ended whole
  exact ⟨s, next, notes, reply, .first asked⟩

theorem Takes.catches {exit : Exit (Buffer ι α)} {journal : Journal α}
    (takes : settings.Takes pools method exit journal) (iterates : method.iterates = true)
    {request : Nat} {granted : List α} (lent : .rented request (some granted) ∈ journal)
    (short : granted.length < request) :
    ∃ s next notes, (pools settings.handle).rent request s = ⟨.ok granted, next, notes⟩ ∧
      settings.Catches pools method request granted notes exit journal := by
  have unserved : (Event.rented request (some granted)).served = false := by
    simp [Event.served, Nat.not_le.mpr short]
  cases takes with
  | refused | nothing => cases lent
  | denied denied =>
    exact catches_first denied rfl (by rw [Method.measurement_of_iterates iterates]; rfl) lent
  | whole all store => exact absurd lent (store.not_mem unserved)
  | @part _ _ _ _ back breaks gone =>
    obtain ⟨verdict, notes, same⟩ := gone.eq_returned
    cases breaks with
    | @failed _ _ _ _ _ past split fails store =>
      have earlier : .rented request (some granted) ∈ past := by simpa [same] using lent
      exact absurd earlier (store.not_mem unserved)
    | @stalled stored _ _ _ filling _ past late split store full stalls =>
      have apart : .rented request (some granted) ∈ past ∨ .rented request (some granted) ∈ late := by
        simpa [same] using lent
      rcases apart with earlier | later
      · exact absurd earlier (store.not_mem unserved)
      · obtain ⟨rfl, next, panic, events, rfl, grows, denied, rfl⟩ := stalls.of_unserved later unserved
        have among : .rented request (some granted) ∈ events := by simpa using later
        obtain ⟨rfl, rfl, s, after, notes', reply, rfl⟩ := denied.of_mem among
        obtain ⟨slots, current, held⟩ := store.of_isFull full
        rw [slots] at grows gone
        have caught : settings.Catches pools method request granted notes' _
            (past ++ [.pulled, .noted (.growing stored.length request)] ++
              .rented request (some granted) :: (notes'.map .noted ++ back)) :=
          .later split grows (by simp [store.served, Event.served])
            (by simp [store.pulls, Journal.isPull])
            (by simpa [Event.lent?, Event.handed?] using held)
            (by simpa [Event.lent?] using current) gone
        exact ⟨s, after, notes', reply, by simpa [slots] using caught⟩

theorem Catches.exit_eq {request : Nat} {granted : List α} {notes : List Note}
    {exit : Exit (Buffer ι α)} {journal : Journal α}
    (caught : settings.Catches pools method request granted notes exit journal) :
    exit = .panicked (.shortGrant request granted.length) ∨
      exit = .aborted ∧ ∃ held, .returned held (settings.clear α) .panicked ∈ journal := by
  cases caught with
  | first => exact .inl rfl
  | @later stored _ _ _ _ _ _ _ _ _ _ _ gone =>
    cases gone with
    | accepted | refused => exact .inl rfl
    | panicked => exact .inr ⟨rfl, stored, by simp⟩

variable (pools settings method)

/-- A buffer that is shorter than asked is never used, at whichever request of whichever population
the pool lends it. The panic names what was asked and what came. At the first request nothing else
happened but that the source may have been asked its length. At a later one, all requests before it
were served, one item was taken that has no place yet, and the buffer that is held goes back in one
call, filled by the items that came before in their order. If the pool panics in that call, all ends
at once, and no panic gets to the caller. -/
theorem short_grant_caught (s : σ) {request : Nat} {granted : List α}
    (lent : .rented request (some granted) ∈ ((settings.build pools method).run s).journal)
    (short : granted.length < request) :
    let outcome := (settings.build pools method).run s
    let cause := "pool returned a buffer shorter than the requested length - the pool is broken"
    (Panic.shortGrant request granted.length).message =
        s!"{cause}: requested {request}, received {granted.length}" ∧
      (outcome.exit = .panicked (.shortGrant request granted.length) ∨ outcome.exit = .aborted ∧
        ∃ held, .returned held (settings.clear α) .panicked ∈ outcome.journal) ∧
      ∃ before next notes,
        (pools settings.handle).rent request before = ⟨.ok granted, next, notes⟩ ∧
          settings.Catches pools method request granted notes outcome.exit outcome.journal := by
  intro outcome cause
  suffices answered : ∃ before next notes,
      (pools settings.handle).rent request before = ⟨.ok granted, next, notes⟩ ∧
        settings.Catches pools method request granted notes outcome.exit outcome.journal by
    obtain ⟨before, next, notes, reply, caught⟩ := answered
    exact ⟨rfl, caught.exit_eq, before, next, notes, reply, caught⟩
  cases growing : method.heedsCapacity with
  | false =>
    obtain ample | ⟨panic, events, ended, whole, denied⟩ :=
      (build_ample pools settings method growing).run s [] rfl
    · exact absurd short (Nat.not_lt.mpr (ample _ _ lent))
    · refine catches_first denied ended whole ?_
      have among : .rented request (some granted) ∈ method.measurement ++ events := whole ▸ lent
      cases method <;> simpa [Method.measurement] using among
  | true =>
    have iterates : method.iterates = true := by cases method <;> first | rfl | cases growing
    exact ((build_takes pools settings iterates).run s [] rfl).catches iterates lent short

/-- The second item has no place, and one slot is lent where two are asked for. -/
theorem short_grant_caught_growing :
    let pools : Unit → Pool (PlannedPool UInt8) UInt8 := fun _ => PlannedPool.asPool UInt8
    let method : Method UInt8 := .collect [.item 1, .item 2, .item 3]
    let outcome := ((⟨.always, 1, ()⟩ : Settings Unit).build pools method).run
      (.start ⟨[0, -1], 4096, 7, [], [], []⟩)
    outcome.exit = .panicked (.shortGrant 2 1) ∧ outcome.journal.handed = [[1]] ∧
      .rented 2 (some [7]) ∈ outcome.journal ∧ ([7] : List UInt8).length < 2 ∧
      ∃ before next notes, (pools ()).rent 2 before = ⟨.ok [7], next, notes⟩ ∧
        Catches pools (⟨.always, 1, ()⟩ : Settings Unit) method 2 [7] notes outcome.exit
          outcome.journal := by
  intro pools method outcome
  have lent : .rented 2 (some [7]) ∈ outcome.journal :=
    List.mem_of_getElem? (show outcome.journal[5]? = some _ from rfl)
  obtain ⟨_, _, answered⟩ := short_grant_caught pools ⟨.always, 1, ()⟩ method
    (.start ⟨[0, -1], 4096, 7, [], [], []⟩) lent (by decide)
  exact ⟨rfl, by decide, lent, by decide, answered⟩

/-- A pool that lends too little, and panics when the full buffer comes back: the panic of the short
buffer does not get to the caller. -/
theorem short_grant_caught_unreturned :
    let outcome := ((⟨.auto, 1, ()⟩ : Settings Unit).build (fun _ => PlannedPool.asPool UInt8)
      (.collect [.item 1, .item 2, .item 3])).run (.start ⟨[0, -1], 4096, 0, [], [0], []⟩)
    .rented 2 (some [0]) ∈ outcome.journal ∧ ([0] : List UInt8).length < 2 ∧
      outcome.journal.handed = [[1]] ∧ outcome.exit ≠ .panicked (.shortGrant 2 1) := by
  intro outcome
  have lent : .rented 2 (some [0]) ∈ outcome.journal :=
    List.mem_of_getElem? (show outcome.journal[5]? = some _ from rfl)
  have ended : outcome.exit = .aborted := rfl
  exact ⟨lent, by decide, by decide, fun caught => nomatch ended.symm.trans caught⟩

end Settings

end BufferRental
