import BufferRental.Proofs.Taking

/-! How many items a population takes. A success takes all that the method is ready for, and counts
them. A turn that fails is the last one. If the pool does not lend, nothing is taken at the first
request, and at a later one only the item for which it was made. -/
namespace BufferRental

open Act

inductive Settings.Takes [Element α] (pools : ι → Pool σ α) (settings : Settings ι)
    (method : Method α) : Exit (Buffer ι α) → Journal α → Prop where
  | refused {parameter : String} {length : Nat}
      (checked : method.checked? settings.suggestedCapacity = some (parameter, length))
      (long : Element.maxLen α < length) :
    Takes pools settings method (.failed (.tooLong parameter length (Element.maxLen α))) []
  | nothing (zero : method.firstLen settings.suggestedCapacity = 0) :
    Takes pools settings method (.done (.empty (settings.clear α) settings.handle)) []
  | denied {panic : Panic} {asked : Journal α}
      (denied : (pools settings.handle).Denies (method.firstLen settings.suggestedCapacity) panic
        asked) :
    Takes pools settings method (.panicked panic) asked
  | whole {buffer : Buffer ι α} {stored : List α} {filling : Filling α} {journal : Journal α}
      (all : method.turns = Yield.ofValues stored)
      (store : filling.Stored (settings.clear α) (Element.maxLen α)
        (method.firstLen settings.suggestedCapacity) stored journal)
      (slots : buffer.slots = some filling.slots) (count : buffer.count = stored.length) :
    Takes pools settings method (.done buffer) journal
  | part {held : Filling α} {failure : Exit Empty} {panic? : Option Panic} {past back : Journal α}
      (breaks : (pools settings.handle).Breaks (settings.clear α) (Element.maxLen α)
        (method.firstLen settings.suggestedCapacity) method.turns held failure past)
      (gone : (pools settings.handle).TakesBack held.slots (settings.clear α) panic? back) :
    Takes pools settings method (failure.overtaken panic?).raised (past ++ back)

namespace Settings

variable [Element α] (pools : ι → Pool σ α) (settings : Settings ι) {method : Method α}

theorem populate_takes (iterates : method.iterates = true) :
    Ensures (fun _ j => j = []) (settings.populate pools method)
      (fun populated _ j =>
        (populated = ⟨none, 0⟩ ∧ method.firstLen settings.suggestedCapacity = 0 ∧ j = []) ∨
        ∃ (stored : List α) (filling : Filling α), populated = filling.populated ∧
          method.turns = Yield.ofValues stored ∧ filling.Stored (settings.clear α) (Element.maxLen α)
            (method.firstLen settings.suggestedCapacity) stored j)
      (fun ending _ j => settings.Takes pools method ending.raised j) := by
  have asked : Ensures (fun (_ : σ) j => j = []) (record method.measurement)
      (fun _ _ j => j = []) fun ending _ j => settings.Takes pools method ending.raised j :=
    ensures_record fun _ _ none => by rw [none, Method.measurement_of_iterates iterates]; rfl
  apply ensures_populate asked
  · rintro parameter length checked long _ _ rfl
    exact .refused checked long
  · exact fun zero _ _ none => .inl ⟨rfl, zero, none⟩
  · intro _ _
    refine ((pools settings.handle).rentChecked_exact _ []).stops ?_
    rintro _ _ _ ⟨panic, asked, rfl, denied, rfl⟩
    exact .denied denied
  · intro positive slots
    refine ensures_given (fun _ _ lent => lent.1) fun enough => ?_
    refine Ensures.before (ensures_each fun past start => ?_) fun _ _ lent => lent.2
    obtain ⟨notes, rfl⟩ := start
    refine (Pool.fill_took iterates positive enough notes).imp (fun _ _ => id) ?_ ?_
    · exact fun _ _ _ took => .inr took
    · rintro _ _ _ ⟨held, failure, past, panic?, back, rfl, breaks, gone, rfl⟩
      exact .part breaks gone

theorem build_takes (iterates : method.iterates = true) :
    Concludes (fun _ j => j = []) (settings.build pools method)
      fun exit _ j => settings.Takes pools method exit j := by
  rw [build_eq_populate]
  refine ensures_bind (populate_takes pools settings iterates) fun populated =>
    ensures_each fun past start => ?_
  obtain ⟨rfl, zero, rfl⟩ | ⟨stored, filling, rfl, all, store⟩ := start
  · have empty : (Buffer.ofPopulated (settings.clear α) settings.handle ⟨none, 0⟩ : Act σ α _) =
        return .empty (settings.clear α) settings.handle := rfl
    rw [empty]
    refine ensures_pure fun _ _ same => ?_
    rw [same]
    exact .nothing zero
  · have owned : (Buffer.ofPopulated (settings.clear α) settings.handle filling.populated :
        Act σ α _) = return ⟨some filling.slots, filling.written, settings.clear α,
          settings.handle, store.fits⟩ := dif_pos store.fits
    rw [owned]
    refine ensures_pure fun _ _ same => ?_
    rw [same]
    exact .whole all store rfl store.written

namespace Takes

variable {pools settings} {exit : Exit (Buffer ι α)} {journal : Journal α}

theorem of_done {buffer : Buffer ι α} (iterates : method.iterates = true)
    (takes : settings.Takes pools method exit journal) (ended : exit = .done buffer) :
    journal.pulls = method.ready ∧ buffer.count = method.ready := by
  cases takes with
  | refused | denied => cases ended
  | part breaks gone => exact absurd ended (Exit.raised_ne_done _ _)
  | nothing zero =>
    cases ended
    rw [method.ready_eq_zero zero iterates]
    exact ⟨rfl, rfl⟩
  | whole all store slots count =>
    cases ended
    rw [← method.length_turns, all, Yield.length_ofValues]
    exact ⟨store.pulls, count⟩

/-- No turn is taken after one that fails. -/
theorem pulls_le (takes : settings.Takes pools method exit journal) {k : Nat}
    {turn : Yield (Except String α)} {failure : Exit Empty} (there : method.turns[k]? = some turn)
    (fails : turn.failure? = some failure) : journal.pulls ≤ k + 1 := by
  cases takes with
  | refused | nothing => exact Nat.zero_le _
  | denied denied => simp [denied.silent]
  | whole all store =>
    have before := Yield.length_le_of_failure (all.trans (List.append_nil _).symm) there fails
    rw [store.pulls]
    omega
  | part breaks gone =>
    cases breaks with
    | failed split _ store =>
      have before := Yield.length_le_of_failure split there fails
      simpa [store.pulls, gone.silent, Journal.isPull] using before
    | stalled split store full stalls =>
      have before := Yield.length_le_of_failure split there fails
      simpa [store.pulls, stalls.pulls, gone.silent, Journal.isPull] using before

theorem of_failure (takes : settings.Takes pools method exit journal)
    (iterates : method.iterates = true) (admitted : method.Admitted settings.suggestedCapacity)
    (served : journal.Served) {k : Nat} {turn : Yield (Except String α)} {failure : Exit Empty}
    (there : method.turns[k]? = some turn) (fails : turn.failure? = some failure)
    (first : ∀ i < k, ∀ earlier, method.turns[i]? = some earlier → earlier.failure? = none)
    (within : k ≤ Element.maxLen α) : exit = failure.raised ∧ journal.pulls = k + 1 := by
  have inside : k < method.turns.length := (List.getElem?_eq_some_iff.mp there).1
  cases takes with
  | refused checked long => exact absurd (admitted _ _ checked) (Nat.not_le.mpr long)
  | nothing zero =>
    rw [method.length_turns, method.ready_eq_zero zero iterates] at inside
    exact absurd inside (Nat.not_lt_zero k)
  | denied denied => exact absurd served denied.silent.2.2
  | whole all store =>
    have before := Yield.length_le_of_failure (all.trans (List.append_nil _).symm) there fails
    rw [all, Yield.length_ofValues] at inside
    exact absurd inside (Nat.not_lt.mpr before)
  | part breaks gone =>
    rw [Journal.served_append] at served
    cases gone.calm served.2
    cases breaks with
    | @failed stored turn' rest _ _ _ split fails' store =>
      have before := Yield.length_le_of_failure split there fails
      have place : method.turns[stored.length]? = some turn' := by
        rw [split, List.getElem?_append_right (by simp)]
        simp
      rcases Nat.lt_or_eq_of_le before with early | rfl
      · cases (first _ early _ place).symm.trans fails'
      · cases place.symm.trans there
        cases fails.symm.trans fails'
        exact ⟨rfl, by simp [store.pulls, gone.silent, Journal.isPull]⟩
    | @stalled stored value rest _ _ _ _ _ split store full stalls =>
      have before := Yield.length_le_of_failure split there fails
      have place : method.turns[stored.length]? = some (.item (.ok value)) := by
        rw [split, List.getElem?_append_right (by simp)]
        simp
      have late : Journal.Served (_ ++ .pulled :: _) := served.1
      rw [Journal.served_append, Journal.served_cons] at late
      have reached := stalls.reached late.2.2
      rw [(store.of_isFull full).1] at reached
      have same : k = stored.length := by omega
      cases (same ▸ place).symm.trans there
      cases fails

/-- Where the pool does not lend: nothing was taken if it never did, and otherwise the items that are
handed back and the one that has no place. -/
theorem of_unserved (takes : settings.Takes pools method exit journal) {request : Nat}
    {granted : Option (List α)} (asked : .rented request granted ∈ journal)
    (unserved : (Event.rented request granted).served = false) :
    (journal.lent = [] → journal.pulls = 0) ∧
      (journal.lent ≠ [] → ∃ stored value rest,
        method.turns = Yield.ofValues stored ++ .item (.ok value) :: rest ∧
          journal.handed.getLast? = some stored ∧ journal.pulls = stored.length + 1) := by
  cases takes with
  | refused | nothing => cases asked
  | denied denied => exact ⟨fun _ => denied.silent.1, fun lent => absurd denied.silent.2.1 lent⟩
  | whole all store => exact absurd asked (store.not_mem unserved)
  | part breaks gone =>
    obtain ⟨verdict, notes, rfl⟩ := gone.eq_returned
    cases breaks with
    | @failed _ _ _ _ _ past split fails store =>
      have earlier : .rented request granted ∈ past := by simpa using asked
      exact absurd earlier (store.not_mem unserved)
    | @stalled _ _ _ _ _ _ past late split store full stalls =>
      have apart : .rented request granted ∈ past ∨ .rented request granted ∈ late := by
        simpa using asked
      rcases apart with earlier | later
      · exact absurd earlier (store.not_mem unserved)
      · obtain ⟨rfl, _⟩ := stalls.of_unserved later unserved
        have lent : past.lent ≠ [] := by
          obtain ⟨first, rest, grown⟩ := store.grown
          rw [grown.grew.lent]
          exact List.cons_ne_nil _ _
        refine ⟨fun none => ?_, fun _ => ⟨_, _, _, split, ?_, ?_⟩⟩
        · simp [lent] at none
        · simp [Event.handed?, (store.of_isFull full).1]
        · simp [store.pulls, stalls.pulls, Journal.isPull]

end Takes

theorem build_collectExact_take (reported : Nat) (items : List (Yield α)) :
    settings.build pools (.collectExact reported items) =
      settings.build pools (.collectExact reported (items.take reported)) := by
  have same (slots : List α) : (Pool.assignItems reported items (.start slots) : Act σ α _) =
      Pool.assignItems reported (items.take reported) (.start slots) :=
    Pool.assignItems_take reported items (.start slots)
  simp only [build_eq_populate, populate, Pool.collectExact, same]

/-- How many items are taken from an iterator. A success takes just those that the method is ready
for, and counts them; of a known length these are no more than reported, whatever the pool lent. No
item is taken after one that fails, and the first such is reached if the pool serves all requests. If
the pool does not lend, nothing is taken unless it lent before; and if it did, then just the items
that come back to it and one more. -/
theorem items_taken_exactly (method : Method α) (iterates : method.iterates = true) (s : σ) :
    let outcome := (settings.build pools method).run s
    let taken := outcome.journal.pulls
    (∀ buffer, outcome.exit = .done buffer → taken = method.ready ∧ buffer.count = method.ready) ∧
      (∀ k turn failure, method.turns[k]? = some turn → turn.failure? = some failure →
        (k < taken → taken = k + 1) ∧
          (method.Admitted settings.suggestedCapacity → outcome.journal.Served →
            (∀ i < k, ∀ earlier, method.turns[i]? = some earlier → earlier.failure? = none) →
            k ≤ Element.maxLen α → outcome.exit = failure.raised ∧ taken = k + 1)) ∧
      (∀ request granted, .rented request granted ∈ outcome.journal →
        (Event.rented request granted).served = false →
        (outcome.journal.lent = [] → taken = 0) ∧
          (outcome.journal.lent ≠ [] → ∃ stored value rest,
            method.turns = Yield.ofValues stored ++ .item (.ok value) :: rest ∧
              outcome.journal.handed.getLast? = some stored ∧ taken = stored.length + 1)) ∧
      ∀ reported items, method = .collectExact reported items → settings.build pools method =
        settings.build pools (.collectExact reported (items.take reported)) := by
  intro outcome taken
  have takes : settings.Takes pools method outcome.exit outcome.journal :=
    (build_takes pools settings iterates).run s [] rfl
  refine ⟨?_, ?_, ?_, ?_⟩
  · exact fun buffer ended => takes.of_done iterates ended
  · intro k turn failure there fails
    constructor
    · intro reached
      have last := takes.pulls_le there fails
      exact Nat.le_antisymm last reached
    · exact fun admitted served first within =>
        takes.of_failure iterates admitted served there fails first within
  · exact fun request granted asked unserved => takes.of_unserved asked unserved
  · rintro reported items rfl
    exact build_collectExact_take pools settings reported items

/-- The second item has no place, and the pool lends too little for it; the third one is not asked
for. -/
theorem items_taken_exactly_denied :
    let pools : Unit → Pool (PlannedPool UInt8) UInt8 := fun _ => PlannedPool.asPool UInt8
    let method : Method UInt8 := .tryCollect [.item (.ok 1), .item (.ok 2), .item (.error "broken")]
    let outcome := ((⟨.never, 1, ()⟩ : Settings Unit).build pools method).run
      (.start ⟨[0, -1], 4096, 7, [], [], []⟩)
    method.iterates = true ∧ .rented 2 (some [7]) ∈ outcome.journal ∧
      outcome.journal.lent ≠ [] ∧ outcome.journal.handed.getLast? = some [1] ∧
      outcome.journal.pulls = [1].length + 1 := by
  intro pools method outcome
  have asked : .rented 2 (some [7]) ∈ outcome.journal :=
    List.mem_of_getElem? (show outcome.journal[5]? = some _ from rfl)
  have lent : outcome.journal.lent ≠ [] := by decide
  obtain ⟨_, _, denied, _⟩ := items_taken_exactly pools ⟨.never, 1, ()⟩ method rfl
    (.start ⟨[0, -1], 4096, 7, [], [], []⟩)
  obtain ⟨stored, _, _, _, last, pulls⟩ := (denied 2 (some [7]) asked rfl).2 lent
  have one : outcome.journal.handed.getLast? = some [1] := by decide
  cases one.symm.trans last
  exact ⟨rfl, asked, lent, one, pulls⟩

end Settings

end BufferRental
