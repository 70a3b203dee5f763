import BufferRental.Element.Kind
import BufferRental.Pool.Planned
import BufferRental.Proofs.Filling
import BufferRental.Proofs.Traffic

/-! Growing from item to item. The invariant names every buffer that was lent so far: the items
taken stand in the last one, before its other slots, and each buffer before it went back with the
first slots of its successor. From this come the exact calls and the contents of all buffers. -/
namespace BufferRental

/-- The calls after the first one of a population that grows. The buffer at hand has `current`
slots, and the ones that replace it are lent with these lengths. -/
def growthCalls (clear : Bool) (limit : Nat) : Nat → List Nat → List Call
  | _, [] => []
  | current, next :: rest =>
    .rent (min (2 * current) limit) (some next) :: .hand current clear ::
      growthCalls clear limit next rest

theorem growthCalls_concat (clear : Bool) (limit current next : Nat) (rest : List Nat) :
    growthCalls clear limit current (rest ++ [next]) =
      growthCalls clear limit current rest ++
        [.rent (min (2 * rest.getLastD current) limit) (some next),
          .hand (rest.getLastD current) clear] := by
  induction rest generalizing current with
  | nil => rfl
  | cons length rest ih =>
    simp only [List.cons_append, growthCalls, ih length, List.getLastD_cons]

/-- What is handed back when `first` is replaced by one buffer after the other. Each outgrown
buffer gets the first slots of its successor in exchange for its items. -/
def outgrown (first : List α) (later : List (List α)) : List (List α) :=
  List.zipWith (fun new old => new.take old.length) later (first :: later)

theorem outgrown_concat (first next : List α) (later : List (List α)) :
    outgrown first (later ++ [next]) =
      outgrown first later ++ [next.take (later.getLastD first).length] := by
  induction later generalizing first with
  | nil => rfl
  | cons new later ih =>
    have rest := ih new
    simp only [outgrown, List.cons_append, List.zipWith_cons_cons, List.getLastD_cons] at rest ⊢
    rw [rest]

/-- So far `first` and `later` were lent, all but the last of them are outgrown, and no call was
made besides. -/
structure Journal.Grew (clear : Bool) (limit request : Nat) (first : List α)
    (later : List (List α)) (journal : Journal α) : Prop where
  served : journal.Served
  lent : journal.lent = first :: later
  handed : journal.handed = outgrown first later
  calls : journal.calls = .rent request (some first.length) ::
    growthCalls clear limit first.length (later.map List.length)

theorem Journal.Grew.append_still {clear : Bool} {limit request : Nat} {first : List α}
    {later : List (List α)} {journal new : Journal α}
    (grew : journal.Grew clear limit request first later) (served : new.Served)
    (lent : new.lent = []) (handed : new.handed = []) (calls : new.calls = []) :
    Grew clear limit request first later (journal ++ new) := by
  constructor
  · simp [grew.served, served]
  · simp [grew.lent, lent]
  · simp [grew.handed, handed]
  · simp [grew.calls, calls]

theorem Journal.Grew.replace {clear : Bool} {limit request : Nat} {first next : List α}
    {later : List (List α)} {past rented returned : Journal α}
    (grew : past.Grew clear limit request first later)
    (larger : (later.getLastD first).length ≤ next.length)
    (rent : rented.Served ∧ rented.lent = [next] ∧ rented.handed = [] ∧ rented.calls =
      [.rent (min (2 * (later.getLastD first).length) limit) (some next.length)])
    (hand : returned.Served ∧ returned.lent = [] ∧
      returned.handed = [next.take (later.getLastD first).length] ∧
      returned.calls = [.hand (next.take (later.getLastD first).length).length clear]) :
    Grew clear limit request first (later ++ [next]) (past ++ rented ++ returned) := by
  obtain ⟨served, lent, handed, calls⟩ := rent
  obtain ⟨served', lent', handed', calls'⟩ := hand
  constructor
  · simp [grew.served, served, served']
  · simp [grew.lent, lent, lent']
  · simp [grew.handed, handed, handed', outgrown_concat]
  · rw [List.length_take, Nat.min_eq_left larger] at calls'
    simp only [calls_append, grew.calls, calls, calls', List.map_append, List.map_cons, List.map_nil,
      growthCalls_concat, List.getLastD_map]
    simp

theorem short_concat {first next : List α} {later : List (List α)} {need : Nat}
    (short : ∀ lent ∈ (first :: later).dropLast, lent.length < need)
    (current : (later.getLastD first).length ≤ need) :
    ∀ lent ∈ (first :: (later ++ [next])).dropLast, lent.length < need + 1 := by
  rw [← List.cons_append, List.dropLast_concat]
  intro lent member
  rw [← List.dropLast_concat_getLast (List.cons_ne_nil first later), List.mem_append,
    List.mem_singleton, List.getLast_eq_getLastD] at member
  rcases member with early | rfl
  · exact Nat.lt_succ_of_lt (short lent early)
  · exact Nat.lt_succ_of_le current

structure Filling.Took (taken lent : List α) (filling : Filling α) : Prop where
  slots : filling.slots = taken ++ lent.drop taken.length
  written : filling.written = taken.length
  room : taken.length ≤ lent.length

structure Filling.Grown (clear : Bool) (limit request : Nat) (taken : List α) (need : Nat)
    (first : List α) (later : List (List α)) (filling : Filling α) (journal : Journal α) :
    Prop where
  grew : journal.Grew clear limit request first later
  took : filling.Took taken (later.getLastD first)
  positive : 0 < (later.getLastD first).length
  short : ∀ lent ∈ (first :: later).dropLast, lent.length < need

namespace Filling

variable {filling : Filling α} {taken lent : List α}

theorem Took.length (took : filling.Took taken lent) : filling.slots.length = lent.length := by
  have room := took.room
  rw [took.slots, List.length_append, List.length_drop]
  omega

theorem Took.put (took : filling.Took taken lent) (notFull : filling.isFull = false) (value : α) :
    (filling.put value).Took (taken ++ [value]) lent := by
  have room := isFull_eq_false_iff.mp notFull
  rw [took.written, took.length] at room
  obtain ⟨front, back⟩ := put_slots notFull value
  rw [took.slots, took.written] at front back
  have size : (taken ++ [value]).length = taken.length + 1 := by simp
  refine ⟨?_, by rw [written_put, took.written, size], by omega⟩
  rw [← List.take_append_drop (taken.length + 1) (filling.put value).slots, front, back, size]
  simp [List.drop_append]

/-- A full buffer has no slot left, so its successor gets the items and it gets the same number of
slots in exchange. -/
theorem Took.moveInto (took : filling.Took taken lent) (full : filling.isFull = true)
    {next : List α} (larger : lent.length ≤ next.length) :
    ∃ grown, filling.moveInto next = .ok (grown, next.take lent.length) ∧ grown.Took taken next := by
  have filled : taken.length = lent.length := by
    have reached := isFull_iff.mp full
    have room := took.room
    rw [took.written, took.length] at reached
    omega
  have noRest : filling.slots.drop filling.written = [] := by
    rw [List.drop_eq_nil_iff, took.written, took.length]
    omega
  have all : filling.slots.take filling.written = taken := by
    rw [took.slots, took.written]
    simp
  have written : filling.written ≤ filling.slots.length := by
    rw [took.written, took.length]
    omega
  have reach : filling.written ≤ next.length := by
    rw [took.written]
    omega
  have moved := moveInto_eq written reach
  rw [all, noRest, took.written, filled, List.append_nil] at moved
  exact ⟨_, moved, ⟨by rw [filled]; rfl, filled.symm, by omega⟩⟩

end Filling

namespace Pool

open Act

variable {pool : Pool σ α} {clear : Bool} {limit request : Nat}

/-- A full buffer is replaced by the one that is asked for next. It cannot be at the limit if
another item fits within that, so growing fails only if a call is not served. -/
theorem grow_grown (word : limit ≤ maxWord) {taken first : List α} {later : List (List α)}
    {filling : Filling α} (full : filling.isFull = true) :
    Ensures (fun _ j => filling.Grown clear limit request taken taken.length first later j)
      (pool.grow clear limit filling)
      (fun made _ j => match made.2 with
        | .done () => made.1.isFull = false ∧
          ∃ next, made.1.Grown clear limit request taken (taken.length + 1) first (later ++ [next]) j
        | _ => taken.length < limit → ¬ j.Served)
      (fun _ _ _ => False) := by
  refine ensures_given (fun _ _ start => And.intro start.took (And.intro start.positive start.short))
    fun ⟨took, positive, short⟩ => ?_
  have length := took.length
  have reached : taken.length = filling.slots.length := by
    have room := took.room
    have bound := Filling.isFull_iff.mp full
    rw [took.written] at bound
    omega
  unfold grow
  dsimp only
  split
  · rename_i atLimit
    refine ensures_pure fun _ _ _ below => ?_
    have bound := nextLen_eq_none_iff.mp atLimit
    omega
  rename_i asked grows
  obtain ⟨below, doubled⟩ := (nextLen_eq_some_iff word).mp grows
  have noted : Ensures (fun (_ : σ) j =>
      filling.Grown clear limit request taken taken.length first later j)
      (note (.growing filling.slots.length asked))
      (fun _ _ j => j.Grew clear limit request first later) (fun _ _ _ => False) :=
    ensures_record fun _ _ start =>
      start.grew.append_still (by simp [Event.served]) rfl rfl rfl
  refine ensures_bind noted fun _ =>
    ensures_bind (ensures_attempt_satisfies (rentChecked_added _ asked)) fun exit => ?_
  cases exit with
  | done next =>
    refine ensures_given (fun _ _ start => start.1) fun enough => ?_
    have larger : (later.getLastD first).length ≤ next.length := by omega
    obtain ⟨grown, moved, tookNext⟩ := took.moveInto full larger
    simp only [moved]
    refine ensures_bind ((ensures_attempt_satisfies (giveBack_added _ _ clear)).imp
      (fun _ _ start => start.2) (fun _ _ _ => id) fun _ _ _ => id) fun ending =>
      ensures_pure fun _ j after => ?_
    cases ending with
    | failed | panicked | aborted => exact fun _ => after
    | done _ =>
      -- the journal is the one before, then the request, then the return
      obtain ⟨_, returned, rfl, ⟨past, rented, rfl, grew, rent⟩, hand⟩ := after
      have twice : asked = min (2 * (later.getLastD first).length) limit := by omega
      rw [twice] at rent
      refine ⟨?_, next, grew.replace larger rent hand, ?_, ?_, short_concat short ?_⟩
      · rw [Filling.isFull_eq_false_iff, tookNext.written, tookNext.length]
        omega
      · simpa using tookNext
      · rw [List.getLastD_concat]
        omega
      · omega
  | failed | panicked | aborted =>
    exact ensures_pure fun _ _ start _ => start

theorem makeRoom_grown (word : limit ≤ maxWord) {taken first : List α} {later : List (List α)}
    {filling : Filling α} :
    Ensures (fun _ j => filling.Grown clear limit request taken taken.length first later j)
      (pool.makeRoom clear limit filling)
      (fun made _ j => match made.2 with
        | .done () => made.1.isFull = false ∧
          ∃ later, made.1.Grown clear limit request taken (taken.length + 1) first later j
        | _ => taken.length < limit → ¬ j.Served)
      (fun _ _ _ => False) := by
  unfold makeRoom
  by_cases full : filling.isFull = true
  · rw [if_pos full]
    refine (grow_grown word full).imp (fun _ _ => id) ?_ fun _ _ _ => id
    rintro ⟨made, ending⟩ _ _ after
    cases ending with
    | failed | panicked | aborted => exact after
    | done _ =>
      obtain ⟨room, next, grown⟩ := after
      exact ⟨room, _, grown⟩
  · rw [if_neg full]
    refine ensures_pure fun _ _ start => ⟨Bool.eq_false_iff.mpr full, later, ?_⟩
    refine ⟨start.grew, start.took, start.positive, fun lent member => ?_⟩
    exact Nat.lt_succ_of_lt (start.short lent member)

/-- Every item is taken unless a call is not served or they exceed the limit. -/
theorem appendItems_grown (word : limit ≤ maxWord) (items : List α) {taken first : List α}
    {later : List (List α)} {filling : Filling α} :
    Ensures (fun _ j => filling.Grown clear limit request taken taken.length first later j)
      (pool.appendItems clear limit (items.map fun item => .item (.ok item)) filling)
      (fun made _ j => match made.2 with
        | .done () => ∃ later, made.1.Grown clear limit request (taken ++ items)
          (taken ++ items).length first later j
        | _ => (taken ++ items).length ≤ limit → ¬ j.Served)
      (fun _ _ _ => False) := by
  -- any item may bring another buffer, so the buffers lent so far are general in the induction
  induction items generalizing taken later filling with
  | nil =>
    rw [List.append_nil]
    exact ensures_pure fun _ _ start => ⟨later, start⟩
  | cons item items ih =>
    have pulled : Ensures (fun (_ : σ) j =>
        filling.Grown clear limit request taken taken.length first later j)
        (record [.pulled])
        (fun _ _ j => filling.Grown clear limit request taken taken.length first later j)
        (fun _ _ _ => False) :=
      ensures_record fun _ _ start =>
        ⟨start.grew.append_still (by simp [Event.served]) rfl rfl rfl, start.took, start.positive,
          start.short⟩
    rw [List.map_cons, appendItems_value]
    refine ensures_bind pulled fun _ => ensures_bind (makeRoom_grown word) ?_
    rintro ⟨made, ending⟩
    have more : taken.length < (taken ++ item :: items).length := by simp
    cases ending with
    | failed | panicked | aborted =>
      exact ensures_pure fun _ _ stopped within => stopped (Nat.lt_of_lt_of_le more within)
    | done _ =>
      refine ensures_given (fun _ _ start => start.1) fun room => ?_
      simp only [putNext, room, Bool.false_eq_true, if_false]
      rintro s past ⟨_, later, grown⟩
      have put : (made.put item).Grown clear limit request (taken ++ [item])
          (taken ++ [item]).length first later past :=
        ⟨grown.grew, grown.took.put room item, grown.positive, by simpa using grown.short⟩
      simpa using ih s past put

theorem tryCollect_grown [Element α] (capacity : Nat) (items : List α) :
    Ensures (fun _ j => j = [])
      (pool.tryCollect clear capacity (items.map fun item => .item (.ok item)))
      (fun populated _ j => ∃ (filling : Filling α) (first : List α) (later : List (List α)),
        populated = filling.populated ∧
          filling.Grown clear (Element.maxLen α) (max capacity 1) items items.length first later j)
      (fun _ _ j => capacity ≤ Element.maxLen α → items.length ≤ Element.maxLen α →
        ¬ j.Served) := by
  have checked : Ensures (fun (_ : σ) j => j = []) (checkLen α "capacity" capacity)
      (fun _ _ j => j = []) (fun _ _ (j : Journal α) => capacity ≤ Element.maxLen α →
        items.length ≤ Element.maxLen α → ¬ j.Served) := by
    unfold checkLen
    split
    · rename_i beyond
      exact ensures_fail fun _ _ _ fits => absurd fits (Nat.not_le.mpr beyond)
    · exact ensures_pure fun _ _ => id
  apply ensures_bind checked
  intro _
  apply ensures_bind ((rentChecked_added _ _).stops fun _ _ _ unserved _ _ => unserved)
  intro first
  refine ensures_given (fun _ _ start => start.1) fun enough => ?_
  have begins (past : Journal α) (rented : Added (fun j => j = []) [first] []
      [.rent (max capacity 1) (some first.length)] past) :
      (Filling.start first).Grown clear (Element.maxLen α) (max capacity 1) []
        ([] : List α).length first [] past := by
    obtain ⟨_, _, rfl, rfl, served, lent, handed, calls⟩ := rented
    refine ⟨⟨served, lent, handed, calls⟩, ⟨rfl, rfl, Nat.zero_le _⟩, ?_, nofun⟩
    show 0 < first.length
    omega
  refine ensures_bind ((appendItems_grown (Element.maxLen_le_maxWord α) items).imp
    (fun _ past start => begins past start.2) (fun _ _ _ => id) fun _ _ _ => nofun) ?_
  rintro ⟨filling, ending⟩
  cases ending with
  | done _ =>
    exact ensures_pure fun _ _ ⟨later, grown⟩ => ⟨filling, first, later, rfl, grown⟩
  | failed | panicked | aborted =>
    refine (settle_stopped ?_ filling.slots nofun).imp (fun _ _ => id) (fun _ _ _ => nofun)
      fun _ _ _ unserved _ within => unserved within
    exact fun j new stopped within served => stopped within ((Journal.served_append ..).mp served).1

end Pool

/-- A pool whose buffers all differ: the slots of the first hold 10, 11 and so on, those of the
second 20, 21 and so on. -/
def numberedPool : Pool Nat UInt8 where
  rent minLen rents :=
    ⟨.ok ((List.range minLen).map fun slot => .ofNat (10 * (rents + 1) + slot)), rents + 1, []⟩
  takeBack _ _ rents := ⟨.ok none, rents, []⟩
  idle _ := none

namespace Settings

open Act

variable [Element α] (pools : ι → Pool σ α) (settings : Settings ι) (items : List α)

theorem build_grown {method : Method α} (grows : method = .collect (items.map .item) ∨
      method = .tryCollect (items.map fun item => .item (.ok item))) :
    Ensures (fun _ j => j = []) (settings.build pools method)
      (fun buffer _ j => ∃ first later,
        j.Grew (settings.clear α) (Element.maxLen α) (max settings.suggestedCapacity 1) first later ∧
        (∀ lent ∈ (first :: later).dropLast, lent.length < items.length) ∧
        items.length ≤ (later.getLastD first).length ∧ buffer.count = items.length ∧
        buffer.slots = some (items ++ (later.getLastD first).drop items.length))
      (fun _ _ j => settings.suggestedCapacity ≤ Element.maxLen α →
        items.length ≤ Element.maxLen α → ¬ j.Served) := by
  have same : settings.populate pools method = (pools settings.handle).tryCollect
      (settings.clear α) settings.suggestedCapacity (items.map fun item => .item (.ok item)) := by
    rcases grows with rfl | rfl
    · simp [populate, Pool.collect, Function.comp_def, Yield.map]
    · rfl
  rw [build_eq_populate, same]
  refine ensures_bind (Pool.tryCollect_grown settings.suggestedCapacity items) fun populated => ?_
  rintro s past ⟨filling, first, later, rfl, grown⟩
  have took := grown.took
  have fits : filling.populated.count ≤ (filling.populated.slots.getD []).length := by
    show filling.written ≤ filling.slots.length
    rw [took.written, took.length]
    exact took.room
  unfold Buffer.ofPopulated
  rw [dif_pos fits]
  have built : ∃ first later, Journal.Grew (settings.clear α) (Element.maxLen α)
      (max settings.suggestedCapacity 1) first later past ∧
      (∀ lent ∈ (first :: later).dropLast, lent.length < items.length) ∧
      items.length ≤ (later.getLastD first).length ∧ filling.written = items.length ∧
      some filling.slots = some (items ++ (later.getLastD first).drop items.length) :=
    ⟨first, later, grown.grew, grown.short, took.room, took.written, congrArg some took.slots⟩
  simpa [Exit.Satisfies, Filling.populated] using built

/-- The calls of a population that grows, from its length and the lengths lent: as long as every
call is served, it asks for twice as much, within the limit, when an item comes that has no place,
and never before; the outgrown buffer goes back at once. -/
theorem grown_calls {method : Method α} (s : σ) (grows : method = .collect (items.map .item) ∨
      method = .tryCollect (items.map fun item => .item (.ok item)))
    (capacity : settings.suggestedCapacity ≤ Element.maxLen α)
    (few : items.length ≤ Element.maxLen α)
    (served : ((settings.build pools method).run s).journal.Served) :
    ∃ buffer first later, ((settings.build pools method).run s).exit = .done buffer ∧
      ((settings.build pools method).run s).journal.calls =
        .rent (max settings.suggestedCapacity 1) (some first) ::
          growthCalls (settings.clear α) (Element.maxLen α) first later ∧
      (∀ lent ∈ (first :: later).dropLast, lent < items.length) ∧
      items.length ≤ later.getLastD first ∧
      buffer.capacity = later.getLastD first ∧ buffer.count = items.length := by
  have after := build_grown pools settings items grows s [] rfl
  cases ended : ((settings.build pools method).run s).exit with
  | failed | panicked | aborted =>
    rw [ended] at after
    exact absurd served (after capacity few)
  | done buffer =>
    rw [ended] at after
    obtain ⟨first, later, grew, short, room, count, slots⟩ := after
    refine ⟨buffer, first.length, later.map List.length, rfl, grew.calls, ?_, ?_, ?_, count⟩
    · rw [← List.map_cons, ← List.map_dropLast]
      intro length member
      obtain ⟨lent, early, rfl⟩ := List.mem_map.mp member
      exact short lent early
    · rw [List.getLastD_map]
      exact room
    · rw [List.getLastD_map]
      simp only [Buffer.capacity, slots, Option.getD_some, List.length_append, List.length_drop]
      omega

/-- Five items, beginning with two slots; the pool lends one more than asked at first. -/
theorem grown_calls_five :
    let pools : Unit → Pool (PlannedPool UInt8) UInt8 := fun _ => PlannedPool.asPool UInt8
    let built := ((⟨.auto, 2, ()⟩ : Settings Unit).build pools
      (.collect ([1, 2, 3, 4, 5].map .item))).run (.start ⟨[1], 4096, 7, [], [], []⟩)
    built.journal.Served ∧
      built.journal.calls = [.rent 2 (some 3), .rent 6 (some 6), .hand 3 false] ∧
      ∃ buffer, built.exit = .done buffer ∧ buffer.count = 5 := by
  refine ⟨by decide, by decide, ?_⟩
  obtain ⟨buffer, _, _, done, _, _, _, _, count⟩ := grown_calls (fun _ => PlannedPool.asPool UInt8)
    ⟨.auto, 2, ()⟩ [1, 2, 3, 4, 5] (.start ⟨[1], 4096, 7, [], [], []⟩) (.inl rfl) (by decide)
    (by decide) (by decide)
  exact ⟨buffer, done, count⟩

/-- What the buffers hold that a population has outgrown, and the one that it leaves. No item is
in an outgrown buffer, whatever the pool lent. -/
theorem grown_contents {method : Method α} {buffer : Buffer ι α} (s : σ)
    (grows : method = .collect (items.map .item) ∨
      method = .tryCollect (items.map fun item => .item (.ok item)))
    (ended : ((settings.build pools method).run s).exit = .done buffer) :
    ∃ first later, ((settings.build pools method).run s).journal.Served ∧
      ((settings.build pools method).run s).journal.lent = first :: later ∧
      ((settings.build pools method).run s).journal.handed =
        List.zipWith (fun new old => new.take old.length) later (first :: later) ∧
      buffer.slots = some (items ++ (later.getLastD first).drop items.length) := by
  have after := build_grown pools settings items grows s [] rfl
  rw [ended] at after
  obtain ⟨first, later, grew, _, _, _, slots⟩ := after
  exact ⟨first, later, grew.served, grew.lent, grew.handed, slots⟩

theorem grown_contents_three :
    let built := ((⟨.auto, 2, ()⟩ : Settings Unit).build (fun _ => numberedPool)
      (.tryCollect ([1, 2, 3].map fun item => .item (.ok item)))).run 0
    built.exit = .done ⟨some [1, 2, 3, 23], 3, false, (), by decide⟩ ∧
      built.journal.lent = [[10, 11], [20, 21, 22, 23]] ∧
      ∃ first later, built.journal.lent = first :: later ∧ built.journal.handed =
        List.zipWith (fun new old => new.take old.length) later (first :: later) := by
  refine ⟨rfl, by decide, ?_⟩
  obtain ⟨first, later, _, lent, handed, _⟩ :=
    grown_contents (fun _ => numberedPool) ⟨.auto, 2, ()⟩ [1, 2, 3] 0 (.inr rfl) rfl
  exact ⟨first, later, lent, handed⟩

end Settings

end BufferRental
