import BufferRental.Proofs.Growth
import BufferRental.Proofs.Preservation

/-! The slots behind the elements. A population writes only the slots that it counts, and an
operation only those that are shown. So the buffer that goes back to its pool is what is shown at
the end and, behind it, what the pool lent. -/
namespace BufferRental

open Act

def Journal.granted? (journal : Journal α) : Option (List α) := journal.lent.getLast?

theorem Journal.granted?_of_lent {journal : Journal α} {lent : List α}
    (alone : journal.lent = [lent]) : journal.granted? = some lent := by
  rw [granted?, alone]
  rfl

/-- The elements written, and behind them the slots of the buffer that was lent last. -/
structure Populated.Over (written : List α) (journal : Journal α) (populated : Populated α) :
    Prop where
  served : journal.Served
  count : populated.count = written.length
  room : written.length ≤ (journal.granted?.getD []).length
  slots : populated.slots = journal.granted?.map fun lent => written ++ lent.drop written.length

theorem Populated.over_nothing {journal : Journal α} (served : journal.Served)
    (lent : journal.lent = []) : Populated.Over [] journal ⟨none, 0⟩ := by
  constructor
  · exact served
  · rfl
  · exact Nat.zero_le _
  · rw [Journal.granted?, lent]
    rfl

theorem Filling.Took.populated_over {filling : Filling α} {taken lent : List α} {journal : Journal α}
    (took : filling.Took taken lent) (served : journal.Served)
    (last : journal.granted? = some lent) : filling.populated.Over taken journal := by
  constructor
  · exact served
  · exact took.written
  · rw [last]
    exact took.room
  · rw [last]
    exact congrArg some took.slots

/-- What is known of the elements that a method writes over the slots it was granted. -/
def Method.Wrote (granted : Option (List α)) (written : List α) : Method α → Prop
  | .withCount count => written.length = count ∧ written = (granted.getD []).take count
  | .copySlice _ | .copyFrom _ => True
  | .collectExact reported items => written.map Yield.item = items.take reported
  | .collect items => written.map Yield.item = items
  | .tryCollect items => written.map (fun value => .item (.ok value)) = items

namespace Pool

variable {pool : Pool σ α} {clear : Bool}

def Lent (lent : List (List α)) (_ : σ) (journal : Journal α) : Prop :=
  journal.Served ∧ journal.lent = lent

theorem rentChecked_lent (minLen : Nat) :
    Ensures (Lent []) (pool.rentChecked minLen)
      (fun slots s j => minLen ≤ slots.length ∧ Lent [slots] s j) fun _ _ _ => True := by
  apply (rentChecked_added (fun j => j.Served ∧ j.lent = []) minLen).imp (fun _ _ => id)
  · rintro slots s j ⟨enough, past, new, rfl, ⟨before, none⟩, served, lent, _, _⟩
    refine ⟨enough, (Journal.served_append ..).mpr ⟨before, served⟩, ?_⟩
    rw [Journal.lent_append, none, lent, List.nil_append]
  · exact fun _ _ _ _ => trivial

theorem record_lent {before : List (List α)} {events : Journal α}
    (quiet : ∀ event ∈ events, Journal.isTraffic event = false) :
    Ensures (Lent (σ := σ) before) (record events) (fun _ => Lent before) fun _ _ _ => True := by
  apply ensures_record
  rintro s past ⟨served, lent⟩
  constructor
  · rw [Journal.served_append]
    refine ⟨served, fun event member => ?_⟩
    have still := quiet event member
    cases event with
    | rented | returned => cases still
    | noted | pulled | cloned | measured | offered => rfl
  · have still : Journal.traffic events = [] := by
      rw [Journal.traffic, List.filter_eq_nil_iff]
      simpa using quiet
    rw [Journal.lent_append, lent, (Journal.lent_of_traffic_nil still).1, List.append_nil]

/-- A population that does not succeed leaves no buffer. -/
theorem ensures_settle {inv : σ → Journal α → Prop} {slots : List α} {exit : Exit β}
    {post : β → σ → Journal α → Prop}
    (success : ∀ value, exit = .done value → ∀ s j, inv s j → post value s j) :
    Ensures inv (pool.settle clear slots exit) post fun _ _ _ => True := by
  cases exit with
  | done value => exact ensures_pure (success value rfl)
  | failed | panicked | aborted =>
    apply ensures_of_never
    exact settle_stopped (fun _ _ => id) slots nofun

theorem fillAtOnce_over {length : Nat} {slots : List α} {copy : List α → Copy α}
    (keeps : ∀ target, (copy target).target.length = target.length) :
    Ensures (Lent [slots]) (pool.fillAtOnce clear length slots copy)
      (fun populated _ j => ∃ written, populated.Over written j) fun _ _ _ => True := by
  unfold fillAtOnce
  by_cases short : slots.length < length
  · rw [if_pos short]
    exact ensures_settle (by simp)
  rw [if_neg short]
  have quiet : ∀ event ∈ .offered (slots.take length) ::
      (copy (slots.take length)).cloned.map .cloned, Journal.isTraffic event = false := by
    simp [Journal.isTraffic]
  apply ensures_bind (record_lent quiet)
  intro _
  apply ensures_settle
  rintro populated ended s j ⟨served, lent⟩
  have size : (copy (slots.take length)).target.length = length := by
    rw [keeps, List.length_take, Nat.min_eq_left (Nat.not_lt.mp short)]
  obtain rfl : (⟨some ((copy (slots.take length)).target ++ slots.drop length), length⟩ :
      Populated α) = populated := by
    cases finished : (copy (slots.take length)).ending <;>
      simp [finished, CopyEnding.exit, Exit.map] at ended
    exact ended
  refine ⟨(copy (slots.take length)).target, served, size.symm, ?_, ?_⟩
  · rw [Journal.granted?_of_lent lent, size]
    exact Nat.not_lt.mp short
  · rw [Journal.granted?_of_lent lent, size]
    rfl

/-- Items are taken in order until there are no more or no room is left. -/
theorem assignItems_took {room : Nat} {lent : List α} (items : List (Yield α)) {taken : List α}
    {filling : Filling α} (took : filling.Took taken lent) (within : taken.length ≤ room)
    (enough : room ≤ lent.length) :
    Ensures (Lent (σ := σ) [lent]) (assignItems room items filling)
      (fun after s j => Lent [lent] s j ∧ (after.2 = .done () → ∃ more,
        after.1.Took (taken ++ more) lent ∧ more.map Yield.item = items.take (room - taken.length)))
      fun _ _ _ => True := by
  -- what is taken so far grows with every item, so it is general in the induction
  induction items generalizing taken filling with
  | nil =>
    apply ensures_pure
    intro s j start
    exact ⟨start, fun _ => ⟨[], by simpa using took, by simp⟩⟩
  | cons turn rest ih =>
    unfold assignItems
    by_cases reached : (room ≤ filling.written || filling.isFull) = true
    · rw [if_pos reached]
      have noRoom : room - taken.length = 0 := by
        have written := took.written
        have length := took.length
        simp only [Bool.or_eq_true, decide_eq_true_eq, Filling.isFull_iff] at reached
        omega
      apply ensures_pure
      intro s j start
      exact ⟨start, fun _ => ⟨[], by simpa using took, by simp [noRoom]⟩⟩
    · rw [if_neg reached]
      simp only [Bool.or_eq_true, decide_eq_true_eq, not_or, Bool.not_eq_true] at reached
      obtain ⟨more, notFull⟩ := reached
      rw [took.written] at more
      apply ensures_bind (record_lent (by simp [Journal.isTraffic]))
      intro _
      cases turn with
      | panic text => exact ensures_pure fun s j start => ⟨start, by simp⟩
      | item value =>
        have size : (taken ++ [value]).length = taken.length + 1 := by simp
        apply (ih (took.put notFull value) (by omega)).after
        rintro after s j ⟨start, ended⟩
        refine ⟨start, fun success => ?_⟩
        obtain ⟨later, tookAll, items⟩ := ended success
        refine ⟨value :: later, by simpa using tookAll, ?_⟩
        have next : room - taken.length = room - (taken ++ [value]).length + 1 := by omega
        rw [next, List.map_cons, List.take_succ_cons, items]

theorem appendItems_items {limit : Nat} (items : List (Yield (Except String α)))
    (filling : Filling α) : Ensures (fun _ _ => True) (pool.appendItems clear limit items filling)
      (fun after _ _ => after.2 = .done () →
        ∃ values : List α, values.map (fun value => .item (.ok value)) = items)
      fun _ _ _ => True := by
  have pulled : Ensures (fun (_ : σ) _ => True) (record [.pulled])
      (fun _ _ (_ : Journal α) => True) fun _ _ _ => True := ensures_anyhow _
  induction items generalizing filling with
  | nil => exact ensures_pure fun _ _ _ _ => ⟨[], rfl⟩
  | cons turn rest ih =>
    rcases turn with (text | value) | text
    · exact ensures_bind pulled fun _ => ensures_pure (by simp)
    · rw [appendItems_value]
      apply ensures_bind pulled
      intro _
      apply ensures_bind (ensures_anyhow _)
      rintro ⟨made, ending⟩
      cases ending with
      | failed | panicked | aborted => exact ensures_pure (by simp)
      | done _ =>
        simp only [putNext]
        split
        · exact ensures_pure (by simp)
        · apply (ih (made.put value)).after
          intro after _ _ ended success
          obtain ⟨values, rfl⟩ := ended success
          exact ⟨value :: values, rfl⟩
    · exact ensures_bind pulled fun _ => ensures_pure (by simp)

variable [Element α]

/-- Populations that do not grow write over the one buffer that was lent to them. -/
theorem fill_over {capacity : Nat} {method : Method α} (fixed : method.heedsCapacity = false)
    {slots : List α} (enough : method.firstLen capacity ≤ slots.length) :
    Ensures (Lent [slots]) (pool.fill clear method slots)
      (fun populated _ j => ∃ written, populated.Over written j ∧ method.Wrote j.granted? written)
      fun _ _ _ => True := by
  cases method with
  | collect | tryCollect => cases fixed
  | withCount count =>
    apply ensures_pure
    rintro s j ⟨served, lent⟩
    have last := Journal.granted?_of_lent lent
    have size : (slots.take count).length = count := List.length_take_of_le enough
    refine ⟨slots.take count, ⟨served, size.symm, ?_, ?_⟩, size, by simp [last]⟩
    · rw [last, size]
      exact enough
    · rw [last, size]
      simp
  | copySlice source =>
    apply (fillAtOnce_over (length_cloneRun source)).after
    exact fun _ _ _ ⟨written, placed⟩ => ⟨written, placed, trivial⟩
  | copyFrom source =>
    apply (fillAtOnce_over source.length_copyTo).after
    exact fun _ _ _ ⟨written, placed⟩ => ⟨written, placed, trivial⟩
  | collectExact reported items =>
    have start : (Filling.start slots).Took [] slots := ⟨rfl, rfl, Nat.zero_le _⟩
    apply ensures_bind (assignItems_took items start (Nat.zero_le _) enough)
    rintro ⟨filling, ending⟩
    apply ensures_settle
    rintro populated ended s j ⟨⟨served, lent⟩, success⟩
    cases ending with
    | failed | panicked | aborted => cases ended
    | done _ =>
      obtain ⟨written, took, items⟩ := success rfl
      cases ended
      exact ⟨written, took.populated_over served (Journal.granted?_of_lent lent), items⟩

theorem tryCollect_over (capacity : Nat) (items : List (Yield (Except String α))) :
    Ensures (fun _ j => j = []) (pool.tryCollect clear capacity items)
      (fun populated _ j => ∃ written, populated.Over written j ∧
        written.map (fun value => .item (.ok value)) = items) fun _ _ _ => True := by
  by_cases all : ∃ values : List α, values.map (fun value => .item (.ok value)) = items
  · obtain ⟨values, rfl⟩ := all
    apply (tryCollect_grown capacity values).imp (fun _ _ => id) ?_ fun _ _ _ _ => trivial
    rintro populated s j ⟨filling, first, later, rfl, grown⟩
    refine ⟨values, grown.took.populated_over grown.grew.served ?_, rfl⟩
    rw [Journal.granted?, grown.grew.lent, List.getLast?_cons, List.getLastD_eq_getLast?]
  · -- some item fails, and then there is no success
    apply ensures_of_never
    apply ensures_bind (ensures_anyhow _)
    intro _
    apply ensures_bind (ensures_anyhow _)
    intro slots
    apply ensures_bind (appendItems_items items (.start slots))
    rintro ⟨filling, ending⟩
    apply ensures_settle
    intro populated ended s j success
    cases ending with
    | failed | panicked | aborted => cases ended
    | done _ => exact all (success rfl)

end Pool

namespace Settings

variable [Element α] (pools : ι → Pool σ α) (settings : Settings ι)

theorem populate_over_fixed {method : Method α} (fixed : method.heedsCapacity = false) :
    Ensures (fun _ j => j = []) (settings.populate pools method)
      (fun populated _ j => ∃ written, populated.Over written j ∧ method.Wrote j.granted? written)
      fun _ _ _ => True := by
  have measured : Ensures (fun (_ : σ) j => j = []) (record method.measurement)
      (fun _ => Pool.Lent []) fun _ _ _ => True := by
    refine ensures_record fun _ _ none => ?_
    cases method <;> simp [none, Pool.Lent, Method.measurement, Event.served, Event.lent?]
  apply ensures_populate measured
  · exact fun _ _ _ _ _ _ _ => trivial
  · rintro none s j ⟨served, lent⟩
    refine ⟨[], Populated.over_nothing served lent, ?_⟩
    cases method with
    | withCount count => exact ⟨none.symm, by simp [show count = 0 from none]⟩
    | copySlice | copyFrom => trivial
    | collectExact reported items => simp [Method.Wrote, show reported = 0 from none]
    | collect | tryCollect => cases fixed
  · exact fun _ _ => Pool.rentChecked_lent _
  · intro _ slots
    refine ensures_given (fun _ _ start => start.1) fun enough => ?_
    exact (Pool.fill_over fixed enough).before fun _ _ start => start.2

theorem populate_over (method : Method α) :
    Ensures (fun _ j => j = []) (settings.populate pools method)
      (fun populated _ j => ∃ written, populated.Over written j ∧ method.Wrote j.granted? written)
      fun _ _ _ => True := by
  cases method with
  | withCount | copySlice | copyFrom | collectExact => exact populate_over_fixed pools settings rfl
  | collect items =>
    apply (Pool.tryCollect_over settings.suggestedCapacity _).after
    rintro populated s j ⟨written, placed, same⟩
    refine ⟨written, placed, ?_⟩
    have apart (x y : Yield α) (equal : x.map (Except.ok (ε := String)) = y.map .ok) : x = y := by
      cases x <;> cases y <;> simp_all [Yield.map]
    apply (List.map_inj_right apart).mp
    rw [← same, List.map_map]
    rfl
  | tryCollect items => exact Pool.tryCollect_over settings.suggestedCapacity items

theorem build_over (method : Method α) :
    Ensures (fun _ j => j = []) (settings.build pools method)
      (fun buffer _ j => ∃ written, Populated.Over written j ⟨buffer.slots, buffer.count⟩ ∧
        method.Wrote j.granted? written) fun _ _ _ => True := by
  rw [build_eq_populate]
  apply ensures_bind (populate_over pools settings method)
  intro populated
  unfold Buffer.ofPopulated
  split
  · exact ensures_pure fun _ _ => id
  · exact ensures_raise fun _ _ _ => trivial

end Settings

namespace Buffer

structure Over (granted : Option (List α)) (buffer : Buffer ι α) : Prop where
  room : buffer.count ≤ (granted.getD []).length
  slots : buffer.slots = granted.map fun lent => buffer.elements ++ lent.drop buffer.count

theorem over_of_populated {buffer : Buffer ι α} {written : List α} {journal : Journal α}
    (placed : Populated.Over written journal ⟨buffer.slots, buffer.count⟩) :
    buffer.elements = written ∧ buffer.Over journal.granted? := by
  have count : buffer.count = written.length := placed.count
  have slots : buffer.slots =
      journal.granted?.map fun lent => written ++ lent.drop written.length := placed.slots
  have room := placed.room
  have shown : buffer.elements = written := by
    rw [elements, slots, count]
    cases granted : journal.granted? with
    | none => simp_all
    | some lent => simp
  exact ⟨shown, count ▸ room, by rw [shown, count, slots]⟩

theorem Over.length {granted : Option (List α)} {buffer : Buffer ι α} (placed : buffer.Over granted) :
    buffer.slots.map List.length = granted.map List.length := by
  have room := placed.room
  rw [placed.slots]
  cases granted with
  | none => rfl
  | some lent =>
    rw [Option.getD_some] at room
    simp [room]

/-- The slots that are not shown are those that were granted. -/
theorem Over.behind {granted : Option (List α)} {buffer : Buffer ι α} (placed : buffer.Over granted)
    {i : Nat} (beyond : buffer.count ≤ i) :
    (buffer.slots.getD [])[i]? = (granted.getD [])[i]? := by
  have shown := buffer.length_elements
  rw [placed.slots]
  cases granted with
  | none => rfl
  | some lent =>
    rw [Option.map_some, Option.getD_some, Option.getD_some,
      List.getElem?_append_right (by omega), List.getElem?_drop, shown, Nat.add_sub_cancel' beyond]

/-- Operations write to no other slots than those that are shown. -/
theorem Over.kept {granted : Option (List α)} {before after : Buffer ι α}
    (placed : before.Over granted) (kept : Kept before after) : after.Over granted := by
  constructor
  · rw [kept.count]
    exact placed.room
  · rw [kept.slots_eq, spare, placed.slots, kept.count, Option.map_map]
    cases granted with
    | none => rfl
    | some lent => simp

end Buffer

namespace Settings

variable [Element α] (pools : ι → Pool σ α) (settings : Settings ι)

theorem over_of_built {method : Method α} {buffer : Buffer ι α} {s : σ}
    (built : ((settings.build pools method).run s).exit = .done buffer) :
    let journal := ((settings.build pools method).run s).journal
    journal.Served ∧ method.Wrote journal.granted? buffer.elements ∧
      buffer.Over journal.granted? := by
  have after := build_over pools settings method s [] rfl
  rw [built] at after
  obtain ⟨written, populated, wrote⟩ := after
  obtain ⟨rfl, placed⟩ := Buffer.over_of_populated populated
  exact ⟨populated.served, wrote, placed⟩

/-- Whatever is done with a buffer after it was populated, it goes back as long as it was granted:
first what it shows at the end, then the slots that it never showed, as they were granted. -/
theorem spares_untouched {method : Method α} {buffer : Buffer ι α} (s t : σ)
    (operations : List (ViewOp α))
    (built : ((settings.build pools method).run s).exit = .done buffer) :
    let journal := ((settings.build pools method).run s).journal
    let last := (inTurn Buffer.perform buffer operations).2
    let returned := journal.granted?.map fun lent => last.elements ++ lent.drop buffer.count
    journal.Served ∧ method.Wrote journal.granted? buffer.elements ∧
      returned.map List.length = journal.granted?.map List.length ∧
      ((last.giveUp pools).run t).journal.OnlyHands returned.toList ∧
      ((last.release pools).run t).journal.OnlyHands returned.toList ∧
      ∀ reported items, method = .collectExact reported items → items.length ≤ reported →
        ∀ i, items.length ≤ i → (buffer.slots.getD [])[i]? = (journal.granted?.getD [])[i]? := by
  intro journal last returned
  obtain ⟨served, wrote, placed⟩ := over_of_built pools settings built
  obtain ⟨_, _, kept⟩ := Buffer.inTurn_agrees buffer operations
  have still : last.Over journal.granted? := placed.kept kept
  have slots : last.slots = returned := by rw [still.slots, kept.count]
  have handed := (last.giveUp_onlyHands pools).onlyHands t
  rw [slots] at handed
  refine ⟨served, wrote, ?_, handed, ?_, ?_⟩
  · rw [← slots]
    exact still.length
  · rw [Buffer.release_eq_giveUp]
    exact handed
  · rintro reported items rfl early i beyond
    have shown : buffer.elements.map Yield.item = items.take reported := wrote
    have count := congrArg List.length shown
    rw [List.length_map, buffer.length_elements, List.take_of_length_le early] at count
    exact placed.behind (count ▸ beyond)

/-- The first buffer that is lent holds 10 and so on, the second one 20 and so on. -/
theorem spares_untouched_numbered :
    let pools : Unit → Pool Nat UInt8 := fun _ => numberedPool
    let early : Method UInt8 := .collectExact 4 [.item 1, .item 2]
    let grown : Method UInt8 := .collect [.item 1, .item 2, .item 3]
    let short : Buffer Unit UInt8 := ⟨some [1, 2, 12, 13], 2, false, (), by decide⟩
    let long : Buffer Unit UInt8 := ⟨some [1, 2, 3, 23], 3, false, (), by decide⟩
    let last := (inTurn Buffer.perform long [.reverse, .set 3 9, .fill [7, 8]]).2
    (((⟨.auto, 2, ()⟩ : Settings Unit).build pools early).run 0).exit = .done short ∧
      (∀ i, 2 ≤ i → (short.slots.getD [])[i]? = ([10, 11, 12, 13] : List UInt8)[i]?) ∧
      (((⟨.auto, 2, ()⟩ : Settings Unit).build pools grown).run 0).exit = .done long ∧
      ((last.release pools).run 2).journal.OnlyHands [[7, 8, 1, 23]] := by
  intro pools early grown short long last
  have builtShort :
      (((⟨.auto, 2, ()⟩ : Settings Unit).build pools early).run 0).exit = .done short := rfl
  have builtLong :
      (((⟨.auto, 2, ()⟩ : Settings Unit).build pools grown).run 0).exit = .done long := rfl
  obtain ⟨_, _, _, _, _, produced⟩ := spares_untouched pools _ 0 0 [] builtShort
  obtain ⟨_, _, _, _, released, _⟩ :=
    spares_untouched pools _ 0 2 [.reverse, .set 3 9, .fill [7, 8]] builtLong
  exact ⟨builtShort, produced 4 _ rfl (by decide), builtLong, released⟩

end Settings

end BufferRental
