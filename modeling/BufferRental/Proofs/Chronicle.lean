import BufferRental.Element.Kind
import BufferRental.Proofs.Annotation
import BufferRental.Proofs.Lockstep
import BufferRental.Proofs.Preservation

/-! The log of populations and of buffers that are given up, read off their calls. The invariant names
the length that was lent last, which is the one of the buffer at hand whenever it may be replaced. -/
namespace BufferRental

open Act

namespace Pool

variable {pool : Pool σ α} {clear : Bool}

/-- A request stands behind its announcement, and a loan that is too short changes nothing. -/
theorem rentChecked_told (last : Option Nat) (request : Nat) :
    Ensures (fun _ j => ∃ past, pool.Told none last past ∧
        j = past ++ (last.map fun current => Note.growing current request).toList.map .noted)
      (pool.rentChecked request) (fun slots _ j => pool.Told none (some slots.length) j)
      fun _ _ j => pool.Told none last j := by
  have answered {s next : σ} {past : Journal α} {result : Except Panic (List α)} {notes : List Note}
      (start : ∃ before, pool.Told none last before ∧
        past = before ++ (last.map fun current => Note.growing current request).toList.map .noted)
      (reply : pool.rent request s = ⟨result, next, notes⟩) :
      let call : Event α := .rented request result.toOption
      pool.Told none (call.latest last)
        (past ++ call :: (notes.map .noted ++ call.reported.map .noted)) := by
    intro call
    obtain ⟨before, told, rfl⟩ := start
    rw [List.append_assoc]
    exact told.append (Told.rented last reply)
  apply ensures_rentChecked
  · intro s past slots next notes start reply enough
    simpa [Except.toOption, Event.latest, Event.lent?, Event.reported, enough] using
      answered start reply
  · intro s past slots next notes start reply short
    simpa [Except.toOption, Event.latest, Event.lent?, Event.reported, Nat.not_le.mpr short] using
      answered start reply
  · intro s past panic next notes start reply
    simpa [Except.toOption, Event.latest, Event.lent?, Event.reported] using answered start reply

theorem giveBack_told (last : Option Nat) (slots : List α) :
    Keeps (fun _ j => pool.Told none last j) (pool.giveBack slots clear) := by
  apply ensures_giveBack
  · intro s past next notes told reply
    simpa [Event.reported] using told.append (Told.returned last .accepted reply)
  · intro s past error next notes told reply
    simpa [Event.reported] using told.append (Told.returned last (.refused error) reply)
  · intro s past panic next notes told reply
    simpa [Event.reported] using told.append (Told.returned last .panicked reply)

def Faithful (pool : Pool σ α) (journal : Journal α) : Prop := ∃ next, pool.Told none next journal

theorem giveBack_faithful (slots : List α) :
    Keeps (fun _ j => pool.Faithful j) (pool.giveBack slots clear) := by
  intro s past told
  obtain ⟨next, told⟩ := told
  exact (giveBack_told next slots s past told).imp (fun _ after => ⟨next, after⟩) fun _ after =>
    ⟨next, after⟩

theorem record_faithful (pool : Pool σ α) {events : Journal α} (quiet : events.outward = []) :
    Keeps (fun (_ : σ) j => pool.Faithful j) (record events) :=
  ensures_record fun _ _ ⟨next, told⟩ => ⟨next, told.append (.quiet quiet)⟩

/-- The buffer at hand is the one that was lent last, also after it was replaced. -/
theorem grow_told (limit : Nat) (filling : Filling α) :
    Ensures (fun _ j => pool.Told none (some filling.slots.length) j)
      (pool.grow clear limit filling)
      (fun made _ j => match made.2 with
        | .done () => pool.Told none (some made.1.slots.length) j
        | _ => pool.Faithful j)
      fun _ _ _ => False := by
  unfold grow
  dsimp only
  split
  · exact ensures_pure fun _ _ told => ⟨_, told⟩
  rename_i asked _
  have announced : Ensures (fun (_ : σ) j => pool.Told none (some filling.slots.length) j)
      (note (.growing filling.slots.length asked))
      (fun _ _ j => ∃ past, pool.Told none (some filling.slots.length) past ∧
        j = past ++ [.noted (.growing filling.slots.length asked)]) fun _ _ _ => False :=
    ensures_record fun _ past told => ⟨past, told, rfl⟩
  refine ensures_bind announced fun _ =>
    ensures_bind (ensures_attempt_satisfies (rentChecked_told _ asked)) fun exit => ?_
  cases exit with
  | failed | panicked | aborted => exact ensures_pure fun _ _ told => ⟨_, told⟩
  | done slots =>
    dsimp only
    cases moved : filling.moveInto slots with
    | error expectation => exact ensures_pure fun _ _ told => ⟨_, told⟩
    | ok pair =>
      obtain ⟨grown, outgrown⟩ := pair
      have size : grown.slots.length = slots.length := filling.length_moveInto moved
      dsimp only
      have back : Ensures (fun _ j => pool.Told none (some slots.length) j)
          (attempt (pool.giveBack outgrown clear))
          (fun _ _ j => pool.Told none (some slots.length) j) fun _ _ _ => False :=
        ensures_attempt (giveBack_told _ outgrown)
      refine ensures_bind back fun ending => ?_
      apply ensures_pure
      intro _ _ told
      cases ending with
      | done _ => exact size ▸ told
      | failed | panicked | aborted => exact ⟨_, told⟩

theorem appendItems_told (limit : Nat) (items : List (Yield (Except String α)))
    (filling : Filling α) :
    Ensures (fun _ j => pool.Told none (some filling.slots.length) j)
      (pool.appendItems clear limit items filling) (fun _ _ j => pool.Faithful j)
      fun _ _ _ => False := by
  -- every turn may replace the buffer, so the length at hand is general in the induction
  induction items generalizing filling with
  | nil => exact ensures_pure fun _ _ told => ⟨_, told⟩
  | cons turn rest ih =>
    have pulled : Ensures (fun (_ : σ) j => pool.Told none (some filling.slots.length) j)
        (record [.pulled]) (fun _ _ j => pool.Told none (some filling.slots.length) j)
        fun _ _ _ => False :=
      ensures_record fun _ _ told => told.append (.quiet rfl)
    rcases turn with (text | value) | text
    · exact ensures_bind pulled fun _ => ensures_pure fun _ _ told => ⟨_, told⟩
    · have room : Ensures (fun (_ : σ) j => pool.Told none (some filling.slots.length) j)
          (pool.makeRoom clear limit filling)
          (fun made _ j => match made.2 with
            | .done () => pool.Told none (some made.1.slots.length) j
            | _ => pool.Faithful j)
          fun _ _ _ => False := by
        unfold makeRoom
        split
        · exact grow_told limit filling
        · exact ensures_pure fun _ _ => id
      rw [appendItems_value]
      refine ensures_bind pulled fun _ => ensures_bind room fun made => ?_
      obtain ⟨made, ending⟩ := made
      cases ending with
      | failed | panicked | aborted => exact ensures_pure fun _ _ => id
      | done _ =>
        simp only [putNext]
        split
        · exact ensures_pure fun _ _ told => ⟨_, told⟩
        · have next := ih (made.put value)
          rw [Filling.length_put] at next
          exact next
    · exact ensures_bind pulled fun _ => ensures_pure fun _ _ told => ⟨_, told⟩

theorem fill_faithful [Element α] (method : Method α) (slots : List α) :
    Ensures (fun _ j => pool.Told none (some slots.length) j) (pool.fill clear method slots)
      (fun _ _ j => pool.Faithful j) fun _ _ j => pool.Faithful j := by
  have settled (slots : List α) (exit : Exit (Populated α)) :
      Keeps (fun _ j => pool.Faithful j) (pool.settle clear slots exit) :=
    keeps_settle giveBack_faithful slots exit
  have copied (length : Nat) (copy : List α → Copy α) :
      Keeps (fun _ j => pool.Faithful j) (pool.fillAtOnce clear length slots copy) := by
    apply keeps_fillAtOnce giveBack_faithful
    exact fun target cloned => record_faithful pool (by simp [Journal.outward])
  have first (s : σ) (j : Journal α) (told : pool.Told none (some slots.length) j) :
      pool.Faithful j := ⟨_, told⟩
  cases method with
  | withCount count => exact ensures_pure first
  | copySlice source => exact (copied _ _).before first
  | copyFrom source => exact (copied _ _).before first
  | collectExact reported items =>
    have assigned := keeps_assignItems (record_faithful pool rfl) reported items (.start slots)
    exact (ensures_bind assigned fun made => settled _ _).before first
  | collect items =>
    exact ensures_bind (appendItems_told _ _ (.start slots)).unstopped fun made => settled _ _
  | tryCollect items =>
    exact ensures_bind (appendItems_told _ _ (.start slots)).unstopped fun made => settled _ _

end Pool

variable {pools : ι → Pool σ α}

theorem Settings.populate_faithful [Element α] (settings : Settings ι) (method : Method α) :
    Ensures (fun _ j => j = []) (settings.populate pools method)
      (fun _ _ j => (pools settings.handle).Faithful j)
      fun _ _ j => (pools settings.handle).Faithful j := by
  have measured : Ensures (fun (_ : σ) j => j = []) (record method.measurement)
      (fun _ _ j => (pools settings.handle).Told none none j)
      fun _ _ j => (pools settings.handle).Faithful j := by
    apply ensures_record
    intro _ past fresh
    rw [fresh]
    refine .quiet ?_
    cases method <;> rfl
  apply ensures_populate measured
  · exact fun _ _ _ _ _ _ told => ⟨_, told⟩
  · exact fun _ _ _ told => ⟨_, told⟩
  · intro _ _
    refine (Pool.rentChecked_told none _).imp (fun _ past told => ⟨past, told, ?_⟩)
      (fun _ _ _ => id) fun _ _ _ told => ⟨_, told⟩
    exact (List.append_nil past).symm
  · exact fun _ slots => Pool.fill_faithful method slots

theorem Settings.build_faithful [Element α] (settings : Settings ι) (method : Method α) :
    Ensures (fun _ j => j = []) (settings.build pools method)
      (fun _ _ j => (pools settings.handle).Faithful j)
      fun _ _ j => (pools settings.handle).Faithful j := by
  rw [build_eq_populate]
  refine ensures_bind (populate_faithful settings method) fun populated => ?_
  unfold Buffer.ofPopulated
  split <;> exact keeps_leave _

theorem Buffer.giveUp_faithful (buffer : Buffer ι α) :
    Ensures (fun _ j => j = []) (buffer.giveUp pools)
      (fun _ _ j => (pools buffer.handle).Faithful j)
      fun _ _ j => (pools buffer.handle).Faithful j := by
  have start (s : σ) (j : Journal α) (fresh : j = []) : (pools buffer.handle).Faithful j :=
    fresh ▸ ⟨none, .quiet rfl⟩
  cases held : buffer.slots with
  | none =>
    rw [giveUp_of_none pools held]
    exact ensures_pure start
  | some slots =>
    rw [giveUp_of_some pools held]
    exact (Pool.giveBack_faithful slots).before start

/-- The log is the one that can be read off the calls. This is so without what the pool logged, and if
it logs nothing in the library's words, then for all that is in these words. -/
structure Pool.LogsCalls (pool : Pool σ α) (journal : Journal α) : Prop where
  own : ∃ own, pool.Heard own journal ∧ own.outward = journal.traffic.annotate none ∧
    (journal.Served → Note.Chained none own.notes)
  words : pool.Discreet → journal.ownWords = journal.traffic.annotate none ∧
    (journal.Served → Note.Chained none journal.ownWords.notes)

theorem Pool.Faithful.logsCalls {pool : Pool σ α} {journal : Journal α}
    (faithful : pool.Faithful journal) : pool.LogsCalls journal := by
  obtain ⟨_, own, heard, tells⟩ := faithful
  have told : own.outward = journal.traffic.annotate none := heard.traffic_eq ▸ tells.outward
  have made : ∀ call ∈ journal.traffic, Journal.isTraffic call = true :=
    fun call member => (List.mem_filter.mp member).2
  have chained (served : journal.Served) : Note.Chained none (journal.traffic.annotate none).notes :=
    Journal.annotate_chained none made fun call member => served call (List.mem_filter.mp member).1
  refine ⟨⟨own, heard, told, fun served => ?_⟩, fun discreet => ?_⟩
  · rw [← Journal.notes_outward, told]
    exact chained served
  · have words : journal.ownWords = journal.traffic.annotate none := by
      rw [← heard.ownWords_eq discreet, ← Journal.ownWords_outward, told,
        Journal.ownWords_annotate none made]
    exact ⟨words, fun served => words ▸ chained served⟩

namespace PlannedPool

/-- The same pool at the same moment, if it refused nothing. -/
def taking (pool : PlannedPool α) : PlannedPool α :=
  { pool with plan := { pool.plan with refuse := [] } }

theorem asPool_inStep :
    (asPool α).InStep (fun pool twin => twin = pool.taking) (asPool α) := by
  constructor
  · rintro minLen pool _ rfl
    simp only [asPool, rent, taking]
    split <;> exact ⟨rfl, rfl⟩
  · rintro slots clear pool _ rfl
    simp only [asPool, takeBack, taking]
    split
    · exact ⟨rfl, rfl⟩
    · split <;> exact ⟨rfl, rfl⟩

end PlannedPool

namespace Construction

variable [Element α]

theorem run_faithful (pools : Handle → Pool σ α) (construction : Construction α) :
    Ensures (fun _ j => j = []) (construction.run pools)
      (fun _ _ j => (pools construction.handle).Faithful j)
      fun _ _ j => (pools construction.handle).Faithful j := by
  cases construction with
  | populate settings method => exact Settings.build_faithful _ method
  | new => exact ensures_pure fun _ _ fresh => fresh ▸ ⟨none, .quiet rfl⟩
  | fromIterator hint items =>
    apply ensures_expect
    have built (settings : Settings Handle) (shared : settings.handle = .shared) :
        Ensures (fun _ j => j = []) (settings.build pools (.collect items))
          (fun _ _ j => (pools .shared).Faithful j) fun _ _ j => (pools .shared).Faithful j :=
      shared ▸ Settings.build_faithful settings _
    refine Ensures.stops (built _ ?_) fun ending _ _ told => ?_
    · split <;> rfl
    · cases ending <;> exact told

/-- However a buffer is constructed, and over any pool, the log is the one that can be read off the
calls: each sufficient loan is reported, and announced before if it replaces a buffer, each refusal is
reported with its error, and nothing else is logged; so it is when a buffer is given up later, or
released. If the pool serves all calls, every announcement tells the length reported last, and the
length reported next. Over another pool that lends the same and panics at the same calls all ends alike
and makes the same calls, whatever either pool refuses. -/
theorem log_read_off_calls (pools : Handle → Pool σ α) (construction : Construction α) :
    (∀ s, (pools construction.handle).LogsCalls ((construction.run pools).run s).journal) ∧
      (∀ (buffer : Buffer Handle α) s,
        (pools buffer.handle).LogsCalls ((buffer.giveUp pools).run s).journal ∧
          (pools buffer.handle).LogsCalls ((buffer.release pools).run s).journal) ∧
      ∀ {τ : Type} (rel : σ → τ → Prop) (twins : Handle → Pool τ α),
        (∀ handle, (pools handle).InStep rel (twins handle)) →
          InStep rel (construction.run pools) (construction.run twins) ∧
            ∀ buffer : Buffer Handle α, InStep rel (buffer.giveUp pools) (buffer.giveUp twins) ∧
              InStep rel (buffer.release pools) (buffer.release twins) := by
  have givenUp (buffer : Buffer Handle α) (s : σ) :
      (pools buffer.handle).LogsCalls ((buffer.giveUp pools).run s).journal :=
    ((buffer.giveUp_faithful).ended s [] rfl).logsCalls
  refine ⟨fun s => ?_, fun buffer s => ?_, fun rel twins inStep => ⟨?_, fun buffer => ?_⟩⟩
  · exact ((run_faithful pools construction).ended s [] rfl).logsCalls
  · rw [Buffer.release_eq_giveUp]
    exact ⟨givenUp buffer s, givenUp buffer s⟩
  · exact run_inStep (inStep construction.handle)
  · rw [Buffer.release_eq_giveUp, Buffer.release_eq_giveUp]
    have given : InStep rel (buffer.giveUp pools) (buffer.giveUp twins) :=
      Buffer.giveUp_inStep (inStep buffer.handle)
    exact ⟨given, given⟩

/-- A buffer of two slots is outgrown, and the pool refuses it. -/
theorem log_read_off_calls_refused :
    let pools : Handle → Pool (PlannedPool UInt8) UInt8 := fun _ => PlannedPool.asPool UInt8
    let construction : Construction UInt8 :=
      .populate [.suggestedCapacity 1] (.collect ([1, 2, 3].map .item))
    let outcome := fun refuse => (construction.run pools).run (.start ⟨[1], 4096, 7, [], [], refuse⟩)
    (outcome [0]).journal.Served ∧ (outcome [0]).journal.ownWords.notes =
        [.rented 1 2, .growing 2 4, .rented 4 4, .returnRejected (.foreignBuffer 2)] ∧
      Note.Chained none (outcome [0]).journal.ownWords.notes ∧
      (outcome [0]).exit = (outcome []).exit ∧
      (outcome [0]).journal.deeds = (outcome []).journal.deeds := by
  intro pools construction outcome
  have served : (outcome [0]).journal.Served := by decide
  have log : (outcome [0]).journal.ownWords.notes =
      [.rented 1 2, .growing 2 4, .rented 4 4, .returnRejected (.foreignBuffer 2)] := by decide
  obtain ⟨logs, _, alike⟩ := log_read_off_calls pools construction
  have calls : (pools construction.handle).LogsCalls (outcome [0]).journal := logs _
  have inStep : (outcome [0]).InStep (fun pool twin => twin = pool.taking) (outcome []) :=
    (alike _ pools fun _ => PlannedPool.asPool_inStep).1 _ _ rfl
  exact ⟨served, log, (calls.words PlannedPool.asPool_discreet).2 served, inStep.exit, inStep.deeds⟩

end Construction

end BufferRental
