import BufferRental.Element.Kind
import BufferRental.Pool.Planned
import BufferRental.Proofs.Admission
import BufferRental.Proofs.OneLoan
import BufferRental.Proofs.Setbacks

/-! Copies from any bulk source, also from one that tells another length each time. The first answer
is the only one: it decides what is rented, how many slots the source gets, and how many of them are
shown. What the source leaves in its slots is shown if it succeeds, and goes back if it does not. -/
namespace BufferRental

open Act

/-- What becomes of a buffer with these slots once the source was given the first `length` of them:
how the population ends, and the return that comes before that. -/
inductive BulkSource.Fills (source : BulkSource α) (pool : Pool σ α) (clear : Bool) (handle : ι)
    (length : Nat) (slots : List α) : Exit (Buffer ι α) → Journal α → Prop where
  | kept (buffer : Buffer ι α) (finished : (source.copyTo (slots.take length)).ending = .finished)
      (held : buffer.slots = some ((source.copyTo (slots.take length)).target ++ slots.drop length))
      (count : buffer.count = length)
      (shown : buffer.elements = (source.copyTo (slots.take length)).target)
      (owner : buffer.clear = clear ∧ buffer.handle = handle) :
    Fills source pool clear handle length slots (.done buffer) []
  | failed {text : String} {panic? : Option Panic} {back : Journal α}
      (broke : (source.copyTo (slots.take length)).ending = .failed text)
      (gone : pool.TakesBack ((source.copyTo (slots.take length)).target ++ slots.drop length) clear
        panic? back) :
    Fills source pool clear handle length slots
      (Exit.overtaken (.failed (.copyFailed text)) panic?).raised back
  | panicked {first : Panic} {panic? : Option Panic} {back : Journal α}
      (broke : (source.copyTo (slots.take length)).ending = .panicked first)
      (gone : pool.TakesBack ((source.copyTo (slots.take length)).target ++ slots.drop length) clear
        panic? back) :
    Fills source pool clear handle length slots (Exit.overtaken (.panicked first) panic?).raised back

def BulkSource.Serves (source : BulkSource α) (pool : Pool σ α) (clear : Bool) (handle : ι)
    (length : Nat) (slots : List α) (exit : Exit (Buffer ι α)) (events : Journal α) : Prop :=
  ∃ back, source.Fills pool clear handle length slots exit back ∧
    events = .offered (slots.take length) ::
      ((source.copyTo (slots.take length)).cloned.map .cloned ++ back)

namespace Pool

variable {pool : Pool σ α} {clear : Bool} {handle : ι} {slots : List α}

theorem fillAtOnce_serves (source : BulkSource α) {length : Nat} (enough : length ≤ slots.length)
    (past : Journal α) :
    Concludes (fun _ j => j = past)
      (pool.fillAtOnce clear length slots source.copyTo >>= Buffer.ofPopulated clear handle)
      (fun exit _ j => ∃ events,
        source.Serves pool clear handle length slots exit events ∧ j = past ++ events) := by
  have size : (slots.take length).length = length := List.length_take_of_le enough
  have target := source.length_copyTo (slots.take length)
  rw [size] at target
  simp only [fillAtOnce, if_neg (Nat.not_lt.mpr enough), bind_assoc]
  generalize copied : source.copyTo (slots.take length) = copy at target ⊢
  let past' := past ++ .offered (slots.take length) :: copy.cloned.map .cloned
  have offered : Ensures (fun (_ : σ) j => j = past)
      (record (.offered (slots.take length) :: copy.cloned.map .cloned))
      (fun _ _ j => j = past') (fun _ _ _ => False) := ensures_record fun _ _ same => by rw [same]
  refine ensures_bind offered.unstopped fun _ => ?_
  -- what the buffer holds goes back if the source does not succeed
  have broken (failure : Exit Empty) (ended : failure ≠ .aborted)
      (fills : ∀ panic? back, pool.TakesBack (copy.target ++ slots.drop length) clear panic? back →
        source.Fills pool clear handle length slots (failure.overtaken panic?).raised back) :
      Concludes (fun _ j => j = past')
        (pool.settle clear (copy.target ++ slots.drop length) (failure.raised : Exit (Populated α)) >>=
          Buffer.ofPopulated clear handle)
        (fun exit _ j => ∃ events,
          source.Serves pool clear handle length slots exit events ∧ j = past ++ events) := by
    refine ensures_bind ((settle_takesBack ended past').stops ?_) fun _ _ _ => False.elim
    rintro _ _ _ ⟨panic?, back, rfl, gone, rfl⟩
    exact ⟨_, ⟨back, fills panic? back gone, rfl⟩, by simp [past', copied]⟩
  cases ended : copy.ending with
  | finished =>
    have fits : length ≤ (copy.target ++ slots.drop length).length := by
      rw [List.length_append, target]
      omega
    have owned : (Buffer.ofPopulated clear handle
        ⟨some (copy.target ++ slots.drop length), length⟩ : Act σ α _) =
          return ⟨_, _, clear, handle, fits⟩ := dif_pos fits
    simp only [CopyEnding.exit, Exit.map, settle, Act.pure_bind, owned]
    refine ensures_pure fun _ _ same => ⟨_, ⟨[], ?_, rfl⟩, by simp [same, past', copied]⟩
    refine .kept _ (by rw [copied, ended]) (by rw [copied]) rfl ?_ ⟨rfl, rfl⟩
    simp [Buffer.elements, copied, target]
  | failed text =>
    exact broken (.failed (.copyFailed text)) (by simp) fun _ _ gone =>
      .failed (by rw [copied, ended]) (by rwa [copied])
  | panicked panic =>
    exact broken (.panicked panic) (by simp) fun _ _ gone =>
      .panicked (by rw [copied, ended]) (by rwa [copied])

theorem rentChecked_of_reply {request : Nat} {s next : σ} {granted : List α} {notes : List Note}
    (reply : pool.rent request s = ⟨.ok granted, next, notes⟩) (enough : request ≤ granted.length)
    (past : Journal α) {stop : Exit Empty → σ → Journal α → Prop} :
    Ensures (fun state j => state = s ∧ j = past) (pool.rentChecked request)
      (fun slots _ j => slots = granted ∧ j = past ++ .rented request (some granted) ::
        (notes ++ [Note.rented request granted.length]).map .noted) stop := by
  apply ensures_rentChecked_of_lends
  rintro _ _ ⟨rfl, rfl⟩
  exact ⟨granted, next, notes, reply, enough, rfl, by simp⟩

end Pool

namespace Settings

variable [Element α] (pools : ι → Pool σ α) (settings : Settings ι)

theorem build_copyFrom_of_within (source : BulkSource α) (needed : 0 < source.lengthAt 0)
    (within : source.lengthAt 0 ≤ Element.maxLen α) :
    settings.build pools (.copyFrom source) =
      record [.measured (source.lengthAt 0)] >>= fun _ =>
        (pools settings.handle).rentChecked (source.lengthAt 0) >>= fun slots =>
          (pools settings.handle).fillAtOnce (settings.clear α) (source.lengthAt 0) slots
              source.copyTo >>=
            Buffer.ofPopulated (settings.clear α) settings.handle := by
  have admitted : (Method.copyFrom source).Admitted settings.suggestedCapacity :=
    Method.admitted_of_firstLen_le rfl within
  have nonzero : (Method.copyFrom source).firstLen settings.suggestedCapacity ≠ 0 :=
    Nat.ne_of_gt needed
  rw [build_eq_populate, populate_stages, Pool.checkGiven_of_admitted admitted]
  simp only [Pool.rentAndFill, nonzero, if_false, Act.pure_bind, bind_assoc]
  rfl

/-- The source is asked its length once. If that is zero, or no buffer is as long, nothing else
happens. Otherwise the pool is asked for that length, and if it lends as much, the source is given
that many slots, the first ones, once. If it succeeds, what it left in them is shown and nothing
else. If it fails or panics, that goes back once, with the slots that were lent beyond it, and the
failure of the source is reported unless the pool panics in taking the buffer back. -/
theorem length_read_once (source : BulkSource α) (s : σ) :
    let length := source.lengthAt 0
    let limit := Element.maxLen α
    let outcome := (settings.build pools (.copyFrom source)).run s
    (length = 0 →
        outcome = ⟨.done (.empty (settings.clear α) settings.handle), s, [.measured 0]⟩) ∧
      (limit < length →
        outcome = ⟨.failed (.tooLong "count" length limit), s, [.measured length]⟩) ∧
      ∀ granted next notes, 0 < length → length ≤ limit →
        (pools settings.handle).rent length s = ⟨.ok granted, next, notes⟩ →
        length ≤ granted.length → (granted.take length).length = length ∧
          ∃ events, source.Serves (pools settings.handle) (settings.clear α) settings.handle length
              granted outcome.exit events ∧
            outcome.journal = .measured length :: .rented length (some granted) ::
              ((notes ++ [Note.rented length granted.length]).map .noted ++ events) := by
  intro length limit outcome
  refine ⟨fun nothing => ?_, fun long => ?_, ?_⟩
  · have admitted : (Method.copyFrom source).Admitted settings.suggestedCapacity :=
      Method.admitted_of_firstLen_le rfl (Nat.le_trans (Nat.le_of_eq nothing) (Nat.zero_le _))
    have untouched := build_of_nothing pools settings (.copyFrom source) nothing admitted s
    have none : Method.measurement (.copyFrom source) = [.measured 0] :=
      congrArg (fun n => [Event.measured n]) nothing
    rw [none] at untouched
    exact untouched
  · exact (lengths_checked_first pools settings (.copyFrom source) s).2.1 "count" length rfl long
  · intro granted next notes needed within reply enough
    refine ⟨List.length_take_of_le enough, ?_⟩
    have measured : Ensures (fun state (j : Journal α) => state = s ∧ j = [])
        (record [.measured length])
        (fun _ state j => state = s ∧ j = [.measured length]) fun _ _ _ => False :=
      ensures_record fun _ _ start => ⟨start.1, by rw [start.2]; rfl⟩
    let rented : Journal α := [.measured length] ++ .rented length (some granted) ::
      (notes ++ [Note.rented length granted.length]).map .noted
    have built : Concludes (fun state j => state = s ∧ j = [])
        (settings.build pools (.copyFrom source))
        (fun exit _ j => ∃ events, source.Serves (pools settings.handle) (settings.clear α)
          settings.handle length granted exit events ∧ j = rented ++ events) := by
      rw [build_copyFrom_of_within pools settings source needed within]
      refine ensures_bind measured.unstopped fun _ =>
        ensures_bind (Pool.rentChecked_of_reply reply enough _) fun slots => ?_
      refine ensures_given (fun _ _ start => start.1) fun same => ?_
      subst same
      exact (Pool.fillAtOnce_serves source enough rented).before fun _ _ start => start.2
    obtain ⟨events, serves, same⟩ := built.run s [] ⟨rfl, rfl⟩
    exact ⟨events, serves, by simpa [rented] using same⟩

/-- The source tells three first and five from then on, and fails after two elements. -/
theorem length_read_once_misreported :
    let pools : Unit → Pool (PlannedPool UInt8) UInt8 := fun _ => PlannedPool.asPool UInt8
    let source : BulkSource UInt8 := .scripted [3, 5] [1, 2] (.failed "storage went away")
    let outcome := ((⟨.never, 4, ()⟩ : Settings Unit).build pools (.copyFrom source)).run
      (.start ⟨[1], 4096, 7, [], [], []⟩)
    outcome.exit = .failed (.copyFailed "storage went away") ∧
      outcome.journal.handed = [[1, 2, 7, 7]] ∧
      ∃ events, source.Serves (pools ()) false () 3 [7, 7, 7, 7] outcome.exit events ∧
        outcome.journal = .measured 3 :: .rented 3 (some [7, 7, 7, 7]) ::
          .noted (.rented 3 4) :: events := by
  intro pools source outcome
  obtain ⟨_, _, served⟩ := length_read_once pools ⟨.never, 4, ()⟩ source
    (.start ⟨[1], 4096, 7, [], [], []⟩)
  exact ⟨rfl, by decide, (served [7, 7, 7, 7] _ [] (by decide) (by decide) rfl (by decide)).2⟩

/-- A pool that lends all that is asked, but panics when a buffer comes back, keeps the failure of
the source from the caller. -/
theorem length_read_once_unreturned :
    let plan : Plan UInt8 := ⟨[], maxWord, 7, [], [0], []⟩
    let source : BulkSource UInt8 := .scripted [3] [1, 2] (.failed "storage went away")
    let outcome := ((⟨.never, 4, ()⟩ : Settings Unit).build (fun _ => PlannedPool.asPool UInt8)
      (.copyFrom source)).run (.start plan)
    (∀ (pool : PlannedPool UInt8) (minLen : Nat), pool.plan = plan → minLen ≤ maxWord →
        ∃ granted, (pool.rent minLen).result = .ok granted ∧ minLen ≤ granted.length) ∧
      (∀ target, (source.copyTo target).ending = .failed "storage went away") ∧
      outcome.exit ≠ .failed (.copyFailed "storage went away") := by
  intro plan source outcome
  have ended : outcome.exit = .panicked (.raised "mock pool: return failed") := rfl
  refine ⟨?_, fun _ => rfl, fun failed => nomatch ended.symm.trans failed⟩
  rintro ⟨_, rents, returns⟩ minLen rfl word
  refine ⟨List.replicate minLen 7, ?_, by simp⟩
  simp [PlannedPool.rent, Plan.grantLen, plan, Nat.min_eq_left word]

end Settings

end BufferRental
