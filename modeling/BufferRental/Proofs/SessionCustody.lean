import BufferRental.Proofs.Custody
import BufferRental.Proofs.ListView
import BufferRental.Session

/-! The books of a session. Whatever is built, changed, given up or unwound, and in whatever order,
the buffers that a pool lent and did not get back are just those that live buffers own. -/
namespace BufferRental

/-- Raw steps go to a pool directly; all others go through a buffer or only look. -/
def Step.isRaw : Step α → Bool
  | .raw .. => true
  | _ => false

def Step.slot? : Step α → Option String
  | .build slot _ | .view slot _ | .giveUp slot | .release slot | .unwind slot | .share slot _ _ =>
    some slot
  | _ => none

def Step.ended? : Step α → Option String
  | .giveUp slot | .release slot | .unwind slot | .share slot _ _ => some slot
  | _ => none

def Journal.OnlyHands (journal : Journal α) (slots : List (List α)) : Prop :=
  journal.lent = [] ∧ journal.handed = slots

namespace Act

theorem ensures_listen {act : Act σ α β} {pre : σ → Journal α → Prop}
    {post : β × Journal α → σ → Journal α → Prop} {stop : Exit Empty → σ → Journal α → Prop}
    (first : Ensures pre act (fun value s j => ∀ heard, post (value, heard) s j) stop) :
    Ensures pre act.listen post stop := by
  intro s past start
  have after := first s past start
  simp only [listen]
  cases ran : (act.run s).exit <;> rw [ran] at after
  · exact after _
  all_goals exact after

theorem ensures_get {pre : σ → Journal α → Prop} {post : σ → σ → Journal α → Prop}
    {stop : Exit Empty → σ → Journal α → Prop} (held : ∀ s past, pre s past → post s s past) :
    Ensures pre get post stop := by
  intro s past start
  simpa [Exit.Satisfies, get] using held s past start

/-- What holds at every ending of an act on its own holds of its journal. -/
theorem Ensures.journal {act : Act σ α β} {claim : Journal α → Prop}
    (triple : Ensures (fun _ j => j = []) act (fun _ _ => claim) fun _ _ => claim) (s : σ) :
    claim (act.run s).journal := triple.ended s [] rfl

theorem Ensures.onlyHands {act : Act σ α β} {slots : List (List α)}
    (hands : Ensures (fun _ j => j.OnlyHands []) act (fun _ _ j => j.OnlyHands slots)
      fun _ _ j => j.OnlyHands slots) (s : σ) : (act.run s).journal.OnlyHands slots := by
  have alone : Ensures (fun _ j => j = []) act (fun _ _ j => j.OnlyHands slots)
      fun _ _ j => j.OnlyHands slots :=
    hands.imp (fun _ _ start => start ▸ ⟨rfl, rfl⟩) (fun _ _ _ => id) fun _ _ _ => id
  exact alone.journal s

end Act

open Act

theorem Pool.giveBack_onlyHands {pool : Pool σ α} (slots : List α) (clear : Bool) :
    Ensures (fun _ j => j.OnlyHands []) (pool.giveBack slots clear)
      (fun _ _ j => j.OnlyHands [slots]) fun _ _ j => j.OnlyHands [slots] := by
  apply ensures_giveBack
  · intro s past next notes start _
    simpa [Journal.OnlyHands, Event.lent?, Event.handed?] using start
  · intro s past error next notes start _
    simpa [Journal.OnlyHands, Event.lent?, Event.handed?] using start
  · intro s past panic next notes start _
    simpa [Journal.OnlyHands, Event.lent?, Event.handed?] using start

/-- A buffer that is given up hands back its slots, however the pool takes it. -/
theorem Buffer.giveUp_onlyHands (pools : ι → Pool σ α) (buffer : Buffer ι α) :
    Ensures (fun _ j => j.OnlyHands []) (buffer.giveUp pools)
      (fun _ _ j => j.OnlyHands buffer.slots.toList) fun _ _ j => j.OnlyHands buffer.slots.toList := by
  cases held : buffer.slots with
  | none =>
    rw [giveUp_of_none pools held]
    exact ensures_pure fun _ _ => id
  | some slots =>
    rw [giveUp_of_some pools held]
    exact Pool.giveBack_onlyHands slots buffer.clear

theorem Buffer.unwind_onlyHands (pools : ι → Pool σ α) (buffer : Buffer ι α) (panic : Panic) :
    Ensures (fun _ j => j.OnlyHands []) (whileUnwinding panic (buffer.giveUp pools) : Act σ α Unit)
      (fun _ _ j => j.OnlyHands buffer.slots.toList) fun _ _ j => j.OnlyHands buffer.slots.toList := by
  apply ensures_whileUnwinding
  refine (buffer.giveUp_onlyHands pools).stops fun ending _ _ => ?_
  cases ending <;> exact id

theorem Shares.leave_onlyHands (pools : ι → Pool σ α) (shares : Shares ι α) :
    Ensures (fun _ j => j.OnlyHands []) (shares.leave pools)
      (fun after _ j => after = { shares with owners := shares.owners - 1 } ∧
        j.OnlyHands (if shares.owners = 1 then shares.buffer.slots.toList else []))
      fun _ _ j => j.OnlyHands shares.buffer.slots.toList := by
  unfold leave
  by_cases last : shares.owners = 1
  · simp only [if_pos last]
    exact ensures_bind (shares.buffer.giveUp_onlyHands pools) fun _ =>
      ensures_pure fun _ _ given => ⟨rfl, given⟩
  · simp only [if_neg last]
    exact ensures_pure fun _ _ start => ⟨rfl, start⟩

/-- Of several owners only the last one gives the buffer up. -/
theorem Shares.leaveEach_onlyHands (pools : Handle → Pool σ α) (before : σ) (owners returns : Nat)
    (shares : Shares Handle α) (all : shares.owners = owners) :
    Ensures (fun _ j => j.OnlyHands []) (leaveEach pools before owners returns shares)
      (fun _ _ j => j.OnlyHands (if owners = 0 then [] else shares.buffer.slots.toList))
      fun _ _ j => j.OnlyHands shares.buffer.slots.toList := by
  -- a buffer with several owners is given up in the step from one owner to none
  induction owners generalizing returns shares with
  | zero => exact ensures_pure fun _ _ => id
  | succ owners ih =>
    have left : Ensures (fun _ j => j.OnlyHands []) (shares.leave pools).listen
        (fun heard _ j => heard.1 = { shares with owners := owners } ∧
          j.OnlyHands (if owners = 0 then shares.buffer.slots.toList else []))
        fun _ _ j => j.OnlyHands shares.buffer.slots.toList := by
      refine ensures_listen ((shares.leave_onlyHands pools).imp (fun _ _ => id) ?_ fun _ _ _ => id)
      rintro after _ _ ⟨same, hands⟩ _
      simpa [all] using And.intro same hands
    refine ensures_bind left fun heard => ensures_given (fun _ _ start => start.1) fun same => ?_
    obtain ⟨after, heard⟩ := heard
    cases same
    have looked : Ensures (fun (_ : σ) (j : Journal α) =>
        j.OnlyHands (if owners = 0 then shares.buffer.slots.toList else [])) get
        (fun _ _ j => j.OnlyHands (if owners = 0 then shares.buffer.slots.toList else []))
        fun _ _ j => j.OnlyHands shares.buffer.slots.toList := ensures_get fun _ _ => id
    refine ensures_bind (looked.imp (fun _ _ => And.right) (fun _ _ _ => id) fun _ _ _ => id)
      fun now => ?_
    cases owners with
    | zero => exact ensures_pure fun _ _ => id
    | succ owners =>
      exact ensures_bind (ih _ { shares with owners := owners + 1 } rfl) fun later =>
        ensures_pure fun _ _ => id

namespace Session

variable {session : Session σ α}

structure Sound (session : Session σ α) : Prop where
  names : (session.buffers.map Prod.fst).Nodup
  rented : ∀ entry ∈ session.buffers, entry.2.slots ≠ some []

def outstanding (handle : Handle) (session : Session σ α) : List (Buffer Handle α) :=
  (session.buffers.map Prod.snd).filter fun buffer => buffer.handle = handle ∧ 0 < buffer.capacity

theorem lookup_without_self (named : List (String × β)) (slot : String) :
    (without named slot).lookup slot = none := by
  rw [List.lookup_eq_none_iff]
  intro entry member
  rw [bne_comm]
  exact (List.mem_filter.mp member).2

theorem lookup_without_other (named : List (String × β)) {slot other : String}
    (apart : other ≠ slot) : (without named slot).lookup other = named.lookup other := by
  induction named with
  | nil => rfl
  | cons entry named ih =>
    obtain ⟨name, value⟩ := entry
    simp only [without] at ih
    by_cases same : name = slot
    · have different : (other == name) = false := beq_false_of_ne (same ▸ apart)
      simp [without, same ▸ different, same, List.lookup_cons, ih]
    · have kept : (name != slot) = true := bne_iff_ne.mpr same
      simp only [without, List.filter_cons, kept, if_true, List.lookup_cons, ih]

theorem without_of_absent {named : List (String × β)} {slot : String}
    (absent : named.lookup slot = none) : without named slot = named := by
  rw [List.lookup_eq_none_iff] at absent
  refine List.filter_eq_self.mpr fun entry member => ?_
  rw [bne_comm]
  exact absent entry member

/-- A name that occurs once can be brought to the front. -/
theorem perm_without {named : List (String × β)} {slot : String} {value : β}
    (names : (named.map Prod.fst).Nodup) (found : named.lookup slot = some value) :
    named.Perm ((slot, value) :: without named slot) := by
  obtain ⟨before, after, rfl, early⟩ := List.lookup_eq_some_iff.mp found
  have fresh := (List.nodup_cons.mp (List.perm_middle.nodup_iff.mp (by simpa using names))).1
  have others : without (before ++ (slot, value) :: after) slot = before ++ after := by
    rw [without, List.filter_append, List.filter_cons_of_neg (by simp)]
    congr 1 <;> refine List.filter_eq_self.mpr fun entry member => ?_
    · rw [bne_comm]
      exact early entry member
    · refine bne_iff_ne.mpr fun same => fresh ?_
      exact List.mem_append_right _ (same ▸ List.mem_map_of_mem member)
  rw [others]
  exact List.perm_middle

end Session

/-- All that a step which is not raw can do to the live buffers and to the pools. -/
inductive Session.Move (before : Session σ α) : Step α → Turn σ α → Prop where
  | look (step : Step α) (answer : Answer α) (looks : step.slot? = none) :
    Move before step (before.reply answer)
  | refuse (step : Step α) (misuse : Misuse) (unfit : match step with
      | .build slot _ => before.isFree slot = false
      | _ => ∀ slot, step.slot? = some slot → before.buffer? slot = none) :
    Move before step (before.misuse misuse)
  | edit (slot : String) (operation : ViewOp α) (buffer edited : Buffer Handle α)
      (answer : Answer α) (found : before.buffer? slot = some buffer)
      (owner : edited.handle = buffer.handle)
      (lengths : edited.slots.map List.length = buffer.slots.map List.length) :
    Move before (.view slot operation) ((before.putBuffer slot edited).reply answer)
  | gain (slot : String) (construction : Construction α) (buffer : Buffer Handle α)
      (journal : Journal α) (world : σ) (free : before.isFree slot = true)
      (rented : buffer.slots ≠ some []) (owes : journal.Owes buffer.held) :
    Move before (.build slot construction) ⟨.description buffer.description,
      journal.map (buffer.handle, ·), { before with world }.putBuffer slot buffer⟩
  | fail (slot : String) (construction : Construction α) (answer : Answer α)
      (journal : Journal α) (world : σ) (handle : Handle) (free : before.isFree slot = true)
      (owes : journal.Owes []) :
    Move before (.build slot construction)
      ⟨answer, journal.map (handle, ·), { before with world }⟩
  | release (step : Step α) (slot : String) (buffer : Buffer Handle α) (answer : Answer α)
      (journal : Journal α) (world : σ) (ends : step.ended? = some slot)
      (found : before.buffer? slot = some buffer) (hands : journal.OnlyHands buffer.slots.toList) :
    Move before step
      ⟨answer, journal.map (buffer.handle, ·), { before.dropBuffer slot with world }⟩

theorem Construction.run_builds [Element α] (pools : Handle → Pool σ α)
    (construction : Construction α) : Builds construction.handle (construction.run pools) := by
  cases construction with
  | populate settings method => exact build_builds pools _ method
  | new => exact ensures_pure fun _ _ still => ⟨rfl, nofun, .of_still still⟩
  | fromIterator hint items => exact fromIterator_builds pools .shared hint items

namespace Session

variable {pools : Handle → Pool σ α} {session : Session σ α}

theorem build_move [Element α] (slot : String) (construction : Construction α)
    (free : session.isFree slot = true) :
    Move session (.build slot construction) (session.step pools (.build slot construction)) := by
  have after := construction.run_builds pools session.world [] rfl
  simp only [step, if_pos free, call]
  cases ended : ((construction.run pools).run session.world).exit with
  | done buffer =>
    simp only [ended, Exit.Satisfies, List.nil_append] at after
    obtain ⟨owner, rented, owes⟩ := after
    rw [← owner]
    exact .gain slot construction buffer _ _ free rented owes
  | failed | panicked | aborted =>
    simp only [ended, Exit.Satisfies, List.nil_append] at after
    exact .fail slot construction _ _ _ _ free after

/-- Every act by which the owner of a buffer ends it is a release. -/
theorem call_release (step : Step α) (slot : String) (buffer : Buffer Handle α)
    (act : Act σ α β) (answer : β → Answer α) (ends : step.ended? = some slot)
    (found : session.buffer? slot = some buffer)
    (hands : Ensures (fun _ j => j.OnlyHands []) act (fun _ _ j => j.OnlyHands buffer.slots.toList)
      fun _ _ j => j.OnlyHands buffer.slots.toList) :
    Move session step ((session.dropBuffer slot).call buffer.handle act answer fun _ => id) := by
  have handed := hands.onlyHands session.world
  simp only [call, dropBuffer]
  cases (act.run session.world).exit <;> exact .release step slot buffer _ _ _ ends found handed

theorem step_move [Element α] (step : Step α) (library : step.isRaw = false) :
    Move session step (session.step pools step) := by
  cases step with
  | build slot construction =>
    by_cases free : session.isFree slot = true
    · exact build_move slot construction free
    · simp only [Session.step, if_neg free]
      exact .refuse _ _ (Bool.eq_false_iff.mpr free)
  | describe slot =>
    simp only [Session.step]
    cases session.buffer? slot <;> exact .look _ _ rfl
  | inspect slot pretty =>
    simp only [Session.step]
    cases session.buffer? slot <;> exact .look _ _ rfl
  | compare slot other =>
    simp only [Session.step]
    cases session.buffer? slot <;> cases session.buffer? other <;> exact .look _ _ rfl
  | countIdle => exact .look _ _ rfl
  | raw slot step => cases library
  | view slot operation =>
    simp only [Session.step]
    cases found : session.buffer? slot with
    | none => exact .refuse _ _ fun _ same => Option.some.inj same ▸ found
    | some buffer =>
      have kept := (buffer.perform_agrees operation).kept
      exact .edit slot operation buffer _ _ found kept.handle kept.lengths
  | giveUp slot =>
    simp only [Session.step]
    cases found : session.buffer? slot with
    | none => exact .refuse _ _ fun _ same => Option.some.inj same ▸ found
    | some buffer =>
      exact call_release _ slot buffer _ _ rfl found (buffer.giveUp_onlyHands pools)
  | release slot =>
    simp only [Session.step, Buffer.release_eq_giveUp]
    cases found : session.buffer? slot with
    | none => exact .refuse _ _ fun _ same => Option.some.inj same ▸ found
    | some buffer =>
      exact call_release _ slot buffer _ _ rfl found (buffer.giveUp_onlyHands pools)
  | unwind slot =>
    simp only [Session.step]
    cases found : session.buffer? slot with
    | none => exact .refuse _ _ fun _ same => Option.some.inj same ▸ found
    | some buffer =>
      exact call_release _ slot buffer _ _ rfl found (buffer.unwind_onlyHands pools ownerPanic)
  | share slot clones parallel =>
    simp only [Session.step]
    cases found : session.buffer? slot with
    | none => exact .refuse _ _ fun _ same => Option.some.inj same ▸ found
    | some buffer =>
      exact call_release _ slot buffer _ _ rfl found
        (Shares.leaveEach_onlyHands pools session.world (clones + 1) 0 ⟨clones + 1, buffer⟩ rfl)

end Session

end BufferRental
