import BufferRental.Proofs.Refusal
import BufferRental.Proofs.Relay

/-! What a population leaves in a bucket pool serves the next one. A round of calls asks for each
length once and brings it back, so every length that it used has a buffer in stock afterwards; the
same round again takes all that it needs from there and leaves the stock as it was. -/
namespace BufferRental

open Act

/-- No buffer is lent of a length that a call before was about. -/
def Call.RentsAnew (calls : List Call) : Prop :=
  calls.Pairwise fun early later =>
    ∀ request length, later = .rent request (some length) → early.length? ≠ some length

namespace Relay

variable {clear : Bool} {current room : Nat} {calls : List Call}

theorem lengths (relay : Relay clear current calls) :
    ∀ call ∈ calls, ∀ length, call.length? = some length → current ≤ length := by
  induction relay with
  | last current =>
    intro call member length about
    cases List.mem_singleton.mp member
    cases about
    exact Nat.le_refl _
  | replace request rises later ih =>
    intro call member length about
    rcases List.mem_cons.mp member with rfl | member
    · cases about
      exact Nat.le_of_lt rises
    · rcases List.mem_cons.mp member with rfl | member
      · cases about
        exact Nat.le_refl _
      · exact Nat.le_trans (Nat.le_of_lt rises) (ih call member length about)

theorem unused (relay : Relay clear current calls) {length : Nat} (shorter : length < current) :
    ∀ call ∈ calls, call.length? ≠ some length := by
  intro call member about
  exact absurd (relay.lengths call member length about) (Nat.not_le.mpr shorter)

theorem lt_of_rent (relay : Relay clear current calls) {request length : Nat}
    (lent : .rent request (some length) ∈ calls) : current < length := by
  induction relay with
  | last current => cases List.mem_singleton.mp lent
  | replace asked rises later ih =>
    rcases List.mem_cons.mp lent with same | lent
    · cases same
      exact rises
    · rcases List.mem_cons.mp lent with same | lent
      · cases same
      · exact Nat.lt_trans rises (ih lent)

/-- A loan is longer than all that was at hand before. -/
theorem rentsAnew (relay : Relay clear current calls) : Call.RentsAnew calls := by
  induction relay with
  | last current => exact List.pairwise_singleton ..
  | @replace current longer rest request rises later ih =>
    refine List.pairwise_cons.mpr ⟨?_, List.pairwise_cons.mpr ⟨?_, ih⟩⟩
    · rintro call member asked length rfl about
      cases about
      rcases List.mem_cons.mp member with same | lent
      · cases same
      · exact absurd (later.lt_of_rent lent) (Nat.lt_irrefl _)
    · rintro call lent asked length rfl about
      cases about
      exact absurd (later.lt_of_rent lent) (Nat.not_lt.mpr (Nat.le_of_lt rises))

/-- The buffer at hand joins the stock, and of every other length that the relay uses a buffer is
lent and comes back. -/
theorem stock (relay : Relay clear current calls) (places : 0 < room) :
    (∀ idle, idle ≤ room → calls.foldl (Call.stock room current) idle = min (idle + 1) room) ∧
      ∀ length, length ≠ current → (∀ call ∈ calls, call.length? ≠ some length) ∨
        ∀ idle, idle ≤ room → calls.foldl (Call.stock room length) idle = max idle 1 := by
  induction relay with
  | last current =>
    constructor
    · intro idle _
      simp [Call.stock]
    · intro length other
      left
      intro call member about
      cases List.mem_singleton.mp member
      cases about
      exact other rfl
  | @replace current longer rest request rises later ih =>
    obtain ⟨own, others⟩ := ih
    have apart : longer ≠ current := Nat.ne_of_gt rises
    constructor
    · intro idle bound
      have still : rest.foldl (Call.stock room current) (min (idle + 1) room) = min (idle + 1) room :=
        Call.foldl_stock_of_unused (later.unused rises)
      simpa [Call.stock, apart] using still
    · intro length other
      by_cases same : longer = length
      · subst same
        right
        intro idle bound
        have back := own (idle - 1) (by omega)
        simp only [List.foldl_cons, Call.stock, if_true, if_neg (Ne.symm apart), back]
        omega
      · rcases others length (Ne.symm same) with unused | used
        · left
          intro call member about
          rcases List.mem_cons.mp member with rfl | member
          · cases about
            exact same rfl
          · rcases List.mem_cons.mp member with rfl | member
            · cases about
              exact other rfl
            · exact unused call member about
        · right
          intro idle bound
          have away := used idle bound
          simpa [Call.stock, same, Ne.symm other] using away

end Relay

namespace Round

variable {clear : Bool} {room : Nat} {calls : List Call}

theorem rentsAnew (round : Round clear calls) : Call.RentsAnew calls := by
  cases round with
  | nothing => exact List.Pairwise.nil
  | first request later =>
    refine List.pairwise_cons.mpr ⟨?_, later.rentsAnew⟩
    rintro call lent asked length rfl about
    cases about
    exact absurd (later.lt_of_rent lent) (Nat.lt_irrefl _)

/-- Of every length that the round uses there is a buffer in stock afterwards, and otherwise the
stock is as before. -/
theorem stock (round : Round clear calls) (places : 0 < room) (length : Nat) :
    (∀ call ∈ calls, call.length? ≠ some length) ∨
      ∀ idle, idle ≤ room → calls.foldl (Call.stock room length) idle = max idle 1 := by
  cases round with
  | nothing => exact .inl nofun
  | @first given rest request later =>
    obtain ⟨own, others⟩ := later.stock places
    by_cases same : given = length
    · subst same
      right
      intro idle bound
      have back := own (idle - 1) (by omega)
      simp only [List.foldl_cons, Call.stock, if_true, back]
      omega
    · rcases others length (Ne.symm same) with unused | used
      · left
        intro call member about
        rcases List.mem_cons.mp member with rfl | member
        · cases about
          exact same rfl
        · exact unused call member about
      · right
        intro idle bound
        have away := used idle bound
        simpa [Call.stock, same] using away

/-- A length that the round uses has a buffer in stock after it. -/
theorem reserve (round : Round clear calls) (places : 0 < room) {length : Nat}
    (used : ∃ call ∈ calls, call.length? = some length) {idle : Nat} (bound : idle ≤ room) :
    0 < calls.foldl (Call.stock room length) idle := by
  obtain ⟨call, member, about⟩ := used
  rcases round.stock places length with unused | returns
  · exact absurd about (unused call member)
  · rw [returns idle bound]
    omega

theorem stock_again (round : Round clear calls) (places : 0 < room) (length : Nat) {idle : Nat}
    (bound : idle ≤ room) :
    calls.foldl (Call.stock room length) (calls.foldl (Call.stock room length) idle) =
      calls.foldl (Call.stock room length) idle := by
  rcases round.stock places length with unused | used
  · rw [Call.foldl_stock_of_unused unused, Call.foldl_stock_of_unused unused]
  · have later : max idle 1 ≤ room := Nat.max_le.mpr ⟨bound, places⟩
    rw [used idle bound, used _ later]
    omega

end Round

theorem BucketLimits.shelved_of_rounded (limits : BucketLimits) {minLen length : Nat}
    (within : minLen ≤ limits.maxBufferLen) (rounded : IsLeast (sufficientLens minLen) length) :
    limits.Shelved length := by
  rw [rounded.unique (BucketPool.servedLen_isLeast minLen)]
  exact BucketPool.limits_rounded limits within

namespace Shelves

variable [Element α] {limits : BucketLimits} {shelves next : Shelves α} {request : Request α}
  {events : Journal α}

theorem Serves.untouched (serves : Serves limits shelves request events next)
    (fit : shelves.Fit limits) {length : Nat}
    (unused : ∀ call ∈ events.calls, call.length? ≠ some length) : next length = shelves length := by
  cases serves with
  | reuse minLen served newest older within rounded idle =>
    have size := fit.lengths served newest (by simp [idle])
    have about := unused (.rent minLen (some served)) (by simp [Event.call?, size])
    exact replace_other _ _ fun same => about (congrArg some same.symm)
  | keep slots clear shelved room =>
    have about := unused (.hand slots.length clear) (by simp [Event.call?])
    exact replace_other _ _ fun same => about (congrArg some same.symm)
  | fresh | unpooled | full | oversize | foreign => rfl

/-- What is lent within the limit is the newest idle buffer of its length, if there is one. -/
theorem Serves.lends (serves : Serves limits shelves request events next)
    (fit : shelves.Fit limits) {minLen : Nat} {granted : Option (List α)}
    (lent : .rented minLen granted ∈ events) (within : minLen ≤ limits.maxBufferLen) :
    ∃ slots, granted = some slots ∧ limits.Shelved slots.length ∧
      .rent minLen (some slots.length) ∈ events.calls ∧
      (shelves slots.length = [] ∨ ∃ older, shelves slots.length = slots :: older) := by
  cases serves with
  | reuse asked served newest older _ rounded idle =>
    have size := fit.lengths served newest (by simp [idle])
    have shelved := fit.shelved served (by simp [idle])
    cases List.mem_singleton.mp lent
    subst size
    exact ⟨newest, rfl, shelved, by simp [Event.call?], .inr ⟨older, idle⟩⟩
  | fresh asked served _ rounded idle =>
    obtain ⟨rfl, rfl⟩ : asked = minLen ∧ some (Element.blanks α served) = granted := by
      simpa [eq_comm] using lent
    have shelved := limits.shelved_of_rounded within rounded
    exact ⟨_, rfl, by simpa using shelved, by simp [Event.call?], .inl (by simpa using idle)⟩
  | unpooled asked beyond =>
    obtain ⟨rfl, -⟩ : asked = minLen ∧ some (Element.blanks α asked) = granted := by
      simpa [eq_comm] using lent
    exact absurd within (Nat.not_le.mpr beyond)
  | keep | full | oversize | foreign => simp at lent

theorem Serves.empty (serves : Serves limits shelves request events next) {length : Nat}
    (made : .noted (.bucketEmpty length) ∈ events) : limits.Shelved length ∧ shelves length = [] ∧
      ∃ minLen, .rent minLen (some length) ∈ events.calls := by
  cases serves with
  | fresh asked served within rounded idle =>
    obtain rfl : length = served := by simpa using made
    exact ⟨limits.shelved_of_rounded within rounded, idle, asked, by simp [Event.call?]⟩
  | reuse | unpooled | keep | full | oversize | foreign => simp at made

end Shelves

namespace BucketPool

/-- What the calls so far made of a pool whose shelves were `shelves` at first. As long as lengths
are lent anew, all that was lent lay there, unless a shelf was empty. -/
structure Replays (limits : BucketLimits) (shelves : Shelves α) (pool : BucketPool α)
    (journal : Journal α) : Prop where
  sound : pool.Sound
  same : pool.limits = limits
  stock : ∀ length, limits.Shelved length → (pool.shelves length).length =
    journal.calls.foldl (Call.stock limits.maxPerBucket length) (shelves length).length
  untouched : ∀ length, (∀ call ∈ journal.calls, call.length? ≠ some length) →
    pool.shelves length = shelves length
  rented : Call.RentsAnew journal.calls → ∀ minLen granted, .rented minLen granted ∈ journal →
    minLen ≤ limits.maxBufferLen → ∃ slots, granted = some slots ∧ limits.Shelved slots.length ∧
      (shelves slots.length = [] ∨ ∃ older, shelves slots.length = slots :: older)
  empty : Call.RentsAnew journal.calls → ∀ length, .noted (.bucketEmpty length) ∈ journal →
    limits.Shelved length ∧ shelves length = [] ∧ ∃ call ∈ journal.calls, call.length? = some length

namespace Replays

variable {limits : BucketLimits} {shelves : Shelves α} {pool next : BucketPool α}
  {past events : Journal α}

theorem start (sound : pool.Sound) : Replays pool.limits pool.shelves pool [] :=
  ⟨sound, rfl, fun _ _ => rfl, fun _ _ => rfl, fun _ _ _ => nofun, fun _ _ => nofun⟩

theorem still (replays : Replays limits shelves pool past) {event : Event α}
    (call : event.call? = none) (made : ∀ length, event ≠ .noted (.bucketEmpty length)) :
    Replays limits shelves pool (past ++ [event]) := by
  have all : (past ++ [event]).calls = past.calls := by simp [call]
  constructor
  · exact replays.sound
  · exact replays.same
  · rw [all]
    exact replays.stock
  · rw [all]
    exact replays.untouched
  · rw [all]
    intro anew minLen granted lent
    rcases List.mem_append.mp lent with old | new
    · exact replays.rented anew minLen granted old
    · cases List.mem_singleton.mp new
      cases call
  · rw [all]
    intro anew length note
    rcases List.mem_append.mp note with old | new
    · exact replays.empty anew length old
    · exact absurd (List.mem_singleton.mp new).symm (made length)

variable [Element α]

theorem serve (replays : Replays limits shelves pool past) {request : Request α}
    (serves : Shelves.Serves limits pool.shelves request events next.shelves)
    (sound : next.Sound) (same : next.limits = limits) :
    Replays limits shelves next (past ++ events) := by
  have fit : pool.shelves.Fit limits := replays.same ▸ replays.sound.fit
  -- what is lent anew now was not touched before
  have before (anew : Call.RentsAnew (past ++ events).calls) {minLen length : Nat}
      (lent : .rent minLen (some length) ∈ events.calls) : pool.shelves length = shelves length := by
    rw [Journal.calls_append] at anew
    have apart := (List.pairwise_append.mp anew).2.2
    exact replays.untouched length fun call member => apart call member _ lent minLen length rfl
  have earlier (anew : Call.RentsAnew (past ++ events).calls) : Call.RentsAnew past.calls := by
    rw [Journal.calls_append] at anew
    exact (List.pairwise_append.mp anew).1
  constructor
  · exact sound
  · exact same
  · intro length shelved
    rw [Journal.calls_append, List.foldl_append, ← replays.stock length shelved]
    exact serves.stock fit shelved
  · intro length unused
    rw [Journal.calls_append, List.forall_mem_append] at unused
    exact (serves.untouched fit unused.2).trans (replays.untouched length unused.1)
  · intro anew minLen granted lent within
    rcases List.mem_append.mp lent with old | new
    · exact replays.rented (earlier anew) minLen granted old within
    · obtain ⟨slots, rfl, shelved, call, lay⟩ := serves.lends fit new within
      rw [before anew call] at lay
      exact ⟨slots, rfl, shelved, lay⟩
  · intro anew length made
    rw [Journal.calls_append]
    rcases List.mem_append.mp made with old | new
    · obtain ⟨shelved, none, call, member, about⟩ := replays.empty (earlier anew) length old
      exact ⟨shelved, none, call, List.mem_append_left _ member, about⟩
    · obtain ⟨shelved, none, minLen, call⟩ := serves.empty new
      rw [before anew call] at none
      exact ⟨shelved, none, _, List.mem_append_right _ call, rfl⟩

theorem lend (replays : Replays limits shelves pool past) {minLen : Nat} {slots : List α}
    {notes : List Note} (reply : pool.rent minLen = ⟨.ok slots, next, notes⟩) :
    Replays limits shelves next (past ++ .rented minLen (some slots) :: notes.map .noted) := by
  obtain ⟨_, _, _, same, kept, size, serves⟩ := rent_serves replays.sound minLen
  cases reply.symm.trans same
  have sound := replays.sound.of_serves kept size serves
  rw [replays.same] at kept serves
  exact replays.serve serves sound kept

theorem take (replays : Replays limits shelves pool past) {slots : List α} {clear : Bool}
    {answer : Option RentalError} {notes : List Note}
    (reply : pool.takeBack slots clear = ⟨.ok answer, next, notes⟩) :
    Replays limits shelves next
      (past ++ .returned slots clear (answer.elim .accepted .refused) :: notes.map .noted) := by
  obtain ⟨_, _, _, same, kept, size, serves⟩ := takeBack_serves replays.sound slots clear
  cases reply.symm.trans same
  have sound := replays.sound.of_serves kept size serves
  rw [replays.same] at kept serves
  exact replays.serve serves sound kept

end Replays

variable [Element α]

/-- Populations and buffers reach the pool by its requests only. -/
theorem upholds_replays (limits : BucketLimits) (shelves : Shelves α) (clear : Bool) :
    (asPool α).Upholds clear (Replays limits shelves) := by
  constructor
  · intro minLen
    apply Pool.ensures_rentChecked_of_lends
    intro pool past replays
    obtain ⟨slots, next, notes, reply, _, _, size, _⟩ := replays.sound.rent_abides minLen
    have noted : Event.call? (α := α) (.noted (.rented minLen slots.length)) = none := rfl
    refine ⟨slots, next, notes, reply, size ▸ pool.limits.le_grantLen minLen, ?_⟩
    simpa using (replays.lend reply).still noted nofun
  · intro slots
    apply Pool.ensures_giveBack_of_answers
    intro pool past replays
    obtain ⟨answer, next, notes, reply, _⟩ := replays.sound.takeBack_abides slots clear
    refine ⟨answer, next, notes, reply, ?_, ?_⟩
    · rintro rfl
      exact replays.take reply
    · rintro error rfl
      have noted : Event.call? (α := α) (.noted (.returnRejected error)) = none := rfl
      simpa using (replays.take reply).still noted nofun
  · intro pool past event aside replays
    apply replays.still
    · cases event with
      | rented | returned => cases aside
      | noted | pulled | cloned | measured | offered => rfl
    · rintro length rfl
      cases aside

theorem asPool_steady (limits : BucketLimits) :
    (asPool α).Steady limits.grantLen fun pool => pool.Sound ∧ pool.limits = limits := by
  constructor
  · exact limits.le_grantLen
  · rintro minLen pool ⟨sound, rfl⟩
    obtain ⟨slots, next, notes, reply, kept, soundNext, length, _⟩ := sound.rent_abides minLen
    exact ⟨slots, next, notes, reply, length, soundNext, kept⟩
  · rintro slots clear pool ⟨sound, rfl⟩
    obtain ⟨answer, next, notes, reply, kept, soundNext, _⟩ := sound.takeBack_abides slots clear
    exact ⟨answer, next, notes, reply, soundNext, kept⟩

omit [Element α] in
theorem Sound.map_length_buckets {pool other : BucketPool α} (sound : pool.Sound)
    (sound' : other.Sound) (same : pool.limits = other.limits)
    (stocks : ∀ length, other.limits.Shelved length →
      (pool.shelves length).length = (other.shelves length).length) :
    pool.buckets.map List.length = other.buckets.map List.length := by
  have places := sound.length_buckets sound' same
  rw [buckets_eq pool, buckets_eq other, places, List.map_map, List.map_map]
  apply List.map_congr_left
  intro index member
  apply stocks
  obtain ⟨power, least⟩ := bucketLen_iff.mpr ⟨index, rfl⟩
  exact ⟨power, least, (sound'.places index).mp (List.mem_range.mp member)⟩

end BucketPool

namespace Settings

variable [Element α] (settings : Settings ι) (method : Method α)

theorem buildAndGiveUp_keeps {pools : ι → Pool σ α} {inv : σ → Journal α → Prop}
    (upholds : ∀ handle clear, (pools handle).Upholds clear inv) :
    Keeps inv (settings.buildAndGiveUp pools method) :=
  ensures_bind (build_keeps (upholds _ _) method) fun _ => Buffer.giveUp_keeps (upholds _ _)

variable {settings method} in
/-- What a round makes of a bucket pool follows from its calls. -/
theorem buildAndGiveUp_replays {pools : ι → Pool (BucketPool α) α}
    (bucket : ∀ handle, pools handle = BucketPool.asPool α) {pool : BucketPool α}
    (sound : pool.Sound) : BucketPool.Replays pool.limits pool.shelves
      ((settings.buildAndGiveUp pools method).run pool).state
      ((settings.buildAndGiveUp pools method).run pool).journal := by
  have upholds (handle : ι) (clear : Bool) : (pools handle).Upholds clear
      (BucketPool.Replays pool.limits pool.shelves) := by
    rw [bucket]
    exact BucketPool.upholds_replays _ _ clear
  exact (settings.buildAndGiveUp_keeps method upholds).ended pool [] (.start sound)

/-- Once a population was made and its buffer dropped, the same population needs nothing new: every
request within the limit is served with a buffer that lies idle, the newest of its length, and when
all is dropped again every bucket holds as many buffers as before. It does not matter whether the
population succeeds. -/
theorem repeated_round_reuses (limits : BucketLimits) (places : 0 < limits.maxPerBucket)
    (requests : List (Request α)) :
    let pools : ι → Pool (BucketPool α) α := fun _ => BucketPool.asPool α
    let reached := ((BucketPool.asPool α).serveAll requests (.empty limits)).1
    let first := (settings.buildAndGiveUp pools method).run reached
    let second := (settings.buildAndGiveUp pools method).run first.state
    (∀ minLen granted, .rented minLen granted ∈ second.journal → minLen ≤ limits.maxBufferLen →
        ∃ idle older, granted = some idle ∧ first.state.shelves idle.length = idle :: older) ∧
      (∀ length, .noted (.bucketEmpty length) ∉ second.journal) ∧
      second.state.buckets.map List.length = first.state.buckets.map List.length := by
  intro pools reached first second
  obtain ⟨same, sound⟩ := BucketPool.serveAll_sound (α := α) limits requests
  have steady : (pools settings.handle).Steady _ _ := BucketPool.asPool_steady limits
  obtain ⟨calls, round, called⟩ := buildAndGiveUp_calls steady method
  have before : BucketPool.Replays limits reached.shelves first.state first.journal :=
    same ▸ buildAndGiveUp_replays (fun _ => rfl) sound
  have after : BucketPool.Replays limits first.state.shelves second.state second.journal :=
    before.same ▸ buildAndGiveUp_replays (fun _ => rfl) before.sound
  have early : first.journal.calls = calls := called reached ⟨sound, same⟩
  have late : second.journal.calls = calls := called first.state ⟨before.sound, before.same⟩
  have bounded (length : Nat) : (reached.shelves length).length ≤ limits.maxPerBucket := by
    have fits := sound.fit.bounded length
    rwa [same] at fits
  have stocked (length : Nat) (shelved : limits.Shelved length) :
      (first.state.shelves length).length = calls.foldl (Call.stock limits.maxPerBucket length)
        (reached.shelves length).length := by
    rw [before.stock length shelved, early]
  have reserve (length : Nat) (shelved : limits.Shelved length)
      (used : ∃ call ∈ calls, call.length? = some length) : first.state.shelves length ≠ [] := by
    rw [← List.length_pos_iff, stocked length shelved]
    exact round.reserve places used (bounded length)
  have anew : Call.RentsAnew second.journal.calls := late ▸ round.rentsAnew
  refine ⟨?_, ?_, ?_⟩
  · intro minLen granted lent within
    obtain ⟨idle, rfl, shelved, lay⟩ := after.rented anew minLen granted lent within
    have call : .rent minLen (some idle.length) ∈ calls :=
      late ▸ List.mem_filterMap.mpr ⟨_, lent, rfl⟩
    rcases lay with none | ⟨older, newest⟩
    · exact absurd none (reserve _ shelved ⟨_, call, rfl⟩)
    · exact ⟨idle, older, rfl, newest⟩
  · intro length made
    obtain ⟨shelved, none, used⟩ := after.empty anew length made
    exact reserve length shelved (late ▸ used) none
  · apply after.sound.map_length_buckets before.sound (after.same.trans before.same.symm)
    intro length shelved
    rw [before.same] at shelved
    rw [after.stock length shelved, late, stocked length shelved]
    exact round.stock_again places length (bounded length)

/-- A population outgrows a buffer of 16 slots and then fails; the second time both buffers that
it needs lie there. -/
theorem repeated_round_reuses_failing :
    let pools : Unit → Pool (BucketPool UInt8) UInt8 := fun _ => BucketPool.asPool UInt8
    let method : Method UInt8 :=
      .tryCollect (List.replicate 17 (.item (.ok 9)) ++ [.item (.error "broken")])
    let round := ((⟨.auto, 1, ()⟩ : Settings Unit).buildAndGiveUp pools method).run
    let first := round ((BucketPool.asPool UInt8).serveAll [.rent 40] (.empty ⟨32, 2, by decide⟩)).1
    let second := round first.state
    second.exit = .failed (.copyFailed "broken") ∧
      second.journal.calls =
        [.rent 1 (some 16), .rent 32 (some 32), .hand 16 false, .hand 32 false] ∧
      first.state.buckets.map List.length = [1, 1] ∧
      (∀ length, .noted (.bucketEmpty length) ∉ second.journal) ∧
      second.state.buckets.map List.length = first.state.buckets.map List.length := by
  refine ⟨by decide +kernel, by decide +kernel, by decide +kernel, ?_⟩
  exact (repeated_round_reuses (⟨.auto, 1, ()⟩ : Settings Unit) _ ⟨32, 2, by decide⟩ (by decide)
    [.rent 40]).2

end Settings

end BufferRental
