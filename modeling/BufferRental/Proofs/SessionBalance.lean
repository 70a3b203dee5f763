import BufferRental.Element.Kind
import BufferRental.Pool.Planned
import BufferRental.Proofs.SessionCustody

/-! The books over whole runs. Every step balances: what live buffers own and what is lent makes up
what is handed back and what live buffers own after it. So every run balances, and a buffer that
was lent is handed back once, in the call that lent it or when the buffer that owns it ends. -/
namespace BufferRental

def Journal.about (handle : Handle) (journal : List (Handle × Event α)) : Journal α :=
  (journal.filter (·.1 = handle)).map Prod.snd

namespace Journal

@[simp] theorem about_nil (handle : Handle) : about handle ([] : List (Handle × Event α)) = [] := rfl

@[simp] theorem about_append (handle : Handle) (first second : List (Handle × Event α)) :
    about handle (first ++ second) = about handle first ++ about handle second := by
  simp [about]

theorem mem_about {handle : Handle} {event : Event α} {journal : List (Handle × Event α)} :
    event ∈ about handle journal ↔ (handle, event) ∈ journal := by simp [about]

theorem about_call (handle owner : Handle) (journal : Journal α) :
    about handle (journal.map (owner, ·)) = if owner = handle then journal else [] := by
  by_cases same : owner = handle <;> simp [about, List.filter_map, Function.comp_def, same]

end Journal

theorem Turn.events_of_call (answer : Answer α) (owner : Handle) (journal : Journal α)
    (session : Session σ α) :
    Turn.events ⟨answer, journal.map (owner, ·), session⟩ = journal := by
  simp [Turn.events, Function.comp_def]

def Buffer.owed (handle : Handle) (buffer : Buffer Handle α) : List Nat :=
  if buffer.handle = handle then buffer.held else []

namespace Session

variable {before : Session σ α} {step : Step α} {turn : Turn σ α}

def held (session : Session σ α) (slot : String) : List (List α) :=
  ((session.buffer? slot).bind Buffer.slots).toList

/-- All that live buffers owe to the pool of a handle. -/
def debts (handle : Handle) (named : List (String × Buffer Handle α)) : List Nat :=
  named.flatMap fun entry => entry.2.owed handle

/-- A buffer that something was rented for owes its capacity. -/
theorem Sound.capacities (sound : before.Sound) (handle : Handle) :
    (before.outstanding handle).map Buffer.capacity = debts handle before.buffers := by
  have rented := sound.rented
  unfold outstanding debts
  generalize before.buffers = named at rented ⊢
  induction named with
  | nil => rfl
  | cons entry rest ih =>
    have later := ih fun other member => rented other (List.mem_cons_of_mem _ member)
    have first := rented entry List.mem_cons_self
    rw [List.flatMap_cons, ← later, List.map_cons, List.filter_cons]
    by_cases owner : entry.2.handle = handle
    · have owed : entry.2.owed handle =
          if 0 < entry.2.capacity then [entry.2.capacity] else [] := by
        rw [Buffer.owed, if_pos owner, Buffer.held_of_rented first]
      rw [owed]
      by_cases room : 0 < entry.2.capacity <;> simp [owner, room]
    · simp [Buffer.owed, owner]

theorem start_sound (world : σ) : (start world : Session σ α).Sound :=
  ⟨List.nodup_nil, nofun⟩

theorem debts_perm (handle : Handle) {first second : List (String × Buffer Handle α)}
    (same : first.Perm second) : (debts handle first).Perm (debts handle second) :=
  same.flatMap_right _

variable {session : Session σ α} {slot : String} {buffer : Buffer Handle α}

@[simp] theorem buffer?_putBuffer (session : Session σ α) (slot : String)
    (buffer : Buffer Handle α) : (session.putBuffer slot buffer).buffer? slot = some buffer := by
  simp [putBuffer, buffer?]

@[simp] theorem buffer?_dropBuffer (session : Session σ α) (slot : String) :
    (session.dropBuffer slot).buffer? slot = none := lookup_without_self session.buffers slot

theorem buffer?_putBuffer_other (buffer : Buffer Handle α) {other : String} (apart : other ≠ slot) :
    (session.putBuffer slot buffer).buffer? other = session.buffer? other := by
  have different : (other == slot) = false := beq_false_of_ne apart
  simp only [putBuffer, buffer?, List.lookup_cons, different]
  exact lookup_without_other session.buffers apart

theorem buffer?_dropBuffer_other {other : String} (apart : other ≠ slot) :
    (session.dropBuffer slot).buffer? other = session.buffer? other :=
  lookup_without_other session.buffers apart

theorem buffer?_of_isFree (free : session.isFree slot = true) : session.buffer? slot = none := by
  simpa using (Bool.and_eq_true_iff.mp free).1

namespace Move

theorem sound (move : Move before step turn) (sound : before.Sound) : turn.session.Sound := by
  have fewer (slot : String) : (without before.buffers slot).map Prod.fst |>.Nodup :=
    sound.names.sublist (List.filter_sublist.map _)
  have fresh (slot : String) : slot ∉ (without before.buffers slot).map Prod.fst := by
    intro member
    obtain ⟨entry, kept, same⟩ := List.mem_map.mp member
    simp [without, same] at kept
  have rest (slot : String) : ∀ entry ∈ without before.buffers slot, entry.2.slots ≠ some [] :=
    fun entry kept => sound.rented entry (List.mem_filter.mp kept).1
  cases move with
  | look | refuse => exact sound
  | fail => exact ⟨sound.names, sound.rented⟩
  | release _ slot => exact ⟨fewer slot, rest slot⟩
  | gain slot _ buffer _ _ _ rented =>
    refine ⟨List.nodup_cons.mpr ⟨fresh slot, fewer slot⟩, ?_⟩
    intro entry member
    rcases List.mem_cons.mp member with rfl | kept
    · exact rented
    · exact rest slot entry kept
  | edit slot _ buffer edited _ found _ lengths =>
    refine ⟨List.nodup_cons.mpr ⟨fresh slot, fewer slot⟩, ?_⟩
    intro entry member
    rcases List.mem_cons.mp member with rfl | kept
    · have own : buffer.slots ≠ some [] :=
        sound.rented _ ((perm_without sound.names found).mem_iff.mpr List.mem_cons_self)
      exact Buffer.rented_of_lengths lengths own
    · exact rest slot entry kept

/-- What was owed before and what is lent is handed back or owed after. -/
theorem balance (move : Move before step turn) (sound : before.Sound) (handle : Handle) :
    (debts handle before.buffers ++ (Journal.about handle turn.journal).lent.map List.length).Perm
      ((Journal.about handle turn.journal).handed.map List.length ++
        debts handle turn.session.buffers) := by
  cases move with
  | look | refuse => simp [reply, misuse]
  | edit slot _ buffer edited _ found owner lengths =>
    have same : edited.owed handle = buffer.owed handle := by
      simp only [Buffer.owed, Buffer.held, owner, lengths]
    have parted := debts_perm handle (perm_without sound.names found)
    simpa [reply, putBuffer, debts, same] using parted
  | gain slot _ buffer journal _ free _ owes =>
    have absent : without before.buffers slot = before.buffers :=
      without_of_absent (buffer?_of_isFree free)
    have owed : debts handle (putBuffer before slot buffer).buffers =
        buffer.owed handle ++ debts handle before.buffers := by
      simp [putBuffer, debts, absent]
    show List.Perm _ (_ ++ debts handle (putBuffer before slot buffer).buffers)
    rw [owed, Journal.about_call]
    by_cases owner : buffer.handle = handle
    · simp only [owner, if_true, Buffer.owed, owes.settled]
      rw [← List.append_assoc (journal.handed.map List.length)]
      exact List.perm_append_comm
    · simp [owner, Buffer.owed]
  | fail slot _ _ journal _ owner _ owes =>
    rw [Journal.about_call]
    by_cases same : owner = handle
    · simp only [same, if_true, owes.settled, List.append_nil]
      exact List.perm_append_comm
    · simp [same]
  | release _ slot buffer _ journal _ _ found hands =>
    have parted := debts_perm handle (perm_without sound.names found)
    have given : journal.handed.map List.length = buffer.held := by
      rw [hands.2]
      cases slots : buffer.slots <;> simp [Buffer.held, slots]
    rw [Journal.about_call]
    by_cases owner : buffer.handle = handle
    · simp only [owner, if_true, hands.1, given, List.map_nil, List.append_nil]
      simpa [debts, Buffer.owed, owner, dropBuffer] using parted
    · simpa [owner, debts, Buffer.owed, dropBuffer] using parted

end Move

def place (session : Session σ α) (slot : String) : Option (Handle × Option Nat) :=
  (session.buffer? slot).map fun buffer => (buffer.handle, buffer.slots.map List.length)

structure Accounts (before : Session σ α) (step : Step α) (turn : Turn σ α) : Prop where
  /-- A call that builds a buffer is lent longer and longer ones. They go back within the call, in
  the order in which they came, but for the last one if the new buffer owns it; there is no new
  buffer if the call fails. -/
  builds : ∀ slot construction, step = .build slot construction → before.isFree slot = true →
    (turn.events.lent.map List.length).Pairwise (· < ·) ∧
      turn.events.lent.map List.length =
        turn.events.handed.map List.length ++ (turn.session.held slot).map List.length ∧
      ((∀ description, turn.answer ≠ .description description) → turn.session.buffer? slot = none)
  /-- A buffer that ends hands back its slots, nothing else, and is gone. -/
  ends : ∀ slot, step.ended? = some slot →
    turn.events.OnlyHands (before.held slot) ∧ turn.session.buffer? slot = none
  /-- No other step is seen by a pool. -/
  quiet : (∀ slot construction, step = .build slot construction → before.isFree slot = false) →
    step.ended? = none → turn.journal = []
  /-- A buffer stays with its owner until a step ends it. -/
  stays : ∀ slot buffer, before.buffer? slot = some buffer → step.ended? ≠ some slot →
    turn.session.place slot = before.place slot

theorem Move.accounts (move : Move before step turn) : before.Accounts step turn := by
  cases move with
  | look step answer looks =>
    refine ⟨?_, ?_, fun _ _ => rfl, fun _ _ _ _ => rfl⟩
    · rintro slot construction rfl
      cases looks
    · intro slot ends
      cases step <;> simp_all [Step.ended?, Step.slot?]
  | refuse step misuse unfit =>
    refine ⟨?_, ?_, fun _ _ => rfl, fun _ _ _ _ => rfl⟩
    · rintro slot construction rfl free
      exact absurd free (Bool.eq_false_iff.mp unfit)
    · intro slot ends
      have absent : before.buffer? slot = none := by
        cases step <;> simp_all [Step.ended?, Step.slot?]
      exact ⟨⟨rfl, by simp [held, absent, Session.misuse, reply, Turn.events]⟩, absent⟩
  | edit slot operation buffer edited answer found owner lengths =>
    refine ⟨nofun, nofun, fun _ _ => rfl, ?_⟩
    intro name other there _
    by_cases same : name = slot
    · subst same
      simp [reply, place, found, owner, lengths]
    · simp only [reply, place, buffer?_putBuffer_other _ same]
  | gain slot construction buffer journal world free rented owes =>
    refine ⟨?_, nofun, ?_, ?_⟩
    · rintro _ _ ⟨⟩ _
      rw [Turn.events_of_call]
      refine ⟨owes.rising, ?_, fun failed => absurd rfl (failed _)⟩
      rw [owes.settled]
      cases slots : buffer.slots <;> simp [held, Buffer.held, slots]
    · intro taken _
      rw [taken slot construction rfl] at free
      cases free
    · intro name other there _
      have apart : name ≠ slot := by
        rintro rfl
        rw [buffer?_of_isFree free] at there
        cases there
      simp only [place, buffer?_putBuffer_other _ apart]
      rfl
  | fail slot construction answer journal world handle free owes =>
    refine ⟨?_, nofun, ?_, fun _ _ _ _ => rfl⟩
    · rintro _ _ ⟨⟩ _
      have absent : Session.buffer? { before with world } slot = none := buffer?_of_isFree free
      rw [Turn.events_of_call]
      exact ⟨owes.rising, by simpa [held, absent] using owes.settled, fun _ => absent⟩
    · intro taken _
      rw [taken slot construction rfl] at free
      cases free
  | release step slot buffer answer journal world ends found hands =>
    refine ⟨?_, ?_, ?_, ?_⟩
    · rintro _ _ rfl
      cases ends
    · intro name ended
      have same : slot = name := Option.some.inj (ends.symm.trans ended)
      subst same
      rw [Turn.events_of_call]
      exact ⟨by simpa [held, found] using hands, buffer?_dropBuffer before slot⟩
    · intro _ goesOn
      rw [ends] at goesOn
      cases goesOn
    · intro name other there goesOn
      have apart : name ≠ slot := fun same => goesOn (same ▸ ends)
      have kept : (before.dropBuffer slot).buffer? name = before.buffer? name :=
        buffer?_dropBuffer_other apart
      exact congrArg (Option.map _) kept

/-- A run is a chain of moves; what each of them keeps is kept by all. -/
inductive Path : Session σ α → List (Step α) → List (Handle × Event α) → Session σ α → Prop where
  | stop (session : Session σ α) : Path session [] [] session
  | move {session last : Session σ α} {step : Step α} {turn : Turn σ α} {steps : List (Step α)}
      {journal : List (Handle × Event α)} (moved : Move session step turn)
      (rest : Path turn.session steps journal last) :
      Path session (step :: steps) (turn.journal ++ journal) last

namespace Path

variable {last : Session σ α} {steps : List (Step α)} {journal : List (Handle × Event α)}

theorem sound (path : Path session steps journal last) (sound : session.Sound) : last.Sound := by
  induction path with
  | stop => exact sound
  | move moved _ ih => exact ih (moved.sound sound)

/-- The law of one step, carried through a run. -/
theorem balance (path : Path session steps journal last) (sound : session.Sound)
    (handle : Handle) :
    (debts handle session.buffers ++ (Journal.about handle journal).lent.map List.length).Perm
      ((Journal.about handle journal).handed.map List.length ++ debts handle last.buffers) := by
  induction path with
  | stop session => simp
  | @move session last _ turn _ journal moved _ ih =>
    have first := moved.balance sound handle
    have later := ih (moved.sound sound)
    simp only [Journal.about_append, Journal.lent_append, Journal.handed_append, List.map_append]
    -- what is owed in the middle leaves one law and enters the other
    rw [← List.append_assoc, List.append_assoc (List.map _ _)]
    refine (first.append_right _).trans ?_
    rw [List.append_assoc]
    exact later.append_left _

/-- As long as no step ends it, a buffer stays with its owner. -/
theorem stays (path : Path session steps journal last) (found : session.buffer? slot = some buffer)
    (goesOn : ∀ step ∈ steps, step.ended? ≠ some slot) : last.place slot = session.place slot := by
  induction path generalizing buffer with
  | stop => rfl
  | @move session last step turn _ _ moved _ ih =>
    have kept := moved.accounts.stays slot buffer found (goesOn step List.mem_cons_self)
    obtain ⟨next, there⟩ : ∃ next, turn.session.buffer? slot = some next := by
      simp only [place, found, Option.map_some, Option.map_eq_some_iff] at kept
      exact ⟨_, kept.choose_spec.1⟩
    rw [← kept]
    exact ih there fun other member => goesOn other (List.mem_cons_of_mem _ member)

end Path

/-- Plays steps but not the end; gives the session after them and the journal of all of them. -/
def follow [Element α] (pools : Handle → Pool σ α) (session : Session σ α) :
    List (Step α) → Session σ α × List (Handle × Event α)
  | [] => (session, [])
  | step :: rest =>
    let turn := session.step pools step
    let (last, journal) := follow pools turn.session rest
    (last, turn.journal ++ journal)

theorem follow_path [Element α] {pools : Handle → Pool σ α} {steps : List (Step α)}
    (session : Session σ α) (library : ∀ step ∈ steps, step.isRaw = false) :
    Path session steps (session.follow pools steps).2 (session.follow pools steps).1 := by
  induction steps generalizing session with
  | nil => exact .stop session
  | cons step rest ih =>
    refine .move (step_move step (library step List.mem_cons_self)) (ih _ ?_)
    exact fun other member => library other (List.mem_cons_of_mem _ member)

theorem play_journal [Element α] (pools : Handle → Pool σ α) (session : Session σ α)
    (steps : List (Step α)) : (session.play pools steps).flatMap Turn.journal =
      (session.follow pools steps).2 ++ ((session.follow pools steps).1.close pools).journal := by
  induction steps generalizing session with
  | nil => simp [play, follow]
  | cons step rest ih => simp [play, follow, ih]

/-- Closing hands back just what the live buffers own, whichever of them meets a panic. -/
theorem giveUpAll_hands (pools : Handle → Pool σ α) (handle : Handle)
    (buffers : List (Buffer Handle α)) (world : σ) :
    (Journal.about handle (giveUpAll pools buffers world).2.1).lent = [] ∧
      (Journal.about handle (giveUpAll pools buffers world).2.1).handed.map List.length =
        buffers.flatMap (Buffer.owed handle) := by
  induction buffers generalizing world with
  | nil => exact ⟨rfl, rfl⟩
  | cons buffer rest ih =>
    have first := (buffer.giveUp_onlyHands pools).onlyHands world
    obtain ⟨noneLent, handed⟩ := ih ((buffer.giveUp pools).run world).state
    simp only [giveUpAll, Journal.about_append, Journal.about_call, Journal.lent_append,
      Journal.handed_append, noneLent, List.map_append, handed, List.flatMap_cons, List.append_nil]
    by_cases owner : buffer.handle = handle
    · refine ⟨by simpa [owner] using first.1, ?_⟩
      congr 1
      simp only [owner, if_true, first.2, Buffer.owed, Buffer.held]
      cases buffer.slots <;> rfl
    · simp [owner, Buffer.owed]

theorem close_hands (pools : Handle → Pool σ α) (handle : Handle) (session : Session σ α) :
    (Journal.about handle (session.close pools).journal).lent = [] ∧
      ((Journal.about handle (session.close pools).journal).handed.map List.length).Perm
        (debts handle session.buffers) := by
  obtain ⟨noneLent, handed⟩ := giveUpAll_hands pools handle
    ((session.buffers.mergeSort fun a b => a.1 ≤ b.1).map Prod.snd) session.world
  refine ⟨noneLent, ?_⟩
  have owed := debts_perm handle (List.mergeSort_perm session.buffers fun a b => a.1 ≤ b.1)
  show List.Perm (List.map _ (Journal.handed (Journal.about handle (giveUpAll ..).2.1))) _
  rw [handed]
  simpa [debts, List.flatMap_map] using owed

/-- At every moment of every run the buffers that were lent are those that were handed back and
those that live buffers own, each once. The next step accounts for every name; a buffer stays with
its owner until it is ended; and when the session is closed, all that was lent is back. -/
theorem lent_buffers_return_once [Element α] (pools : Handle → Pool σ α) (world : σ)
    (steps : List (Step α)) (library : ∀ step ∈ steps, step.isRaw = false) :
    let last := ((start world).follow pools steps).1
    let journal := ((start world).follow pools steps).2
    let whole := ((start world).play pools steps).flatMap Turn.journal
    (∀ handle,
      ((Journal.about handle journal).lent.map List.length).Perm
          ((Journal.about handle journal).handed.map List.length ++
            (last.outstanding handle).map Buffer.capacity) ∧
        (Journal.about handle journal).lent.length =
          (Journal.about handle journal).returns + (last.outstanding handle).length ∧
        ((Journal.about handle whole).lent.map List.length).Perm
          ((Journal.about handle whole).handed.map List.length)) ∧
      (∀ next : Step α, next.isRaw = false → last.Accounts next (last.step pools next)) ∧
      ∀ slot buffer later, last.buffer? slot = some buffer → (∀ step ∈ later, step.isRaw = false) →
        (∀ step ∈ later, step.ended? ≠ some slot) →
        (last.follow pools later).1.place slot = last.place slot := by
  intro last journal whole
  have path : Path (start world) steps journal last := follow_path _ library
  have sound : last.Sound := path.sound (start_sound world)
  refine ⟨fun handle => ?_, fun next raw => (step_move next raw).accounts,
    fun slot buffer later found raw => (follow_path last raw).stays found⟩
  have balanced : ((Journal.about handle journal).lent.map List.length).Perm
      ((Journal.about handle journal).handed.map List.length ++ debts handle last.buffers) :=
    path.balance (start_sound world) handle
  refine ⟨?_, ?_, ?_⟩
  · rw [sound.capacities]
    exact balanced
  · have counted := balanced.length_eq
    rw [← sound.capacities] at counted
    simpa [Journal.returns_eq_length_handed] using counted
  · obtain ⟨noneLent, handed⟩ := close_hands pools handle last
    have played : whole = journal ++ (last.close pools).journal := play_journal pools _ steps
    rw [played, Journal.about_append, Journal.lent_append, Journal.handed_append, noneLent,
      List.append_nil, List.map_append]
    exact balanced.trans (handed.symm.append_left _)

/-- One buffer outgrows two others, and the pool panics as the second of them goes back; a source
fails; and one buffer lives on. -/
def troubledSteps : List (Step UInt8) :=
  [.build "a" (.populate [.suggestedCapacity 2, .pool .own] (.collect (List.replicate 5 (.item 1)))),
    .build "b" (.populate [.pool .own] (.tryCollect [.item (.ok 1), .item (.error "broken")])),
    .build "c" (.populate [.pool .own] (.withCount 3)), .view "c" .reverse]

theorem lent_buffers_return_once_troubled :
    let pools : Handle → Pool (PlannedPool UInt8) UInt8 := fun _ => PlannedPool.asPool UInt8
    let run := (start (.start ⟨[], 4096, 7, [], [1], [0]⟩)).follow pools troubledSteps
    (∀ step ∈ troubledSteps, step.isRaw = false) ∧
      (Journal.about .own run.2).lent.map List.length = [2, 4, 8, 4, 3] ∧
      (Journal.about .own run.2).handed.map List.length = [2, 4, 8, 4] ∧
      (Journal.about .own run.2).lent.length =
        (Journal.about .own run.2).returns + (run.1.outstanding .own).length :=
  ⟨by decide, by decide, by decide,
    ((lent_buffers_return_once _ _ troubledSteps (by decide)).1 .own).2.1⟩

end Session

end BufferRental
