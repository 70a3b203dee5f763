import BufferRental.Proofs.Clearing
import Mathlib.Order.Bounds.Basic

/-! Which buffers a bucket pool refuses. The lengths that it can lend are found by rounding a
request, and the lengths that it takes by looking for a bucket; the two are the same. So it never
refuses a buffer that it lent, and a caller who goes through populations and buffers never meets a
refusal, whatever others do to the pool. -/
namespace BufferRental

open Element Act

namespace BucketLimits

def grantLen (limits : BucketLimits) (minLen : Nat) : Nat :=
  if limits.maxBufferLen < minLen then minLen else BucketPool.servedLen minLen

/-- The lengths that are kept, and those beyond the limit, which are lent but not kept. -/
def Lends (limits : BucketLimits) (length : Nat) : Prop :=
  limits.Shelved length ∨ limits.maxBufferLen < length

variable {limits : BucketLimits} {length minLen : Nat}

theorem grantLen_of_beyond (beyond : limits.maxBufferLen < minLen) :
    limits.grantLen minLen = minLen := if_pos beyond

theorem grantLen_of_within (within : minLen ≤ limits.maxBufferLen) :
    IsLeast (sufficientLens minLen) (limits.grantLen minLen) := by
  rw [grantLen, if_neg (Nat.not_lt.mpr within)]
  exact BucketPool.servedLen_isLeast minLen

theorem le_grantLen (limits : BucketLimits) (minLen : Nat) : minLen ≤ limits.grantLen minLen := by
  rcases Nat.lt_or_ge limits.maxBufferLen minLen with beyond | within
  · rw [grantLen_of_beyond beyond]
  · exact (grantLen_of_within within).1.2.2

theorem lends_grantLen (limits : BucketLimits) (minLen : Nat) :
    limits.Lends (limits.grantLen minLen) := by
  unfold grantLen
  split
  · rename_i beyond
    exact .inr beyond
  · rename_i within
    exact .inl (BucketPool.limits_rounded limits (Nat.not_lt.mp within))

theorem Lends.positive (lends : limits.Lends length) : 0 < length := by
  rcases lends with shelved | beyond
  · exact Nat.lt_of_lt_of_le (by decide) shelved.least
  · exact Nat.zero_lt_of_lt beyond

/-- A length that can be lent is lent to one who asks for just that. -/
theorem Lends.grantLen (lends : limits.Lends length) : limits.grantLen length = length := by
  rcases lends with shelved | beyond
  · have rounded := grantLen_of_within shelved.most
    have most := rounded.2 ⟨shelved.power, shelved.least, Nat.le_refl length⟩
    exact Nat.le_antisymm most rounded.1.2.2
  · exact grantLen_of_beyond beyond

theorem not_lends (within : length ≤ limits.maxBufferLen) (unkept : ¬ limits.Shelved length) :
    ¬ limits.Lends length := by
  rintro (shelved | beyond)
  · exact unkept shelved
  · exact absurd within (Nat.not_le.mpr beyond)

end BucketLimits

def Event.NoRefusal (event : Event α) : Prop := ∀ error, event ≠ .noted (.returnRejected error)

theorem Event.noRefusal_rented {minLen : Nat} {granted : Option (List α)} :
    (Event.rented minLen granted).NoRefusal := by
  simp [NoRefusal]

theorem Event.noRefusal_returned {slots : List α} {clear : Bool} {verdict : Verdict} :
    (Event.returned slots clear verdict).NoRefusal := by
  simp [NoRefusal]

def Event.Abides (limits : BucketLimits) : Event α → Prop
  | .rented minLen granted => granted.map List.length = some (limits.grantLen minLen)
  | .returned slots _ verdict => limits.Lends slots.length ∧ verdict = .accepted ∨
      ¬ limits.Lends slots.length ∧ verdict = .refused (.foreignBuffer slots.length)
  | event => event.NoRefusal

theorem Event.noRefusal_of_abides {limits : BucketLimits} {notes : List Note}
    (abides : ∀ event ∈ notes.map (Event.noted (α := α)), event.Abides limits) :
    ∀ event ∈ notes.map (Event.noted (α := α)), event.NoRefusal := by
  intro event member
  obtain ⟨note, _, rfl⟩ := List.mem_map.mp member
  exact abides _ member

theorem Shelves.Serves.abides [Element α] {limits : BucketLimits} {shelves next : Shelves α}
    {request : Request α} {events : Journal α} (serves : Serves limits shelves request events next)
    (fit : shelves.Fit limits) : ∀ event ∈ events, event.Abides limits := by
  cases serves with
  | reuse minLen length newest older within rounded idle =>
    have size := fit.lengths length newest (by simp [idle])
    have least := (BucketLimits.grantLen_of_within within).unique rounded
    simp [Event.Abides, size, least]
  | fresh minLen length within rounded idle =>
    have least := (BucketLimits.grantLen_of_within within).unique rounded
    simp [Event.Abides, Event.NoRefusal, least]
  | unpooled minLen beyond =>
    simp [Event.Abides, Event.NoRefusal, BucketLimits.grantLen_of_beyond beyond]
  | keep slots clear shelved | full slots clear shelved =>
    have lends : limits.Lends slots.length := .inl shelved
    simp [Event.Abides, lends]
  | oversize slots clear beyond =>
    have lends : limits.Lends slots.length := .inr beyond
    simp [Event.Abides, Event.NoRefusal, lends]
  | foreign slots clear within unkept =>
    have refused := BucketLimits.not_lends within unkept
    simp [Event.Abides, refused]

namespace BucketPool

variable [Element α] {pool : BucketPool α}

/-- A request for `minLen` slots is answered with a buffer of this length. -/
def Grants (pool : BucketPool α) (minLen length : Nat) : Prop :=
  ∃ slots, (pool.rent minLen).result = .ok slots ∧ slots.length = length

theorem Sound.rent_abides (sound : pool.Sound) (minLen : Nat) :
    ∃ slots next notes, pool.rent minLen = ⟨.ok slots, next, notes⟩ ∧ next.limits = pool.limits ∧
      next.Sound ∧ slots.length = pool.limits.grantLen minLen ∧
      ∀ event ∈ notes.map (Event.noted (α := α)), event.NoRefusal := by
  obtain ⟨slots, next, notes, reply, limits, size, serves⟩ := rent_serves sound minLen
  obtain ⟨granted, silent⟩ := List.forall_mem_cons.mp (serves.abides sound.fit)
  have length : slots.length = pool.limits.grantLen minLen := by
    simpa [Event.Abides] using granted
  exact ⟨slots, next, notes, reply, limits, sound.of_serves limits size serves, length,
    Event.noRefusal_of_abides silent⟩

theorem Sound.takeBack_abides (sound : pool.Sound) (slots : List α) (clear : Bool) :
    ∃ answer next notes, pool.takeBack slots clear = ⟨.ok answer, next, notes⟩ ∧
      next.limits = pool.limits ∧ next.Sound ∧
      (answer = none ↔ pool.limits.Lends slots.length) ∧
      ∀ event ∈ notes.map (Event.noted (α := α)), event.NoRefusal := by
  obtain ⟨answer, next, notes, reply, limits, size, serves⟩ := takeBack_serves sound slots clear
  obtain ⟨verdict, silent⟩ := List.forall_mem_cons.mp (serves.abides sound.fit)
  refine ⟨answer, next, notes, reply, limits, sound.of_serves limits size serves, ?_,
    Event.noRefusal_of_abides silent⟩
  rcases verdict with ⟨lends, accepted⟩ | ⟨unlent, refused⟩
  · cases answer with
    | none => simp [lends]
    | some error => cases accepted
  · cases answer with
    | none => cases refused
    | some error => simp [unlent]

theorem Sound.grants_iff (sound : pool.Sound) {minLen length : Nat} :
    pool.Grants minLen length ↔ pool.limits.grantLen minLen = length := by
  obtain ⟨slots, next, notes, reply, _, _, size, _⟩ := sound.rent_abides minLen
  rw [Grants, reply, ← size]
  constructor
  · rintro ⟨granted, same, rfl⟩
    cases same
    rfl
  · intro same
    exact ⟨slots, rfl, same⟩

/-- The lengths that the pool grants to anyone are those that it can lend. -/
theorem Sound.lends_iff (sound : pool.Sound) {length : Nat} (word : length ≤ maxWord) :
    pool.limits.Lends length ↔
      ∃ minLen, 0 < minLen ∧ minLen ≤ maxWord ∧ pool.Grants minLen length := by
  constructor
  · intro lends
    exact ⟨length, lends.positive, word, sound.grants_iff.mpr lends.grantLen⟩
  · rintro ⟨minLen, _, _, grants⟩
    rw [← sound.grants_iff.mp grants]
    exact pool.limits.lends_grantLen minLen

theorem Sound.takeBack_of_lends (sound : pool.Sound) {slots : List α} (clear : Bool)
    (lends : pool.limits.Lends slots.length) : (pool.takeBack slots clear).result = .ok none := by
  obtain ⟨answer, next, notes, reply, _, _, accepted, _⟩ := sound.takeBack_abides slots clear
  rw [reply, accepted.mpr lends]

theorem Sound.takeBack_of_not_lends (sound : pool.Sound) {slots : List α} (clear : Bool)
    (unlent : ¬ pool.limits.Lends slots.length) :
    pool.takeBack slots clear = ⟨.ok (some (.foreignBuffer slots.length)), pool, []⟩ := by
  have within : ¬ pool.limits.maxBufferLen < slots.length := fun beyond => unlent (.inr beyond)
  have unkept : ¬ pool.limits.Shelved slots.length := fun shelved => unlent (.inl shelved)
  rw [takeBack, if_neg within, bucket?_of_not_shelved sound.places unkept]

theorem serveAll_sound (limits : BucketLimits) (requests : List (Request α)) :
    ((asPool α).serveAll requests (empty limits)).1.limits = limits ∧
      ((asPool α).serveAll requests (empty limits)).1.Sound :=
  (serveAll_serves (empty_sound limits) requests).2

end BucketPool

/-- The pool lent what it can lend, and if only such buffers were handed to it, no caller reports a
refusal. -/
structure Journal.Fair (limits : BucketLimits) (journal : Journal α) : Prop where
  lent : ∀ slots ∈ journal.lent, limits.Lends slots.length
  taken : (∀ slots ∈ journal.handed, limits.Lends slots.length) →
    ∀ event ∈ journal, event.NoRefusal

namespace Journal.Fair

variable {limits : BucketLimits} {past new : Journal α}

theorem nil : Fair limits ([] : Journal α) := ⟨nofun, fun _ => nofun⟩

theorem append (fair : past.Fair limits) (later : new.Fair limits) : Fair limits (past ++ new) := by
  constructor
  · rw [lent_append, List.forall_mem_append]
    exact ⟨fair.lent, later.lent⟩
  · rw [handed_append, List.forall_mem_append, List.forall_mem_append]
    rintro ⟨early, late⟩
    exact ⟨fair.taken early, later.taken late⟩

/-- Nothing is amiss where no refusal is reported. -/
theorem of_noRefusal (lent : ∀ slots ∈ new.lent, limits.Lends slots.length)
    (silent : ∀ event ∈ new, event.NoRefusal) : new.Fair limits := ⟨lent, fun _ => silent⟩

end Journal.Fair

namespace World

def Governed (limits : Handle → BucketLimits) (world : World α) : Prop :=
  ∃ pools, world = ofPools pools ∧ ∀ handle, (pools handle).Sound ∧ (pools handle).limits = limits handle

variable {limits : Handle → BucketLimits} {world : World α}

theorem start_governed (limits : BucketLimits) :
    (start (.bucket (.empty limits)) : World α).Governed fun
      | .own => limits
      | .shared => .standard := by
  refine ⟨startPools limits, rfl, ?_⟩
  intro handle
  cases handle <;> exact ⟨BucketPool.empty_sound _, rfl⟩

theorem Governed.update {pools : Handle → BucketPool α} {next : BucketPool α} {handle : Handle}
    (governed : ∀ handle, (pools handle).Sound ∧ (pools handle).limits = limits handle)
    (sound : next.Sound) (same : next.limits = limits handle) :
    (ofPools (Function.update pools handle next)).Governed limits := by
  refine ⟨_, rfl, fun other => ?_⟩
  by_cases own : other = handle
  · subst own
    rw [Function.update_self]
    exact ⟨sound, same⟩
  · rw [Function.update_of_ne own]
    exact governed other

variable [Element α]

theorem Governed.rent (governed : world.Governed limits) (handle : Handle) (minLen : Nat) :
    ∃ slots next notes, (World.pools α handle).rent minLen world = ⟨.ok slots, next, notes⟩ ∧
      next.Governed limits ∧ slots.length = (limits handle).grantLen minLen ∧
      ∀ event ∈ notes.map (Event.noted (α := α)), event.NoRefusal := by
  obtain ⟨pools, rfl, governed⟩ := governed
  obtain ⟨sound, same⟩ := governed handle
  obtain ⟨slots, next, notes, reply, kept, soundNext, size, silent⟩ := sound.rent_abides minLen
  refine ⟨slots, _, notes, by rw [rent_ofPools, reply],
    Governed.update governed soundNext (kept.trans same), by rw [size, same], silent⟩

theorem Governed.takeBack (governed : world.Governed limits) (handle : Handle) (slots : List α)
    (clear : Bool) : ∃ answer next notes,
      (World.pools α handle).takeBack slots clear world = ⟨.ok answer, next, notes⟩ ∧
      next.Governed limits ∧ (answer = none ↔ (limits handle).Lends slots.length) ∧
      ∀ event ∈ notes.map (Event.noted (α := α)), event.NoRefusal := by
  obtain ⟨pools, rfl, governed⟩ := governed
  obtain ⟨sound, same⟩ := governed handle
  obtain ⟨answer, next, notes, reply, kept, soundNext, accepted, silent⟩ :=
    sound.takeBack_abides slots clear
  exact ⟨answer, _, notes, by rw [takeBack_ofPools, reply],
    Governed.update governed soundNext (kept.trans same), by rw [accepted, same], silent⟩

/-- No raw request reports a refusal; its answer goes to the one who asked. -/
theorem rentAny_noRefusal (limits : Handle → BucketLimits) (handle : Handle) (minLen : Nat) :
    Keeps (Holds (Governed limits) Event.NoRefusal) ((World.pools α handle).rentAny minLen) := by
  apply Pool.keeps_rentAny
  rintro world past ⟨governed, before⟩
  obtain ⟨slots, next, notes, reply, kept, _, silent⟩ := governed.rent handle minLen
  rw [reply]
  apply Holds.append ⟨governed, before⟩ kept
  exact List.forall_mem_cons.mpr ⟨Event.noRefusal_rented, silent⟩

theorem handBack_noRefusal (limits : Handle → BucketLimits) (handle : Handle) (slots : List α)
    (clear : Bool) :
    Keeps (Holds (Governed limits) Event.NoRefusal) ((World.pools α handle).handBack slots clear) := by
  apply Pool.keeps_handBack
  rintro world past verdict ⟨governed, before⟩
  obtain ⟨answer, next, notes, reply, kept, _, silent⟩ := governed.takeBack handle slots clear
  rw [reply]
  apply Holds.append ⟨governed, before⟩ kept
  exact List.forall_mem_cons.mpr ⟨Event.noRefusal_returned, silent⟩

/-- The pools are as they should be, and the one of this handle dealt fairly. -/
def Fair (limits : Handle → BucketLimits) (handle : Handle) (world : World α) (journal : Journal α) :
    Prop := world.Governed limits ∧ journal.Fair (limits handle)

/-- Populations and buffers report a refusal only after they handed in what cannot be lent. -/
theorem upholds_fair (limits : Handle → BucketLimits) (handle : Handle) (clear : Bool) :
    (World.pools α handle).Upholds clear (Fair limits handle) := by
  constructor
  · intro minLen
    apply Pool.ensures_rentChecked_of_lends
    rintro world past ⟨governed, fair⟩
    obtain ⟨slots, next, notes, reply, kept, size, silent⟩ := governed.rent handle minLen
    have enough : minLen ≤ slots.length := size ▸ (limits handle).le_grantLen minLen
    have lends : (limits handle).Lends slots.length := size ▸ (limits handle).lends_grantLen minLen
    refine ⟨slots, next, notes, reply, enough, kept, fair.append (.of_noRefusal ?_ ?_)⟩
    · simpa [Event.lent?, enough] using lends
    · rw [List.forall_mem_cons, List.forall_mem_append]
      exact ⟨Event.noRefusal_rented, silent, by simp [Event.NoRefusal]⟩
  · intro slots
    apply Pool.ensures_giveBack_of_answers
    rintro world past ⟨governed, fair⟩
    obtain ⟨answer, next, notes, reply, kept, accepted, silent⟩ :=
      governed.takeBack handle slots clear
    refine ⟨answer, next, notes, reply, ?_, ?_⟩
    · intro _
      refine ⟨kept, fair.append (.of_noRefusal (by simp [Event.lent?]) ?_)⟩
      exact List.forall_mem_cons.mpr ⟨Event.noRefusal_returned, silent⟩
    · rintro error rfl
      refine ⟨kept, fair.append ⟨by simp [Event.lent?], fun lends => ?_⟩⟩
      -- the report follows the return of a buffer that cannot be lent
      exact absurd (lends slots (by simp [Event.handed?])) (by simp [← accepted])
  · rintro world past event aside ⟨governed, fair⟩
    refine ⟨governed, fair.append (.of_noRefusal ?_ ?_)⟩
    · cases event with
      | rented | returned => cases aside
      | noted | pulled | cloned | measured | offered => simp [Event.lent?]
    · rw [List.forall_mem_singleton]
      rintro error rfl
      cases aside

end World

namespace Session

structure Stocked (limits : Handle → BucketLimits) (session : Session (World α) α) : Prop where
  world : session.world.Governed limits
  sound : session.Sound
  debts : ∀ handle, ∀ length ∈ Session.debts handle session.buffers, (limits handle).Lends length

/-- What goes back in a step was owed before or is lent in it, and so is what is owed after. -/
theorem Move.fits {before : Session σ α} {step : Step α} {turn : Turn σ α}
    (move : Move before step turn) (sound : before.Sound) {handle : Handle} {fits : Nat → Prop}
    (owed : ∀ length ∈ debts handle before.buffers, fits length)
    (lent : ∀ slots ∈ (Journal.about handle turn.journal).lent, fits slots.length) :
    (∀ slots ∈ (Journal.about handle turn.journal).handed, fits slots.length) ∧
      ∀ length ∈ debts handle turn.session.buffers, fits length := by
  have balanced := move.balance sound handle
  have all : ∀ length ∈ debts handle before.buffers ++
      (Journal.about handle turn.journal).lent.map List.length, fits length :=
    List.forall_mem_append.mpr ⟨owed, List.forall_mem_map.mpr lent⟩
  rw [← List.forall_mem_map (f := List.length) (P := fits), ← List.forall_mem_append]
  intro length member
  exact all length (balanced.mem_iff.mpr member)

variable {limits : Handle → BucketLimits} {session : Session (World α) α}

theorem rawStep_buffers (pools : Handle → Pool σ α) (session : Session σ α) (slot : String)
    (step : RawStep α) : (session.rawStep pools slot step).session.buffers = session.buffers := by
  cases step with
  | rent handle minLen =>
    simp only [rawStep]
    split
    · simp only [call]
      split <;> rfl
    · rfl
  | handIn handle slots clear =>
    simp only [rawStep, call]
    split <;> rfl
  | handBack handle clear =>
    simp only [rawStep]
    split
    · rfl
    · simp only [call]
      split <;> rfl
  | forget | view | fill =>
    simp only [rawStep]
    split <;> rfl

theorem spans_fair (limits : Handle → BucketLimits) :
    Spans (World.Governed limits) (World.Fair (α := α) limits) :=
  ⟨fun _ _ start => ⟨start, .nil⟩, fun _ _ _ held => held.1⟩

theorem Stocked.guarded (stocked : session.Stocked limits) :
    session.Guarded (fun _ _ => True) (World.Governed limits) :=
  ⟨stocked.world, fun _ _ => trivial⟩

variable [Element α]

theorem Stocked.libraryStep (stocked : session.Stocked limits) (step : Step α)
    (library : step.isRaw = false) :
    (session.step (World.pools α) step).session.Stocked limits ∧
      ∀ entry ∈ (session.step (World.pools α) step).journal, entry.2.NoRefusal := by
  have secured := stocked.guarded.libraryStep (spans_fair limits)
    (fun handle clear _ => World.upholds_fair limits handle clear) step library step.within_any
  have move : Move session step (session.step (World.pools α) step) := step_move step library
  have fits (handle : Handle) := move.fits stocked.sound (stocked.debts handle)
    (secured.pools handle).2.lent
  refine ⟨⟨secured.session.world, move.sound stocked.sound, fun handle => (fits handle).2⟩, ?_⟩
  intro entry member
  exact (secured.pools entry.1).2.taken (fits entry.1).1 _ (Journal.mem_about.mpr member)

theorem Stocked.rawStep (stocked : session.Stocked limits) (slot : String) (step : RawStep α) :
    (session.rawStep (World.pools α) slot step).session.Stocked limits ∧
      ∀ entry ∈ (session.rawStep (World.pools α) slot step).journal, entry.2.NoRefusal := by
  have secured := stocked.guarded.rawStep (spans_holds _ fun _ => Event.NoRefusal)
    (World.rentAny_noRefusal limits) (fun handle slots clear _ =>
      World.handBack_noRefusal limits handle slots clear) slot step (Step.raw slot step).within_any
  have kept := rawStep_buffers (World.pools α) session slot step
  refine ⟨⟨secured.session.world, ?_, ?_⟩, ?_⟩
  · exact ⟨kept ▸ stocked.sound.names, kept ▸ stocked.sound.rented⟩
  · rw [kept]
    exact stocked.debts
  · intro entry member
    exact (secured.pools entry.1).2 _ (Journal.mem_about.mpr member)

theorem giveUpAll_fair (buffers : List (Buffer Handle α)) {world : World α}
    (governed : world.Governed limits) (handle : Handle) :
    (Journal.about handle (giveUpAll (World.pools α) buffers world).2.1).Fair (limits handle) := by
  induction buffers generalizing world with
  | nil => exact .nil
  | cons buffer rest ih =>
    have keeps := buffer.giveUp_keeps (World.upholds_fair limits buffer.handle buffer.clear)
    have ended : ((buffer.giveUp (World.pools α)).run world).state.Governed limits ∧
        ((buffer.giveUp (World.pools α)).run world).journal.Fair (limits buffer.handle) :=
      keeps.ended world [] ⟨governed, .nil⟩
    simp only [giveUpAll, Journal.about_append, Journal.about_call]
    apply Journal.Fair.append _ (ih ended.1)
    split
    · rename_i same
      exact same ▸ ended.2
    · exact .nil

theorem Stocked.close (stocked : session.Stocked limits) :
    ∀ entry ∈ (session.close (World.pools α)).journal, entry.2.NoRefusal := by
  intro entry member
  obtain ⟨_, handed⟩ := close_hands (World.pools α) entry.1 session
  have fair : (Journal.about entry.1 (session.close (World.pools α)).journal).Fair (limits entry.1) :=
    giveUpAll_fair _ stocked.world entry.1
  apply fair.taken _ _ (Journal.mem_about.mpr member)
  rw [← List.forall_mem_map (f := List.length)]
  intro length owed
  exact stocked.debts entry.1 length (handed.mem_iff.mp owed)

theorem Stocked.play (stocked : session.Stocked limits) (steps : List (Step α)) :
    ∀ turn ∈ session.play (World.pools α) steps, ∀ entry ∈ turn.journal, entry.2.NoRefusal := by
  induction steps generalizing session with
  | nil => exact List.forall_mem_singleton.mpr stocked.close
  | cons step rest ih =>
    have moved : (session.step (World.pools α) step).session.Stocked limits ∧
        ∀ entry ∈ (session.step (World.pools α) step).journal, entry.2.NoRefusal := by
      cases kind : step.isRaw with
      | false => exact stocked.libraryStep step kind
      | true =>
        cases step with
        | raw slot step => exact stocked.rawStep slot step
        | build | describe | view | compare | inspect | giveUp | release | unwind | share
          | countIdle => cases kind
    exact List.forall_mem_cons.mpr ⟨moved.2, ih moved.1⟩

end Session

namespace BucketPool

variable [Element α]

/-- A bucket pool refuses just the buffers of lengths that it grants to no one, and is unchanged
then; it takes back, at any later time, whatever was lent; and in no session over such a pool and
the shared one does a population or a buffer report a refusal. -/
theorem refuses_just_unlendable (limits : BucketLimits) :
    (∀ (requests : List (Request α)) (slots : List α) (clear : Bool), slots.length ≤ maxWord →
      let pool := ((asPool α).serveAll requests (empty limits)).1
      let lendable := ∃ minLen, 0 < minLen ∧ minLen ≤ maxWord ∧ pool.Grants minLen slots.length
      ((pool.takeBack slots clear).result = .ok (some (.foreignBuffer slots.length)) ↔ ¬ lendable) ∧
        (¬ lendable → (pool.takeBack slots clear).state = pool) ∧
        (lendable → (pool.takeBack slots clear).result = .ok none)) ∧
      (∀ (before after : List (Request α)) (minLen : Nat) (granted slots : List α) (clear : Bool),
        let lending := ((asPool α).serveAll before (empty limits)).1.rent minLen
        lending.result = .ok granted → slots.length = granted.length →
          (((asPool α).serveAll after lending.state).1.takeBack slots clear).result = .ok none) ∧
      ∀ (steps : List (Step α)),
        ∀ turn ∈ (Session.start (World.start (.bucket (.empty limits)))).play (World.pools α) steps,
          ∀ entry ∈ turn.journal, ∀ error, entry.2 ≠ .noted (.returnRejected error) := by
  refine ⟨?_, ?_, ?_⟩
  · intro requests slots clear word pool lendable
    obtain ⟨same, sound⟩ := serveAll_sound (α := α) limits requests
    have lends : pool.limits.Lends slots.length ↔ lendable := sound.lends_iff word
    by_cases can : lendable
    · have taken := sound.takeBack_of_lends clear (lends.mpr can)
      exact ⟨by simp [pool, taken, can], fun cannot => absurd can cannot, fun _ => taken⟩
    · have refused := sound.takeBack_of_not_lends clear fun can' => can (lends.mp can')
      have reply : pool.takeBack slots clear = _ := refused
      exact ⟨by simp [reply, can], fun _ => by rw [reply], fun can' => absurd can' can⟩
  · intro before after minLen granted slots clear lending lent length
    obtain ⟨same, sound⟩ := serveAll_sound (α := α) limits before
    obtain ⟨_, next, notes, reply, kept, soundNext, size, _⟩ := sound.rent_abides minLen
    have lending_eq : lending = _ := reply
    rw [lending_eq] at lent ⊢
    cases lent
    obtain ⟨_, later, soundLater⟩ := serveAll_serves soundNext after
    apply soundLater.takeBack_of_lends
    rw [later, kept, length, size]
    exact BucketLimits.lends_grantLen _ minLen
  · intro steps
    apply Session.Stocked.play
    exact ⟨World.start_governed limits, Session.start_sound _, nofun⟩

/-- A pool that keeps buffers of 16 and of 32 slots refuses one of 17. A buffer of 32 that it lent
may come back while others rent. -/
theorem refuses_just_unlendable_small :
    let pool := ((asPool UInt8).serveAll [.rent 20, .hand (List.replicate 32 7) false]
      (empty ⟨32, 2, by decide⟩)).1
    let after := ((asPool UInt8).serveAll [.rent 32] (pool.rent 20).state).1
    pool.takeBack (List.replicate 17 0) true = ⟨.ok (some (.foreignBuffer 17)), pool, []⟩ ∧
      (¬ ∃ minLen, 0 < minLen ∧ minLen ≤ maxWord ∧ pool.Grants minLen 17) ∧
      (pool.rent 20).result = .ok (List.replicate 32 7) ∧
      (after.takeBack (List.replicate 32 1) true).result = .ok none := by
  obtain ⟨refuses, takes, _⟩ := refuses_just_unlendable (α := UInt8) ⟨32, 2, by decide⟩
  have unlent := (refuses [.rent 20, .hand (List.replicate 32 7) false] (List.replicate 17 0) true
    (by decide)).1.mp (by decide +kernel)
  have taken := takes [.rent 20, .hand (List.replicate 32 7) false] [.rent 32] 20
    (List.replicate 32 7) (List.replicate 32 1) true (by decide +kernel) rfl
  exact ⟨by rfl, unlent, by rfl, taken⟩

end BucketPool

end BufferRental
