import BufferRental.Proofs.SessionBalance
import BufferRental.Proofs.Stages

/-! What the requests to a pool keep is kept by every call. A call reaches a pool by renting and by
handing back with the clear decision of its buffer, and in no other way; so a fact about the pool
and the journal that these requests keep holds after any call, however the call ends, and in a
session after any step. -/
namespace BufferRental

namespace Act

abbrev Keeps (inv : σ → Journal α → Prop) (act : Act σ α β) : Prop :=
  Ensures inv act (fun _ => inv) fun _ => inv

variable {inv : σ → Journal α → Prop}

theorem keeps_leave (exit : Exit β) : Keeps inv (leave exit) := by
  cases exit with
  | done value => exact ensures_pure fun _ _ => id
  | failed error => exact ensures_fail fun _ _ => id
  | panicked panic => exact ensures_raise fun _ _ => id
  | aborted => exact ensures_abort fun _ _ => id

theorem ensures_anyhow (act : Act σ α β) :
    Ensures (fun _ _ => True) act (fun _ _ _ => True) fun _ _ _ => True :=
  ensures_kept (fun _ _ => id) act

/-- An act that never succeeds promises anything of its success. -/
theorem ensures_of_never {act : Act σ α β} {pre : σ → Journal α → Prop}
    {post : β → σ → Journal α → Prop}
    (never : Ensures (fun _ _ => True) act (fun _ _ _ => False) fun _ _ _ => True) :
    Ensures pre act post fun _ _ _ => True :=
  never.imp (fun _ _ _ => trivial) (fun _ _ _ => False.elim) fun _ _ _ => id

theorem keeps_attempt {act : Act σ α β} (keeps : Keeps inv act) : Keeps inv act.attempt :=
  ensures_attempt keeps

theorem keeps_whileUnwinding {panic : Panic} {cleanUp : Act σ α Unit} (keeps : Keeps inv cleanUp) :
    Keeps inv (whileUnwinding panic cleanUp : Act σ α β) := by
  apply ensures_whileUnwinding
  refine keeps.stops fun ending _ _ after => ?_
  cases ending <;> exact after

theorem keeps_expect {act : Act σ α β} (keeps : Keeps inv act) : Keeps inv act.expect := by
  apply ensures_expect
  refine keeps.stops fun ending _ _ after => ?_
  cases ending <;> exact after

/-- What only events of a kind can have brought about. -/
theorem Keeps.seen {seen : Event α → Prop} {act : Act σ α β}
    (keeps : Keeps (fun _ journal => ∀ event ∈ journal, seen event) act) (s : σ) :
    ∀ event ∈ (act.run s).journal, seen event :=
  keeps.ended s [] nofun

end Act

open Act

structure Pool.Maintains (pool : Pool σ α) (clear : Bool) (inv : σ → Journal α → Prop) : Prop where
  rent : ∀ minLen, Keeps inv (pool.rentAny minLen)
  hand : ∀ slots, Keeps inv (pool.handBack slots clear)
  still : ∀ s past event, Journal.isTraffic event = false → inv s past → inv s (past ++ [event])

/-- Tells of neither a request to a pool nor its answer. -/
def Event.isAside : Event α → Bool
  | .pulled | .cloned _ | .measured _ | .offered _ | .noted (.growing ..) => true
  | _ => false

theorem Event.not_traffic_of_aside {event : Event α} (aside : event.isAside = true) :
    Journal.isTraffic event = false := by
  cases event with
  | rented | returned => cases aside
  | noted | pulled | cloned | measured | offered => rfl

/-- The requests of a population, taken with what is logged of their answers, keep `inv`, and so
does all that happens between them. -/
structure Pool.Upholds (pool : Pool σ α) (clear : Bool) (inv : σ → Journal α → Prop) : Prop where
  rent : ∀ minLen, Keeps inv (pool.rentChecked minLen)
  hand : ∀ slots, Keeps inv (pool.giveBack slots clear)
  aside : ∀ s past event, event.isAside = true → inv s past → inv s (past ++ [event])

structure Pool.UpholdsFor (asked : Nat → Prop) (pool : Pool σ α) (clear : Bool)
    (inv : σ → Journal α → Prop) : Prop where
  rent : ∀ minLen, asked minLen → Keeps inv (pool.rentChecked minLen)
  hand : ∀ slots, Keeps inv (pool.giveBack slots clear)
  aside : ∀ s past event, event.isAside = true → inv s past → inv s (past ++ [event])

namespace Pool

variable {pool : Pool σ α} {inv : σ → Journal α → Prop}

theorem Upholds.anyLength {clear : Bool} {asked : Nat → Prop} (upholds : pool.Upholds clear inv) :
    pool.UpholdsFor asked clear inv :=
  ⟨fun minLen _ => upholds.rent minLen, upholds.hand, upholds.aside⟩

theorem UpholdsFor.upholds {clear : Bool} (upholds : pool.UpholdsFor (fun _ => True) clear inv) :
    pool.Upholds clear inv :=
  ⟨fun minLen => upholds.rent minLen trivial, upholds.hand, upholds.aside⟩

theorem keeps_rentAny {minLen : Nat}
    (held : ∀ s past, inv s past → inv (pool.rent minLen s).state
      (past ++ .rented minLen (pool.rent minLen s).result.toOption ::
        (pool.rent minLen s).notes.map .noted)) : Keeps inv (pool.rentAny minLen) := by
  intro s past start
  have after := held s past start
  rcases reply : pool.rent minLen s with ⟨result, next, notes⟩
  rw [reply] at after
  cases result <;> simpa [rentAny, reply, Exit.Satisfies, Except.toOption] using after

theorem keeps_handBack {slots : List α} {clear : Bool}
    (held : ∀ s past verdict, inv s past → inv (pool.takeBack slots clear s).state
      (past ++ .returned slots clear verdict :: (pool.takeBack slots clear s).notes.map .noted)) :
    Keeps inv (pool.handBack slots clear) := by
  intro s past start
  have after := fun verdict => held s past verdict start
  rcases reply : pool.takeBack slots clear s with ⟨result, next, notes⟩
  rw [reply] at after
  rcases result with panic | (_ | error)
  · simpa [handBack, reply, Exit.Satisfies] using after .panicked
  · simpa [handBack, reply, Exit.Satisfies] using after .accepted
  · simpa [handBack, reply, Exit.Satisfies] using after (.refused error)

theorem keeps_rentChecked {minLen : Nat} (rent : Keeps inv (pool.rentAny minLen))
    (note : ∀ note, Keeps inv (Act.note note)) : Keeps inv (pool.rentChecked minLen) := by
  apply ensures_bind rent
  intro granted
  split
  · exact keeps_leave _
  · exact ensures_bind (note _) fun _ => keeps_leave (.done granted)

theorem keeps_giveBack {slots : List α} {clear : Bool} (hand : Keeps inv (pool.handBack slots clear))
    (note : ∀ note, Keeps inv (Act.note note)) : Keeps inv (pool.giveBack slots clear) := by
  apply ensures_bind hand
  intro answer
  cases answer with
  | none => exact keeps_leave (.done ())
  | some error => exact note _

theorem keeps_settle {clear : Bool} (hand : ∀ slots, Keeps inv (pool.giveBack slots clear))
    (slots : List α) (exit : Exit β) : Keeps inv (pool.settle clear slots exit) := by
  cases exit with
  | done value => exact keeps_leave (.done value)
  | failed error => exact ensures_bind (hand slots) fun _ => keeps_leave _
  | panicked panic => exact keeps_whileUnwinding (hand slots)
  | aborted => exact keeps_leave _

theorem keeps_fillAtOnce {clear : Bool} (hand : ∀ slots, Keeps inv (pool.giveBack slots clear))
    (copied : ∀ target (cloned : List α), Keeps inv (record (.offered target :: cloned.map .cloned)))
    (length : Nat) (slots : List α) (copy : List α → Copy α) :
    Keeps inv (pool.fillAtOnce clear length slots copy) := by
  unfold Pool.fillAtOnce
  split
  · exact keeps_settle hand _ _
  · exact ensures_bind (copied _ _) fun _ => keeps_settle hand _ _

theorem keeps_assignItems (pulled : Keeps inv (record [.pulled])) (room : Nat)
    (items : List (Yield α)) (filling : Filling α) :
    Keeps inv (assignItems room items filling) := by
  induction items generalizing filling with
  | nil => exact keeps_leave (.done _)
  | cons turn rest ih =>
    unfold Pool.assignItems
    split
    · exact keeps_leave (.done _)
    · refine ensures_bind pulled fun _ => ?_
      cases turn with
      | panic text => exact keeps_leave (.done _)
      | item value => exact ih _

theorem Maintains.upholds {clear : Bool} (maintains : pool.Maintains clear inv) :
    pool.Upholds clear inv := by
  have note (note : Note) : Keeps inv (Act.note note) :=
    ensures_record fun s past start => maintains.still s past (.noted note) rfl start
  constructor
  · exact fun minLen => keeps_rentChecked (maintains.rent minLen) note
  · exact fun slots => keeps_giveBack (maintains.hand slots) note
  · intro s past event aside start
    exact maintains.still s past event (Event.not_traffic_of_aside aside) start

/-- Whatever the answers are, only events of a kind happen if the requests are of that kind. -/
theorem upholdsFor_seen {asked : Nat → Prop} {clear : Bool} {seen : Event α → Prop}
    (rented : ∀ minLen granted, asked minLen → seen (.rented minLen granted))
    (returned : ∀ slots verdict, seen (.returned slots clear verdict))
    (still : ∀ event, Journal.isTraffic event = false → seen event) :
    pool.UpholdsFor asked clear fun _ journal => ∀ event ∈ journal, seen event := by
  have silent (notes : List Note) : ∀ event ∈ notes.map Event.noted, seen event := by
    intro event member
    obtain ⟨note, _, rfl⟩ := List.mem_map.mp member
    exact still _ rfl
  have note (note : Note) :
      Keeps (fun (_ : σ) journal => ∀ event ∈ journal, seen event) (Act.note note) :=
    ensures_record fun _ _ held => List.forall_mem_append.mpr ⟨held, silent [note]⟩
  constructor
  · intro minLen within
    refine keeps_rentChecked (keeps_rentAny fun s past held => ?_) note
    have request := rented minLen (pool.rent minLen s).result.toOption within
    exact List.forall_mem_append.mpr ⟨held, List.forall_mem_cons.mpr ⟨request, silent _⟩⟩
  · intro slots
    refine keeps_giveBack (keeps_handBack fun s past verdict held => ?_) note
    have handed := returned slots verdict
    exact List.forall_mem_append.mpr ⟨held, List.forall_mem_cons.mpr ⟨handed, silent _⟩⟩
  · intro s past event aside held
    have quiet := still event (Event.not_traffic_of_aside aside)
    exact List.forall_mem_append.mpr ⟨held, List.forall_mem_singleton.mpr quiet⟩

end Pool

namespace Pool.UpholdsFor

variable {asked : Nat → Prop} {pool : Pool σ α} {clear : Bool} {inv : σ → Journal α → Prop}

theorem record (upholds : pool.UpholdsFor asked clear inv) {events : Journal α}
    (between : ∀ event ∈ events, event.isAside = true) : Keeps inv (record events) := by
  apply ensures_record
  intro s past start
  induction events generalizing past with
  | nil => simpa using start
  | cons event rest ih =>
    have first := upholds.aside s past event (between event List.mem_cons_self) start
    simpa using ih (fun other member => between other (List.mem_cons_of_mem _ member)) _ first

theorem pulled (upholds : pool.UpholdsFor asked clear inv) : Keeps inv (Act.record [.pulled]) :=
  upholds.record (by simp [Event.isAside])

theorem settle (upholds : pool.UpholdsFor asked clear inv) (slots : List α) (exit : Exit β) :
    Keeps inv (pool.settle clear slots exit) := keeps_settle upholds.hand slots exit

theorem fillAtOnce (upholds : pool.UpholdsFor asked clear inv) (length : Nat) (slots : List α)
    (copy : List α → Copy α) : Keeps inv (pool.fillAtOnce clear length slots copy) := by
  refine keeps_fillAtOnce upholds.hand (fun target cloned => upholds.record ?_) length slots copy
  simp [Event.isAside]

theorem grow (upholds : pool.UpholdsFor asked clear inv) {limit : Nat}
    (lengths : ∀ n, 1 ≤ n → n ≤ limit → asked n) (filling : Filling α) :
    Keeps inv (pool.grow clear limit filling) := by
  unfold Pool.grow
  dsimp only
  split
  · exact keeps_leave (.done _)
  · rename_i next grows
    obtain ⟨positive, within⟩ := nextLen_within grows
    refine ensures_bind (upholds.record (by simp [Event.isAside])) fun _ =>
      ensures_bind (keeps_attempt (upholds.rent next (lengths next positive within))) fun exit => ?_
    cases exit with
    | failed | panicked | aborted => exact keeps_leave (.done _)
    | done slots =>
      dsimp only
      split
      · exact keeps_leave (.done _)
      · exact ensures_bind (keeps_attempt (upholds.hand _)) fun _ => keeps_leave (.done _)

theorem appendItems (upholds : pool.UpholdsFor asked clear inv) {limit : Nat}
    (lengths : ∀ n, 1 ≤ n → n ≤ limit → asked n) (items : List (Yield (Except String α)))
    (filling : Filling α) : Keeps inv (pool.appendItems clear limit items filling) := by
  induction items generalizing filling with
  | nil => exact keeps_leave (.done _)
  | cons turn rest ih =>
    rcases turn with (text | value) | text
    · exact ensures_bind upholds.pulled fun _ => keeps_leave (.done _)
    · rw [appendItems_value]
      have room : Keeps inv (pool.makeRoom clear limit filling) := by
        unfold makeRoom
        split
        · exact upholds.grow lengths filling
        · exact keeps_leave (.done _)
      refine ensures_bind upholds.pulled fun _ => ensures_bind room ?_
      rintro ⟨made, ending⟩
      cases ending with
      | failed | panicked | aborted => exact keeps_leave (.done _)
      | done _ =>
        simp only [putNext]
        split
        · exact keeps_leave (.done _)
        · exact ih _
    · exact ensures_bind upholds.pulled fun _ => keeps_leave (.done _)

theorem assignItems (upholds : pool.UpholdsFor asked clear inv) (room : Nat) (items : List (Yield α))
    (filling : Filling α) : Keeps inv (assignItems room items filling) :=
  keeps_assignItems upholds.pulled room items filling

theorem fill [Element α] (upholds : pool.UpholdsFor asked clear inv)
    (lengths : ∀ n, 1 ≤ n → n ≤ Element.maxLen α → asked n) (method : Method α) (slots : List α) :
    Keeps inv (pool.fill clear method slots) := by
  cases method with
  | withCount count => exact keeps_leave (.done _)
  | copySlice source => exact upholds.fillAtOnce _ _ _
  | copyFrom source => exact upholds.fillAtOnce _ _ _
  | collectExact reported items =>
    exact ensures_bind (upholds.assignItems _ _ _) fun _ => upholds.settle _ _
  | collect items =>
    exact ensures_bind (upholds.appendItems lengths _ _) fun _ => upholds.settle _ _
  | tryCollect items =>
    exact ensures_bind (upholds.appendItems lengths _ _) fun _ => upholds.settle _ _

end Pool.UpholdsFor

variable {pools : ι → Pool σ α} {inv : σ → Journal α → Prop}

namespace Settings

variable [Element α] {settings : Settings ι}

theorem populate_keeps {asked : Nat → Prop}
    (upholds : (pools settings.handle).UpholdsFor asked (settings.clear α) inv)
    (lengths : ∀ n, 1 ≤ n → n ≤ max 1 (Element.maxLen α) → asked n) (method : Method α)
    (slice : ∀ source, method = .copySlice source → source ≠ [] → asked source.length) :
    Keeps inv (settings.populate pools method) := by
  have later (n : Nat) (positive : 1 ≤ n) (within : n ≤ Element.maxLen α) : asked n :=
    lengths n positive (Nat.le_trans within (Nat.le_max_right ..))
  apply ensures_populate
  · apply upholds.record
    cases method <;> simp [Method.measurement, Event.isAside]
  · exact fun _ _ _ _ _ _ => id
  · exact fun _ _ _ => id
  · intro admitted positive
    apply upholds.rent
    by_cases sliced : ∃ source, method = .copySlice source
    · obtain ⟨source, rfl⟩ := sliced
      exact slice source rfl (List.length_pos_iff.mp positive)
    · exact lengths _ positive (admitted.firstLen_le fun source same => sliced ⟨source, same⟩)
  · exact fun _ slots => upholds.fill later method slots

/-- What is asked for is a length that a buffer can have, or the length of a slice. -/
theorem build_keeps_for {asked : Nat → Prop}
    (upholds : (pools settings.handle).UpholdsFor asked (settings.clear α) inv)
    (lengths : ∀ n, 1 ≤ n → n ≤ max 1 (Element.maxLen α) → asked n) (method : Method α)
    (slice : ∀ source, method = .copySlice source → source ≠ [] → asked source.length) :
    Keeps inv (settings.build pools method) := by
  rw [build_eq_populate]
  refine ensures_bind (populate_keeps upholds lengths method slice) fun populated => ?_
  unfold Buffer.ofPopulated
  split
  · exact keeps_leave (.done _)
  · exact keeps_leave _

theorem build_keeps (upholds : (pools settings.handle).Upholds (settings.clear α) inv)
    (method : Method α) : Keeps inv (settings.build pools method) := by
  have anyLength : (pools settings.handle).UpholdsFor (fun _ => True) (settings.clear α) inv :=
    upholds.anyLength
  exact build_keeps_for anyLength (fun _ _ _ => trivial) method fun _ _ _ => trivial

end Settings

namespace Buffer

theorem giveUp_keeps {buffer : Buffer ι α}
    (upholds : (pools buffer.handle).Upholds buffer.clear inv) :
    Keeps inv (buffer.giveUp pools) := by
  cases held : buffer.slots with
  | none =>
    rw [giveUp_of_none pools held]
    exact keeps_leave (.done ())
  | some slots =>
    rw [giveUp_of_some pools held]
    exact upholds.hand slots

theorem fromIterator_keeps [Element α] {handle : ι}
    (upholds : (pools handle).Upholds ((Settings.standard handle).clear α) inv) (hint : Nat)
    (items : List (Yield α)) : Keeps inv (fromIterator pools handle hint items) := by
  unfold fromIterator
  dsimp only
  apply keeps_expect
  by_cases promised : 0 < hint
  · rw [if_pos promised]
    exact Settings.build_keeps upholds _
  · rw [if_neg promised]
    exact Settings.build_keeps upholds _

end Buffer

theorem Shares.leaveEach_keeps {pools : Handle → Pool σ α} {shares : Shares Handle α}
    (upholds : (pools shares.buffer.handle).Upholds shares.buffer.clear inv) (before : σ)
    (owners returns : Nat) : Keeps inv (leaveEach pools before owners returns shares) := by
  induction owners generalizing shares returns with
  | zero => exact keeps_leave (.done _)
  | succ owners ih =>
    have left : Ensures inv (shares.leave pools) (fun after s j =>
        after.buffer = shares.buffer ∧ inv s j) (fun _ => inv) := by
      unfold leave
      by_cases last : shares.owners = 1
      · simp only [if_pos last]
        exact ensures_bind (Buffer.giveUp_keeps upholds) fun _ =>
          ensures_pure fun _ _ after => ⟨rfl, after⟩
      · simp only [if_neg last]
        exact ensures_pure fun _ _ start => ⟨rfl, start⟩
    refine ensures_bind (ensures_listen (left.imp (fun _ _ => id) (fun _ _ _ after _ => after)
      fun _ _ _ => id) : Ensures _ _ (fun heard s j => heard.1.buffer = shares.buffer ∧ inv s j) _)
      fun heard => ensures_given (fun _ _ start => start.1) fun same => ?_
    refine ensures_bind (ensures_get fun _ _ start => start.2 : Ensures _ _ (fun _ => inv) _)
      fun now => ensures_bind (ih ?_ _) fun later => keeps_leave (.done _)
    rw [same]
    exact upholds

/-- What was built belongs to its pool under the decision of its settings. -/
theorem Settings.build_belongs [Element α] (pools : ι → Pool σ α) (settings : Settings ι)
    (method : Method α) : Ensures (fun _ _ => True) (settings.build pools method)
      (fun buffer _ _ => buffer.handle = settings.handle ∧ buffer.clear = settings.clear α)
      fun _ _ _ => True := by
  rw [build_eq_populate]
  refine ensures_bind (ensures_anyhow _) fun populated => ?_
  unfold Buffer.ofPopulated
  split
  · exact ensures_pure fun _ _ _ => ⟨rfl, rfl⟩
  · exact ensures_raise fun _ _ => id

namespace Construction

variable [Element α]

def clear : Construction α → Bool
  | populate settings _ => (Settings.ofList .shared settings).clear α
  | new | fromIterator .. => (Settings.standard Handle.shared).clear α

theorem run_belongs (pools : Handle → Pool σ α) (construction : Construction α) :
    Ensures (fun _ _ => True) (construction.run pools)
      (fun buffer _ _ => buffer.handle = construction.handle ∧ buffer.clear = construction.clear)
      fun _ _ _ => True := by
  cases construction with
  | populate settings method => exact Settings.build_belongs pools _ method
  | new => exact ensures_pure fun _ _ _ => ⟨rfl, rfl⟩
  | fromIterator hint items =>
    apply ensures_expect
    refine (Settings.build_belongs pools _ _).imp (fun _ _ => id) ?_ ?_
    · intro buffer _ _ belongs
      split at belongs <;> exact belongs
    · intro ending _ _ _
      cases ending <;> trivial

theorem run_keeps {pools : Handle → Pool σ α} {inv : σ → Journal α → Prop}
    {construction : Construction α}
    (upholds : (pools construction.handle).Upholds construction.clear inv) :
    Keeps inv (construction.run pools) := by
  cases construction with
  | populate settings method => exact Settings.build_keeps upholds method
  | new => exact keeps_leave (.done _)
  | fromIterator hint items => exact Buffer.fromIterator_keeps upholds hint items

end Construction

/-- What the step hands back, now or when the buffer that it builds ends, comes with a decision
that is allowed for its pool. -/
def Step.Within [Element α] (allowed : Handle → Bool → Prop) : Step α → Prop
  | .build _ construction => allowed construction.handle construction.clear
  | .raw _ (.handBack handle clear) | .raw _ (.handIn handle _ clear) => allowed handle clear
  | _ => True

theorem Step.within_any [Element α] (step : Step α) : step.Within fun _ _ => True := by
  cases step with
  | raw slot step => cases step <;> trivial
  | build | describe | view | compare | inspect | giveUp | release | unwind | share | countIdle =>
    trivial

def Act.Holds (good : σ → Prop) (seen : Event α → Prop) (s : σ) (journal : Journal α) : Prop :=
  good s ∧ ∀ event ∈ journal, seen event

theorem Act.Holds.append {good : σ → Prop} {seen : Event α → Prop} {s next : σ}
    {past events : Journal α} (held : Holds good seen s past) (after : good next)
    (new : ∀ event ∈ events, seen event) : Holds good seen next (past ++ events) :=
  ⟨after, List.forall_mem_append.mpr ⟨held.2, new⟩⟩

/-- Under returns that are allowed, the pools keep their state good and bring about only events
that may be seen. -/
structure Session.Guards (pools : Handle → Pool σ α) (allowed : Handle → Bool → Prop)
    (good : σ → Prop) (seen : Handle → Event α → Prop) : Prop where
  rent : ∀ handle minLen, Keeps (Holds good (seen handle)) ((pools handle).rentAny minLen)
  hand : ∀ handle slots clear, allowed handle clear →
    Keeps (Holds good (seen handle)) ((pools handle).handBack slots clear)
  still : ∀ handle event, Journal.isTraffic event = false → seen handle event

structure Session.Guarded (allowed : Handle → Bool → Prop) (good : σ → Prop)
    (session : Session σ α) : Prop where
  world : good session.world
  flags : ∀ entry ∈ session.buffers, allowed entry.2.handle entry.2.clear

structure Turn.Guarded (allowed : Handle → Bool → Prop) (good : σ → Prop)
    (seen : Handle → Event α → Prop) (turn : Turn σ α) : Prop where
  session : turn.session.Guarded allowed good
  events : ∀ entry ∈ turn.journal, seen entry.1 entry.2

/-- What holds of a pool and of the journal of one step: a good state begins it, and whatever it
becomes, the state is good. -/
structure Session.Spans (good : σ → Prop) (inv : Handle → σ → Journal α → Prop) : Prop where
  opens : ∀ handle s, good s → inv handle s []
  good : ∀ handle s journal, inv handle s journal → good s

structure Turn.Secured (allowed : Handle → Bool → Prop) (good : σ → Prop)
    (inv : Handle → σ → Journal α → Prop) (turn : Turn σ α) : Prop where
  session : turn.session.Guarded allowed good
  pools : ∀ handle, inv handle turn.session.world (Journal.about handle turn.journal)

namespace Session

variable {pools : Handle → Pool σ α} {allowed : Handle → Bool → Prop} {good : σ → Prop}
  {seen : Handle → Event α → Prop} {inv : Handle → σ → Journal α → Prop} {session : Session σ α}

theorem spans_holds (good : σ → Prop) (seen : Handle → Event α → Prop) :
    Spans good fun handle => Holds good (seen handle) :=
  ⟨fun _ _ start => ⟨start, nofun⟩, fun _ _ _ held => held.1⟩

theorem Guards.maintains (guards : Guards pools allowed good seen) {handle : Handle} {clear : Bool}
    (flag : allowed handle clear) :
    (pools handle).Maintains clear (Holds good (seen handle)) := by
  refine ⟨guards.rent handle, fun slots => guards.hand handle slots clear flag, ?_⟩
  intro s past event quiet held
  apply held.append held.1
  simpa using guards.still handle event quiet

theorem Guarded.buffer (guarded : session.Guarded allowed good) {slot : String}
    {buffer : Buffer Handle α} (found : session.buffer? slot = some buffer) :
    allowed buffer.handle buffer.clear := by
  obtain ⟨before, after, split, _⟩ := List.lookup_eq_some_iff.mp found
  exact guarded.flags (slot, buffer) (by simp [split])

theorem Guarded.dropBuffer (guarded : session.Guarded allowed good) (slot : String) :
    (session.dropBuffer slot).Guarded allowed good :=
  ⟨guarded.world, fun entry member => guarded.flags entry (List.mem_filter.mp member).1⟩

theorem Guarded.putBuffer (guarded : session.Guarded allowed good) (slot : String)
    {buffer : Buffer Handle α} (flag : allowed buffer.handle buffer.clear) :
    (session.putBuffer slot buffer).Guarded allowed good := by
  refine ⟨guarded.world, fun entry member => ?_⟩
  rcases List.mem_cons.mp member with rfl | old
  · exact flag
  · exact guarded.flags entry (List.mem_filter.mp old).1

theorem Guarded.reply (guarded : session.Guarded allowed good) (spans : Spans good inv)
    (answer : Answer α) : (session.reply answer).Secured allowed good inv :=
  ⟨guarded, fun handle => spans.opens handle _ guarded.world⟩

/-- An act on a pool that keeps `inv`, and then a change that keeps the flags and the world. -/
theorem Guarded.call (guarded : session.Guarded allowed good) (spans : Spans good inv)
    {handle : Handle} {act : Act σ α β} (keeps : Keeps (inv handle) act) (answer : β → Answer α)
    {change : β → Session σ α → Session σ α}
    (changed : ∀ value after, (act.run session.world).exit = .done value →
      after.Guarded allowed good →
        (change value after).Guarded allowed good ∧ (change value after).world = after.world) :
    (session.call handle act answer change).Secured allowed good inv := by
  have ended : inv handle (act.run session.world).state (act.run session.world).journal :=
    keeps.ended session.world [] (spans.opens handle _ guarded.world)
  have world := spans.good _ _ _ ended
  have after : ({ session with world := (act.run session.world).state } : Session σ α).Guarded
      allowed good := ⟨world, guarded.flags⟩
  have changed : (session.call handle act answer change).session.Guarded allowed good ∧
      (session.call handle act answer change).session.world = (act.run session.world).state := by
    simp only [Session.call]
    cases ran : (act.run session.world).exit with
    | done value => exact changed value _ ran after
    | failed | panicked | aborted => exact ⟨after, rfl⟩
  refine ⟨changed.1, fun other => ?_⟩
  rw [changed.2]
  simp only [Session.call, Journal.about_call]
  split
  · rename_i same
    exact same ▸ ended
  · exact spans.opens other _ world

/-- Raw steps rent and hand back directly. -/
theorem Guarded.rawStep [Element α] (guarded : session.Guarded allowed good)
    (spans : Spans good inv) (rent : ∀ handle minLen, Keeps (inv handle) ((pools handle).rentAny minLen))
    (hand : ∀ handle slots clear, allowed handle clear →
      Keeps (inv handle) ((pools handle).handBack slots clear))
    (slot : String) (step : RawStep α) (within : (Step.raw slot step).Within allowed) :
    (session.rawStep pools slot step).Secured allowed good inv := by
  cases step with
  | rent handle minLen =>
    simp only [Session.rawStep]
    split
    · exact guarded.call spans (rent handle minLen) _ fun _ _ _ after =>
        ⟨⟨after.world, after.flags⟩, rfl⟩
    · exact guarded.reply spans _
  | handIn handle slots clear =>
    exact guarded.call spans (hand handle slots clear within) _ fun _ _ _ after => ⟨after, rfl⟩
  | handBack handle clear =>
    simp only [Session.rawStep]
    split
    · exact guarded.reply spans _
    · have dropped : (session.dropRaw slot).Guarded allowed good := ⟨guarded.world, guarded.flags⟩
      exact dropped.call spans (hand handle _ clear within) _ fun _ _ _ after => ⟨after, rfl⟩
  | forget | view | fill =>
    simp only [Session.rawStep]
    split
    · exact guarded.reply spans _
    · exact ⟨⟨guarded.world, guarded.flags⟩, fun handle => spans.opens handle _ guarded.world⟩

/-- All other steps reach a pool through a population or through the end of a buffer. -/
theorem Guarded.libraryStep [Element α] (guarded : session.Guarded allowed good)
    (spans : Spans good inv) (upholds : ∀ handle clear, allowed handle clear →
      (pools handle).Upholds clear (inv handle)) (step : Step α) (library : step.isRaw = false)
    (within : step.Within allowed) : (session.step pools step).Secured allowed good inv := by
  cases step with
  | raw slot step => cases library
  | countIdle => exact guarded.reply spans _
  | describe slot | inspect slot =>
    simp only [Session.step]
    split <;> exact guarded.reply spans _
  | compare slot other =>
    simp only [Session.step]
    split <;> exact guarded.reply spans _
  | build slot construction =>
    simp only [Session.step]
    split
    · refine guarded.call spans (construction.run_keeps (upholds _ _ within)) _ ?_
      intro buffer after ended kept
      have belongs := construction.run_belongs pools session.world [] trivial
      rw [ended] at belongs
      obtain ⟨owner, flag⟩ := belongs
      exact ⟨kept.putBuffer slot (by rw [owner, flag]; exact within), rfl⟩
    · exact guarded.reply spans _
  | view slot operation =>
    simp only [Session.step]
    split
    · exact guarded.reply spans _
    · rename_i buffer found
      have kept := (buffer.perform_agrees operation).kept
      refine (guarded.putBuffer slot ?_).reply spans _
      rw [kept.handle, kept.clear]
      exact guarded.buffer found
  | giveUp slot =>
    simp only [Session.step]
    split
    · exact guarded.reply spans _
    · rename_i buffer found
      have kept := buffer.giveUp_keeps (upholds _ _ (guarded.buffer found))
      exact (guarded.dropBuffer slot).call spans kept _ fun _ _ _ after => ⟨after, rfl⟩
  | release slot =>
    simp only [Session.step]
    split
    · exact guarded.reply spans _
    · rename_i buffer found
      have kept := buffer.giveUp_keeps (upholds _ _ (guarded.buffer found))
      rw [Buffer.release_eq_giveUp]
      exact (guarded.dropBuffer slot).call spans kept _ fun _ _ _ after => ⟨after, rfl⟩
  | unwind slot =>
    simp only [Session.step]
    split
    · exact guarded.reply spans _
    · rename_i buffer found
      have kept := buffer.giveUp_keeps (upholds _ _ (guarded.buffer found))
      exact (guarded.dropBuffer slot).call spans (keeps_whileUnwinding kept) _
        fun _ _ _ after => ⟨after, rfl⟩
  | share slot clones parallel =>
    simp only [Session.step]
    split
    · exact guarded.reply spans _
    · rename_i buffer found
      let shares : Shares Handle α := ⟨clones + 1, buffer⟩
      have kept := shares.leaveEach_keeps (upholds _ _ (guarded.buffer found)) session.world
        (clones + 1) 0
      exact (guarded.dropBuffer slot).call spans kept _ fun _ _ _ after => ⟨after, rfl⟩

theorem Guarded.step [Element α] (guarded : session.Guarded allowed good)
    (guards : Guards pools allowed good seen) (step : Step α) (within : step.Within allowed) :
    (session.step pools step).Guarded allowed good seen := by
  have spans := spans_holds good seen
  have secured : (session.step pools step).Secured allowed good
      fun handle => Holds good (seen handle) := by
    cases kind : step.isRaw with
    | false =>
      exact guarded.libraryStep spans (fun _ _ flag => (guards.maintains flag).upholds) step kind within
    | true =>
      cases step with
      | raw slot step => exact guarded.rawStep spans guards.rent guards.hand slot step within
      | build | describe | view | compare | inspect | giveUp | release | unwind | share
        | countIdle => cases kind
  refine ⟨secured.session, fun entry member => ?_⟩
  exact (secured.pools entry.1).2 entry.2 (Journal.mem_about.mpr member)

/-- Steps that hand back only what is allowed keep the session guarded. -/
theorem Guarded.follow [Element α] (guarded : session.Guarded allowed good)
    (guards : Guards pools allowed good seen) (steps : List (Step α))
    (within : ∀ step ∈ steps, step.Within allowed) :
    (session.follow pools steps).1.Guarded allowed good ∧
      ∀ entry ∈ (session.follow pools steps).2, seen entry.1 entry.2 := by
  induction steps generalizing session with
  | nil => exact ⟨guarded, nofun⟩
  | cons step rest ih =>
    obtain ⟨next, first⟩ := guarded.step guards step (within step List.mem_cons_self)
    obtain ⟨last, later⟩ := ih next fun other member => within other (List.mem_cons_of_mem _ member)
    refine ⟨last, fun entry member => ?_⟩
    rcases List.mem_append.mp member with now | after
    · exact first entry now
    · exact later entry after

end Session

end BufferRental
