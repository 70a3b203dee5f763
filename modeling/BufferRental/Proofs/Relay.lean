import BufferRental.Proofs.Custody
import BufferRental.Proofs.CutShort
import BufferRental.Proofs.Stock

/-! The calls of a population over a pool that answers every request and whose loans depend on the
request alone. They are the same in every state of the pool: one buffer is held at a time and is
replaced by longer ones, and the last one goes back too, by whatever path the population ends. -/
namespace BufferRental

open Act

/-- A pool that never panics and lends by a rule for as long as its state is good. -/
structure Pool.Steady (pool : Pool σ α) (grant : Nat → Nat) (good : σ → Prop) : Prop where
  enough : ∀ minLen, minLen ≤ grant minLen
  rent : ∀ minLen s, good s → ∃ slots next notes,
    pool.rent minLen s = ⟨.ok slots, next, notes⟩ ∧ slots.length = grant minLen ∧ good next
  takeBack : ∀ slots clear s, good s → ∃ answer next notes,
    pool.takeBack slots clear s = ⟨.ok answer, next, notes⟩ ∧ good next

def Pool.TakesIn (pool : Pool σ α) (good : σ → Prop) : Prop :=
  ∀ slots clear s, good s → good (pool.takeBack slots clear s).state

theorem Pool.Steady.takesIn {pool : Pool σ α} {grant : Nat → Nat} {good : σ → Prop}
    (steady : pool.Steady grant good) : pool.TakesIn good := by
  intro slots clear s fine
  obtain ⟨answer, next, notes, reply, kept⟩ := steady.takeBack slots clear s fine
  rw [reply]
  exact kept

/-- What one does who holds a buffer of this length: hand it back, or replace it by a longer one
first and go on with that. -/
inductive Relay (clear : Bool) : Nat → List Call → Prop where
  | last (current : Nat) : Relay clear current [.hand current clear]
  | replace {current longer : Nat} {rest : List Call} (request : Nat) (rises : current < longer)
      (later : Relay clear longer rest) :
    Relay clear current (.rent request (some longer) :: .hand current clear :: rest)

inductive Round (clear : Bool) : List Call → Prop where
  | nothing : Round clear []
  | first {length : Nat} {rest : List Call} (request : Nat) (later : Relay clear length rest) :
    Round clear (.rent request (some length) :: rest)

def Act.After (good : σ → Prop) (calls : List Call) (s : σ) (journal : Journal α) : Prop :=
  good s ∧ journal.calls = calls

/-- The state is good, and these calls are made once the buffers held are handed back. -/
def Act.Owing (good : σ → Prop) (clear : Bool) (held : List Nat) (calls : List Call) (s : σ)
    (journal : Journal α) : Prop :=
  good s ∧ journal.calls ++ held.map (.hand · clear) = calls

def Act.Holding (good : σ → Prop) (clear : Bool) (calls : List Call) (populated : Populated α)
    (s : σ) (journal : Journal α) : Prop :=
  ∃ slots, populated.slots = some slots ∧ Owing good clear [slots.length] calls s journal

namespace Act

variable {good : σ → Prop} {clear : Bool} {calls : List Call} {held : List Nat}

theorem After.owing {slots : List α} {length : Nat} (size : slots.length = length)
    {past : List Call} {s : σ} {journal : Journal α} (after : After good past s journal) :
    Owing good clear [slots.length] (past ++ [.hand length clear]) s journal :=
  ⟨after.1, by simp [after.2, size]⟩

theorem Holding.owing {populated : Populated α} {s : σ} {journal : Journal α}
    (holding : Holding good clear calls populated s journal) :
    Owing good clear populated.held calls s journal := by
  obtain ⟨slots, kept, owing⟩ := holding
  rw [Populated.held, kept]
  exact owing

theorem After.record {events : Journal α} (none : events.calls = [])
    {stop : Exit Empty → σ → Journal α → Prop} :
    Ensures (After good calls) (Act.record events) (fun _ => After good calls) stop := by
  apply ensures_record
  rintro s past ⟨fine, made⟩
  exact ⟨fine, by rw [Journal.calls_append, none, List.append_nil, made]⟩

theorem Owing.record {events : Journal α} (none : events.calls = [])
    {stop : Exit Empty → σ → Journal α → Prop} :
    Ensures (Owing good clear held calls) (Act.record events) (fun _ => Owing good clear held calls)
      stop := by
  apply ensures_record
  rintro s past ⟨fine, made⟩
  exact ⟨fine, by rw [Journal.calls_append, none, List.append_nil, made]⟩

end Act

namespace Pool.TakesIn

variable {pool : Pool σ α} {good : σ → Prop} {clear : Bool} {calls : List Call}

theorem giveBack (takesIn : pool.TakesIn good) (slots : List α) :
    Ensures (Owing good clear [slots.length] calls) (pool.giveBack slots clear)
      (fun _ => After good calls) fun _ => After good calls := by
  have kept {s next : σ} {result : Except Panic (Option RentalError)} {notes : List Note}
      (fine : good s) (reply : pool.takeBack slots clear s = ⟨result, next, notes⟩) : good next := by
    have after := takesIn slots clear s fine
    rwa [reply] at after
  apply ensures_giveBack
  · rintro s past next notes ⟨fine, made⟩ reply
    exact ⟨kept fine reply, by simp [← made, Event.call?]⟩
  · rintro s past error next notes ⟨fine, made⟩ reply
    exact ⟨kept fine reply, by simp [← made, Event.call?]⟩
  · rintro s past panic next notes ⟨fine, made⟩ reply
    exact ⟨kept fine reply, by simp [← made, Event.call?]⟩

/-- Settling keeps the buffer for its owner or hands it back; what is called in the end is the
same. -/
theorem settle (takesIn : pool.TakesIn good) {slots : List α} {exit : Exit (Populated α)}
    (ended : exit ≠ .aborted)
    (kept : ∀ populated, exit = .done populated → populated.slots = some slots) :
    Ensures (Owing good clear [slots.length] calls) (pool.settle clear slots exit)
      (Holding good clear calls) fun _ => After good calls := by
  cases exit with
  | done populated =>
    have own := kept populated rfl
    exact ensures_pure fun _ _ owing => ⟨slots, own, owing⟩
  | failed error =>
    apply ensures_bind (takesIn.giveBack slots)
    exact fun _ => ensures_fail fun _ _ => id
  | panicked panic =>
    apply ensures_whileUnwinding
    apply (takesIn.giveBack slots).stops
    intro ending _ _ after
    cases ending <;> exact after
  | aborted => exact absurd rfl ended

theorem settleFilling (takesIn : pool.TakesIn good) {filling : Filling α} {ending : Exit Unit} :
    Ensures (fun s j => Owing good clear [filling.slots.length] calls s j ∧ ending ≠ .aborted)
      (pool.settle clear filling.slots (ending.map fun _ => filling.populated))
      (Holding good clear calls) fun _ => After good calls := by
  refine ensures_given (fun _ _ start => start.2) fun ended => ?_
  apply (takesIn.settle _ _).before fun _ _ => And.left
  · cases ending <;> simp_all [Exit.map]
  · intro populated done
    cases ending <;> cases done
    rfl

theorem fillAtOnce (takesIn : pool.TakesIn good) {length : Nat} {slots : List α}
    {copy : List α → Copy α} (enough : length ≤ slots.length)
    (keeps : ∀ target, (copy target).target.length = target.length) :
    Ensures (Owing good clear [slots.length] calls) (pool.fillAtOnce clear length slots copy)
      (Holding good clear calls) fun _ => After good calls := by
  unfold Pool.fillAtOnce
  rw [if_neg (Nat.not_lt.mpr enough)]
  have filled : ((copy (slots.take length)).target ++ slots.drop length).length = slots.length := by
    simp only [List.length_append, keeps, List.length_take, List.length_drop]
    omega
  have offered : Ensures (Owing good clear [slots.length] calls)
      (record (.offered (slots.take length) :: (copy (slots.take length)).cloned.map .cloned))
      (fun _ => Owing good clear [((copy (slots.take length)).target ++ slots.drop length).length] calls)
      fun _ => After good calls := by
    rw [filled]
    exact Owing.record (by simp [Event.call?, Journal.calls])
  apply ensures_bind offered
  intro _
  apply takesIn.settle
  · cases (copy (slots.take length)).ending <;> simp [CopyEnding.exit, Exit.map]
  · intro populated done
    cases ending : (copy (slots.take length)).ending with
    | finished =>
      rw [ending] at done
      cases done
      rfl
    | failed | panicked => simp [ending, CopyEnding.exit, Exit.map] at done

theorem assignItems (good : σ → Prop) (clear : Bool) (calls : List Call) (room : Nat)
    (items : List (Yield α)) (filling : Filling α) :
    Ensures (Owing good clear [filling.slots.length] calls)
      (Pool.assignItems room items filling : Act σ α (Filling α × Exit Unit))
      (fun made s j => Owing good clear [made.1.slots.length] calls s j ∧ made.2 ≠ .aborted)
      fun _ _ _ => False := by
  induction items generalizing filling with
  | nil => exact ensures_pure fun _ _ start => ⟨start, by simp⟩
  | cons turn rest ih =>
    unfold Pool.assignItems
    split
    · exact ensures_pure fun _ _ start => ⟨start, by simp⟩
    · apply ensures_bind (Owing.record (by simp [Event.call?]))
      intro _
      cases turn with
      | panic text => exact ensures_pure fun _ _ start => ⟨start, by simp⟩
      | item value =>
        have next := ih (filling.put value)
        rw [Filling.length_put] at next
        exact next

/-- A population that does not grow keeps its one buffer or hands it back. -/
theorem fill [Element α] (takesIn : pool.TakesIn good) {capacity : Nat} {method : Method α}
    (fixed : method.heedsCapacity = false) {slots : List α}
    (enough : method.firstLen capacity ≤ slots.length) :
    Ensures (Owing good clear [slots.length] calls) (pool.fill clear method slots)
      (Holding good clear calls) fun _ => After good calls := by
  cases method with
  | collect | tryCollect => cases fixed
  | withCount count => exact ensures_pure fun _ _ owing => ⟨slots, rfl, owing⟩
  | copySlice source => exact takesIn.fillAtOnce enough (length_cloneRun source)
  | copyFrom source => exact takesIn.fillAtOnce enough source.length_copyTo
  | collectExact reported items =>
    have assigned := assignItems good clear calls reported items (.start slots)
    exact ensures_bind assigned.unstopped fun made => takesIn.settleFilling

end Pool.TakesIn

namespace Pool.Steady

variable {pool : Pool σ α} {grant : Nat → Nat} {good : σ → Prop} {clear : Bool}
  {past calls : List Call}

theorem rentChecked (steady : pool.Steady grant good) (minLen : Nat) :
    Ensures (After good past) (pool.rentChecked minLen)
      (fun slots s j => slots.length = grant minLen ∧
        After good (past ++ [.rent minLen (some (grant minLen))]) s j)
      fun _ _ _ => False := by
  apply ensures_rentChecked_of_lends
  rintro s j ⟨fine, made⟩
  obtain ⟨slots, next, notes, reply, length, kept⟩ := steady.rent minLen s fine
  have enough : minLen ≤ slots.length := length ▸ steady.enough minLen
  exact ⟨slots, next, notes, reply, enough, length, kept, by simp [made, Event.call?, length]⟩

theorem giveBack (steady : pool.Steady grant good) (slots : List α) :
    Ensures (Owing good clear [slots.length] calls) (pool.giveBack slots clear)
      (fun _ => After good calls) fun _ _ _ => False := by
  apply ensures_giveBack_of_answers
  rintro s j ⟨fine, made⟩
  obtain ⟨answer, next, notes, reply, kept⟩ := steady.takeBack slots clear s fine
  refine ⟨answer, next, notes, reply, ?_, ?_⟩
  · intro _
    exact ⟨kept, by simp [← made, Event.call?]⟩
  · intro _ _
    exact ⟨kept, by simp [← made, Event.call?]⟩

/-- A full buffer at the limit stays; below it, the next length is asked for, and the buffer at hand
goes back for the one that is lent. -/
theorem grow (steady : pool.Steady grant good) {limit asked : Nat} {filling : Filling α}
    (next : nextLen filling.slots.length limit = some asked) (larger : filling.slots.length < asked)
    (bound : filling.written ≤ filling.slots.length) :
    Ensures (After good past) (pool.grow clear limit filling)
      (fun made s j => made.2 = .done () ∧ made.1.written = filling.written ∧
        made.1.slots.length = grant asked ∧
        After good (past ++ [.rent asked (some (grant asked)), .hand filling.slots.length clear]) s j)
      fun _ _ _ => False := by
  unfold Pool.grow
  dsimp only
  rw [next]
  dsimp only
  apply ensures_bind (After.record (by simp [Event.call?]))
  intro _
  apply ensures_bind (ensures_attempt_satisfies (steady.rentChecked asked))
  intro exit
  cases exit with
  | failed | panicked | aborted => exact ensures_given (fun _ _ => id) False.elim
  | done slots =>
    refine ensures_given (fun _ _ start => start.1) fun length => ?_
    have enough := steady.enough asked
    have reach : filling.written ≤ slots.length := by omega
    obtain ⟨grown, outgrown, moved, written, size, old⟩ := Filling.moveInto_lengths bound reach
    dsimp only
    rw [moved]
    have back : Ensures (Owing good clear [outgrown.length]
        (past ++ [.rent asked (some (grant asked)), .hand filling.slots.length clear]))
        (pool.giveBack outgrown clear) _ _ := steady.giveBack outgrown
    refine ensures_bind ((ensures_attempt_satisfies back).before ?_) fun ending => ?_
    · rintro s j ⟨_, fine, made⟩
      exact ⟨fine, by simp [made, old]⟩
    · apply ensures_pure
      intro s j after
      cases ending with
      | done _ => exact ⟨rfl, written, size.trans length, after⟩
      | failed | panicked | aborted => exact after.elim

omit pool grant in
theorem ends {filling : Filling α} {length : Nat} (size : filling.slots.length = length)
    (ending : Exit Unit) (ended : ending ≠ .aborted) {stop : Exit Empty → σ → Journal α → Prop} :
    Ensures (After good past) (return (filling, ending))
      (fun made s j => Owing good clear [made.1.slots.length] (past ++ [.hand length clear]) s j ∧
        made.2 ≠ .aborted) stop := by
  apply ensures_pure
  rintro s j ⟨fine, made⟩
  exact ⟨⟨fine, by simp [made, size]⟩, ended⟩

/-- What will be called in taking the items follows from them, from the length of the buffer, and
from how much of it is written. -/
theorem appendItems (steady : pool.Steady grant good) {limit : Nat} (word : limit ≤ maxWord)
    (items : List (Yield (Except String α))) {written length : Nat} (bound : written ≤ length)
    (positive : 0 < length) :
    ∃ calls, Relay clear length calls ∧ ∀ (filling : Filling α) past, filling.written = written →
      filling.slots.length = length →
      Ensures (After good past) (pool.appendItems clear limit items filling)
        (fun made s j => Owing good clear [made.1.slots.length] (past ++ calls) s j ∧
          made.2 ≠ .aborted) fun _ _ _ => False := by
  -- the calls of the later items are fixed before the contents of the buffer are known
  induction items generalizing written length with
  | nil => exact ⟨_, .last length, fun filling past _ size => ends size (.done ()) (by simp)⟩
  | cons turn rest ih =>
    rcases turn with (text | value) | text
    · refine ⟨_, .last length, fun filling past _ size => ?_⟩
      apply ensures_bind (After.record (by simp [Event.call?]))
      exact fun _ => ends size (.failed _) (by simp)
    · by_cases room : written < length
      · obtain ⟨calls, relay, taken⟩ := ih (Nat.succ_le_of_lt room) positive
        refine ⟨calls, relay, fun filling past same size => ?_⟩
        have notFull : filling.isFull = false := Filling.isFull_eq_false_iff.mpr (by omega)
        rw [appendItems_value, makeRoom, notFull]
        apply ensures_bind (After.record (by simp [Event.call?]))
        intro _
        simp only [Bool.false_eq_true, if_false, Act.pure_bind, putNext, notFull]
        exact taken (filling.put value) past (by simp [same]) (by simp [size])
      · have full (filling : Filling α) (same : filling.written = written)
            (size : filling.slots.length = length) : filling.isFull = true :=
          Filling.isFull_iff.mpr (by omega)
        cases next : nextLen length limit with
        | none =>
          refine ⟨_, .last length, fun filling past same size => ?_⟩
          rw [appendItems_value, makeRoom, full filling same size, Pool.grow, size, next]
          apply ensures_bind (After.record (by simp [Event.call?]))
          exact fun _ => ends size (.failed _) (by simp)
        | some asked =>
          obtain ⟨below, doubled⟩ := (nextLen_eq_some_iff word).mp next
          have larger : length < asked := by omega
          have granted := steady.enough asked
          have wider : written + 1 ≤ grant asked := by omega
          obtain ⟨calls, relay, taken⟩ := ih wider (Nat.zero_lt_of_lt wider)
          refine ⟨_, relay.replace asked (Nat.lt_of_lt_of_le larger granted), ?_⟩
          intro filling past same size
          rw [appendItems_value, makeRoom, full filling same size, if_pos rfl]
          apply ensures_bind (After.record (by simp [Event.call?]))
          intro _
          subst size
          apply ensures_bind (steady.grow next larger (same ▸ bound))
          rintro ⟨made, ending⟩
          refine ensures_given (fun _ _ start => And.intro start.1 (And.intro start.2.1 start.2.2.1)) ?_
          rintro ⟨done, (kept : made.written = _), (size : made.slots.length = _)⟩
          cases done
          have notFull : made.isFull = false := Filling.isFull_eq_false_iff.mpr (by omega)
          simp only [putNext, notFull, Bool.false_eq_true, if_false]
          have later := taken (made.put value)
            (past ++ [.rent asked (some (grant asked)), .hand filling.slots.length clear])
            (by simp [kept, same]) (by simp [size])
          rw [List.append_assoc] at later
          exact later.before fun _ _ start => start.2.2.2
    · refine ⟨_, .last length, fun filling past _ size => ?_⟩
      apply ensures_bind (After.record (by simp [Event.call?]))
      exact fun _ => ends size (.panicked _) (by simp)

end Pool.Steady

namespace Pool

/-- In every good state the act makes the calls of the same round, once its buffer is handed back. -/
def Orderly (good : σ → Prop) (clear : Bool) (act : Act σ α (Populated α)) : Prop :=
  ∃ calls, Round clear calls ∧ Ensures (After good []) act
    (fun populated => Owing good clear populated.held calls) fun _ => After good calls

variable {pool : Pool σ α} {grant : Nat → Nat} {good : σ → Prop} {clear : Bool}

namespace Steady

variable [Element α]

/-- Filled from a buffer of this length on, a population makes these calls in the end. -/
def Fills (good : σ → Prop) (clear : Bool) (length : Nat) (calls : List Call)
    (fill : List α → Act σ α (Populated α)) : Prop :=
  ∀ (slots : List α) past, slots.length = length → Ensures (After good past) (fill slots)
    (Holding good clear (past ++ calls)) fun _ => After good (past ++ calls)

theorem appendAll (steady : pool.Steady grant good) (items : List (Yield (Except String α)))
    {length : Nat} (positive : 0 < length) :
    ∃ calls, Relay clear length calls ∧ Fills good clear length calls fun slots =>
      pool.appendItems clear (Element.maxLen α) items (.start slots) >>= fun made =>
        pool.settle clear made.1.slots (made.2.map fun _ => made.1.populated) := by
  obtain ⟨calls, relay, taken⟩ := steady.appendItems (Element.maxLen_le_maxWord α) items
    (Nat.zero_le _) positive
  refine ⟨calls, relay, fun slots past size => ?_⟩
  exact ensures_bind (taken (.start slots) past rfl size).unstopped
    fun made => steady.takesIn.settleFilling

/-- What will be called in filling a buffer follows from its length and the method. -/
theorem fill (steady : pool.Steady grant good) (clear : Bool) {capacity : Nat} {method : Method α}
    (positive : 0 < method.firstLen capacity) :
    ∃ calls, Relay clear (grant (method.firstLen capacity)) calls ∧
      Fills good clear (grant (method.firstLen capacity)) calls (pool.fill clear method) := by
  have enough := steady.enough (method.firstLen capacity)
  have room : 0 < grant (method.firstLen capacity) := Nat.lt_of_lt_of_le positive enough
  have fixed (kind : method.heedsCapacity = false) : Fills good clear
      (grant (method.firstLen capacity)) [.hand (grant (method.firstLen capacity)) clear]
      (pool.fill clear method) := by
    intro slots past size
    exact (steady.takesIn.fill kind (size ▸ enough)).before fun _ _ => After.owing size
  cases method with
  | withCount | copySlice | copyFrom | collectExact => exact ⟨_, .last _, fixed rfl⟩
  | collect items => exact steady.appendAll _ room
  | tryCollect items => exact steady.appendAll items room

end Steady

end Pool

namespace Settings

variable [Element α] {pools : ι → Pool σ α} {settings : Settings ι} {grant : Nat → Nat}
  {good : σ → Prop}

theorem populate_orderly (steady : (pools settings.handle).Steady grant good) (method : Method α) :
    Pool.Orderly good (settings.clear α) (settings.populate pools method) := by
  have measured {stop : Exit Empty → σ → Journal α → Prop} : Ensures (After good [])
      (record method.measurement) (fun _ => After good []) stop :=
    After.record (by cases method <;> rfl)
  by_cases rents : method.Admitted settings.suggestedCapacity ∧
      0 < method.firstLen settings.suggestedCapacity
  · obtain ⟨admitted, positive⟩ := rents
    obtain ⟨calls, relay, filled⟩ := steady.fill (settings.clear α) positive
    refine ⟨_, .first (method.firstLen settings.suggestedCapacity) relay, ?_⟩
    apply ensures_populate measured
    · intro parameter length checked long
      exact absurd (admitted parameter length checked) (Nat.not_le.mpr long)
    · intro zero
      exact absurd zero (Nat.ne_of_gt positive)
    · exact fun _ _ => (steady.rentChecked _).unstopped
    · intro _ slots
      refine ensures_given (fun _ _ start => start.1) fun size => ?_
      exact (filled slots _ size).imp (fun _ _ => And.right) (fun _ _ _ => Holding.owing)
        fun _ _ _ => id
  · refine ⟨[], .nothing, ?_⟩
    apply ensures_populate measured
    · exact fun _ _ _ _ _ _ => id
    · exact fun _ _ _ start => ⟨start.1, by simp [start.2, Populated.held]⟩
    · exact fun admitted positive => absurd ⟨admitted, positive⟩ rents
    · exact fun _ _ => ensures_given (fun _ _ never => never) False.elim

/-- Whatever state the pool is in, a population whose buffer is given up makes the same calls, also
if it fails. -/
theorem buildAndGiveUp_calls (steady : (pools settings.handle).Steady grant good)
    (method : Method α) : ∃ calls, Round (settings.clear α) calls ∧ ∀ s, good s →
      ((settings.buildAndGiveUp pools method).run s).journal.calls = calls := by
  obtain ⟨calls, round, populated⟩ := populate_orderly steady method
  refine ⟨calls, round, fun s fine => ?_⟩
  have whole : Ensures (fun s j => After good [] s j ∧ j.traffic = [])
      (settings.buildAndGiveUp pools method) (fun _ => After good calls)
      fun _ => After good calls := by
    rw [buildAndGiveUp_eq_populate]
    have both := populated.and (Act.populate_books pools settings method)
    apply ensures_bind (both.stops fun _ _ _ => And.left)
    intro populated
    apply ensures_given fun _ _ start => start.2.1.bound
    intro fits
    unfold Buffer.ofPopulated
    rw [dif_pos fits, Act.pure_bind]
    rcases populated with ⟨slots, count⟩
    cases slots with
    | none =>
      rw [Buffer.giveUp_of_none pools rfl]
      apply ensures_pure
      rintro s j ⟨⟨fine, made⟩, _⟩
      exact ⟨fine, by simpa [Populated.held] using made⟩
    | some slots =>
      rw [Buffer.giveUp_of_some pools rfl]
      exact ((steady.giveBack slots).before fun _ _ => And.left).unstopped
  exact (whole.ended s [] ⟨⟨fine, rfl⟩, rfl⟩).2

end Settings

end BufferRental
