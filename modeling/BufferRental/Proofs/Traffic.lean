import BufferRental.Settings

/-! What a call does with buffers, read off its journal, and triples for acts. A triple speaks of
the pool and of the journal so far, so that a statement about a whole call is put together from
statements about its parts. It says of every ending what then holds, also of a panic. -/
namespace BufferRental

/-- The buffer that a pool lent, if it is as long as asked. -/
def Event.lent? : Event α → Option (List α)
  | .rented request (some slots) => if request ≤ slots.length then some slots else none
  | _ => none

def Event.handed? : Event α → Option (List α)
  | .returned slots _ _ => some slots
  | _ => none

inductive Call where
  | rent (request : Nat) (granted : Option Nat)
  | hand (length : Nat) (clear : Bool)
  deriving DecidableEq

def Event.call? : Event α → Option Call
  | .rented request granted => some (.rent request (granted.map List.length))
  | .returned slots clear _ => some (.hand slots.length clear)
  | _ => none

/-- The pool did nothing wrong: it did not panic and lent no buffer shorter than asked. -/
def Event.served : Event α → Bool
  | .rented _ none => false
  | .rented request (some slots) => request ≤ slots.length
  | .returned _ _ .panicked => false
  | _ => true

namespace Journal

def lent (journal : Journal α) : List (List α) := journal.filterMap Event.lent?

def handed (journal : Journal α) : List (List α) := journal.filterMap Event.handed?

def calls (journal : Journal α) : List Call := journal.filterMap Event.call?

def Served (journal : Journal α) : Prop := ∀ event ∈ journal, event.served = true

instance (journal : Journal α) : Decidable journal.Served :=
  inferInstanceAs (Decidable (∀ event ∈ journal, event.served = true))

@[simp] theorem lent_nil : lent ([] : Journal α) = [] := rfl

@[simp] theorem handed_nil : handed ([] : Journal α) = [] := rfl

@[simp] theorem calls_nil : calls ([] : Journal α) = [] := rfl

@[simp] theorem served_nil : Served ([] : Journal α) := nofun

@[simp] theorem lent_append (first second : Journal α) :
    lent (first ++ second) = lent first ++ lent second := List.filterMap_append

@[simp] theorem handed_append (first second : Journal α) :
    handed (first ++ second) = handed first ++ handed second := List.filterMap_append

@[simp] theorem calls_append (first second : Journal α) :
    calls (first ++ second) = calls first ++ calls second := List.filterMap_append

theorem filterMap_cons_toList (read : Event α → Option β) (event : Event α) (rest : Journal α) :
    (event :: rest).filterMap read = (read event).toList ++ rest.filterMap read := by
  cases kept : read event <;> simp [kept]

@[simp] theorem lent_cons (event : Event α) (rest : Journal α) :
    lent (event :: rest) = event.lent?.toList ++ lent rest := filterMap_cons_toList ..

@[simp] theorem handed_cons (event : Event α) (rest : Journal α) :
    handed (event :: rest) = event.handed?.toList ++ handed rest := filterMap_cons_toList ..

@[simp] theorem calls_cons (event : Event α) (rest : Journal α) :
    calls (event :: rest) = event.call?.toList ++ calls rest := filterMap_cons_toList ..

/-- Entries of the log have no part in what is read off calls only. -/
theorem filterMap_notes {read : Event α → Option β} (silent : ∀ note, read (.noted note) = none)
    (notes : List Note) : (notes.map Event.noted).filterMap read = [] := by
  rw [List.filterMap_map, List.filterMap_eq_nil_iff]
  intro note _
  exact silent note

@[simp] theorem lent_notes (notes : List Note) :
    lent (notes.map Event.noted : Journal α) = [] := filterMap_notes (fun _ => rfl) notes

@[simp] theorem handed_notes (notes : List Note) :
    handed (notes.map Event.noted : Journal α) = [] := filterMap_notes (fun _ => rfl) notes

@[simp] theorem calls_notes (notes : List Note) :
    calls (notes.map Event.noted : Journal α) = [] := filterMap_notes (fun _ => rfl) notes

@[simp] theorem served_append (first second : Journal α) :
    Served (first ++ second) ↔ Served first ∧ Served second := List.forall_mem_append

@[simp] theorem served_cons (event : Event α) (rest : Journal α) :
    Served (event :: rest) ↔ event.served = true ∧ Served rest := List.forall_mem_cons

@[simp] theorem served_notes (notes : List Note) :
    Served (notes.map Event.noted : Journal α) := by
  simp [Served, Event.served]

@[simp] theorem traffic_append (first second : Journal α) :
    traffic (first ++ second) = traffic first ++ traffic second := List.filter_append ..

@[simp] theorem traffic_notes (notes : List Note) :
    traffic (notes.map Event.noted : Journal α) = [] := by
  simp [traffic, isTraffic, List.filter_map]

theorem returns_eq_length_handed (journal : Journal α) : journal.returns = journal.handed.length := by
  induction journal with
  | nil => rfl
  | cons event rest ih =>
    have counted : returns (event :: rest) = returns rest + if isReturn event then 1 else 0 :=
      List.countP_cons
    rw [counted, ih]
    cases event <;> simp [isReturn, Event.handed?, Nat.add_comm]

/-- A journal without traffic has no part in what is lent and handed back. -/
theorem lent_of_traffic_nil {journal : Journal α} (still : journal.traffic = []) :
    journal.lent = [] ∧ journal.handed = [] := by
  induction journal with
  | nil => exact ⟨rfl, rfl⟩
  | cons event rest ih =>
    cases event <;> simp_all [traffic, isTraffic, Event.lent?, Event.handed?]

end Journal

def Exit.Satisfies (exit : Exit β) (post : β → Prop) (stop : Exit Empty → Prop) : Prop :=
  match exit with
  | .done value => post value
  | .failed error => stop (.failed error)
  | .panicked panic => stop (.panicked panic)
  | .aborted => stop .aborted

theorem Exit.Satisfies.imp {exit : Exit β} {post post' : β → Prop} {stop stop' : Exit Empty → Prop}
    (satisfies : exit.Satisfies post stop) (after : ∀ value, post value → post' value)
    (stopped : ∀ ending, stop ending → stop' ending) : exit.Satisfies post' stop' := by
  cases exit with
  | done value => exact after value satisfies
  | failed | panicked | aborted => exact stopped _ satisfies

def Exit.raised (stop : Exit Empty) : Exit β := stop.map fun never => nomatch never

namespace Act

/-- If `pre` holds of the pool and of the journal so far, then the act ends with a value for which
`post` holds of the pool and the journal after it, or it stops and `stop` holds of them. -/
def Ensures (pre : σ → Journal α → Prop) (act : Act σ α β) (post : β → σ → Journal α → Prop)
    (stop : Exit Empty → σ → Journal α → Prop) : Prop :=
  ∀ s past, pre s past → (act.run s).exit.Satisfies
    (fun value => post value (act.run s).state (past ++ (act.run s).journal))
    (fun ending => stop ending (act.run s).state (past ++ (act.run s).journal))

variable {pre : σ → Journal α → Prop} {post : β → σ → Journal α → Prop}
  {stop : Exit Empty → σ → Journal α → Prop}

theorem ensures_pure {value : β} (held : ∀ s past, pre s past → post value s past) :
    Ensures pre (Pure.pure value) post stop := by
  intro s past start
  simpa [Exit.Satisfies] using held s past start

theorem ensures_leave {ending : Exit Empty} (held : ∀ s past, pre s past → stop ending s past) :
    Ensures pre (leave (ending.raised : Exit β)) post stop := by
  intro s past start
  have after := held s past start
  cases ending with
  | done never => exact nomatch never
  | failed | panicked | aborted => simpa [Exit.Satisfies, Exit.raised, Exit.map] using after

theorem ensures_fail {error : RentalError}
    (held : ∀ s past, pre s past → stop (.failed error) s past) :
    Ensures pre (fail error : Act σ α β) post stop := ensures_leave held

theorem ensures_raise {panic : Panic}
    (held : ∀ s past, pre s past → stop (.panicked panic) s past) :
    Ensures pre (raise panic : Act σ α β) post stop := ensures_leave held

theorem ensures_abort (held : ∀ s past, pre s past → stop .aborted s past) :
    Ensures pre (leave .aborted : Act σ α β) post stop := ensures_leave held

theorem ensures_record {events : Journal α} {post : Unit → σ → Journal α → Prop}
    (held : ∀ s past, pre s past → post () s (past ++ events)) :
    Ensures pre (record events) post stop := by
  intro s past start
  simpa [Exit.Satisfies] using held s past start

theorem ensures_bind {act : Act σ α β} {next : β → Act σ α γ} {mid : β → σ → Journal α → Prop}
    {post : γ → σ → Journal α → Prop} (first : Ensures pre act mid stop)
    (rest : ∀ value, Ensures (mid value) (next value) post stop) :
    Ensures pre (act >>= next) post stop := by
  intro s past start
  have middle := first s past start
  rcases ran : act.run s with ⟨exit, state, journal⟩
  rw [ran] at middle
  simp only [run_bind, bind, ran]
  cases exit with
  | done value => simpa using rest value state _ middle
  | failed | panicked | aborted => exact middle

theorem Ensures.imp {act : Act σ α β} {pre' : σ → Journal α → Prop}
    {post' : β → σ → Journal α → Prop} {stop' : Exit Empty → σ → Journal α → Prop}
    (triple : Ensures pre act post stop) (before : ∀ s past, pre' s past → pre s past)
    (after : ∀ value s past, post value s past → post' value s past)
    (stopped : ∀ ending s past, stop ending s past → stop' ending s past) :
    Ensures pre' act post' stop' :=
  fun s past start => (triple s past (before s past start)).imp (fun _ => after _ _ _)
    fun _ => stopped _ _ _

theorem Ensures.before {act : Act σ α β} {pre' : σ → Journal α → Prop}
    (triple : Ensures pre act post stop) (start : ∀ s past, pre' s past → pre s past) :
    Ensures pre' act post stop :=
  triple.imp start (fun _ _ _ => id) fun _ _ _ => id

theorem Ensures.after {act : Act σ α β} {post' : β → σ → Journal α → Prop}
    (triple : Ensures pre act post stop)
    (ended : ∀ value s past, post value s past → post' value s past) :
    Ensures pre act post' stop :=
  triple.imp (fun _ _ => id) ended fun _ _ _ => id

theorem Ensures.stops {act : Act σ α β} {stop' : Exit Empty → σ → Journal α → Prop}
    (triple : Ensures pre act post stop)
    (stopped : ∀ ending s past, stop ending s past → stop' ending s past) :
    Ensures pre act post stop' :=
  triple.imp (fun _ _ => id) (fun _ _ _ => id) stopped

/-- An act that cannot stop meets every promise about stops. -/
theorem Ensures.unstopped {act : Act σ α β} (triple : Ensures pre act post fun _ _ _ => False) :
    Ensures pre act post stop := triple.stops fun _ _ _ => False.elim

theorem Ensures.and {act : Act σ α β} {pre pre' : σ → Journal α → Prop}
    {post post' : β → σ → Journal α → Prop} {stop stop' : Exit Empty → σ → Journal α → Prop}
    (first : Ensures pre act post stop) (second : Ensures pre' act post' stop') :
    Ensures (fun s j => pre s j ∧ pre' s j) act (fun value s j => post value s j ∧ post' value s j)
      fun ending s j => stop ending s j ∧ stop' ending s j := by
  rintro s past ⟨start, start'⟩
  have after := first s past start
  have after' := second s past start'
  cases ran : (act.run s).exit <;> rw [ran] at after after' <;> exact ⟨after, after'⟩

/-- What is promised of every way of ending holds in the end. -/
theorem Ensures.ended {act : Act σ α β} {last : σ → Journal α → Prop}
    (triple : Ensures pre act (fun _ => last) fun _ => last) (s : σ) (past : Journal α)
    (start : pre s past) :
    last (act.run s).state (past ++ (act.run s).journal) := by
  have after := triple s past start
  cases ran : (act.run s).exit <;> rw [ran] at after <;> exact after

theorem ensures_attempt {act : Act σ α β} {post : Exit β → σ → Journal α → Prop}
    (first : Ensures pre act (fun value => post (.done value)) fun ending => post ending.raised) :
    Ensures pre (attempt act) post stop := by
  intro s past start
  have after := first s past start
  simp only [run_attempt]
  cases ran : (act.run s).exit <;> rw [ran] at after <;> exact after

/-- An attempt keeps what is promised of either way of ending. -/
theorem ensures_attempt_satisfies {act : Act σ α β} {past : Exit Empty → σ → Journal α → Prop}
    (first : Ensures pre act post stop) :
    Ensures pre (attempt act)
      (fun exit s j => exit.Satisfies (fun value => post value s j) fun ending => stop ending s j)
      past := by
  refine ensures_attempt (first.stops fun ending _ _ stopped => ?_)
  cases ending with
  | done never => exact nomatch never
  | failed | panicked | aborted => exact stopped

/-- Likewise for an act that cannot end in an abort, where all stops are promised the same. -/
theorem ensures_attempt_unaborted {act : Act σ α β} {rest : σ → Journal α → Prop}
    {past : Exit Empty → σ → Journal α → Prop}
    (first : Ensures pre act post fun ending s j => ending ≠ .aborted ∧ rest s j) :
    Ensures pre (attempt act)
      (fun exit s j => exit ≠ .aborted ∧ match exit with
        | .done value => post value s j
        | _ => rest s j) past := by
  refine ensures_attempt (first.imp (fun _ _ => id) (fun _ _ _ after => ⟨nofun, after⟩) ?_)
  intro ending _ _ stopped
  cases ending with
  | done never => exact nomatch never
  | failed | panicked => exact ⟨nofun, stopped.2⟩
  | aborted => exact absurd rfl stopped.1

theorem ensures_given {act : Act σ α β} {fact : Prop} (known : ∀ s past, pre s past → fact)
    (triple : fact → Ensures pre act post stop) : Ensures pre act post stop :=
  fun s past start => triple (known s past start) s past start

/-- What no further event can undo is kept by any act. -/
theorem ensures_kept {claim : Journal α → Prop} (kept : ∀ j new, claim j → claim (j ++ new))
    (act : Act σ α β) :
    Ensures (fun _ => claim) act (fun _ _ => claim) fun _ _ => claim := by
  intro s past start
  have after := kept past (act.run s).journal start
  cases (act.run s).exit with
  | done | failed | panicked | aborted => exact after

/-- A panic goes on unwinding after a clean-up that ends or fails; otherwise everything ends. -/
theorem ensures_whileUnwinding {panic : Panic} {cleanUp : Act σ α Unit}
    (cleaned : Ensures pre cleanUp (fun _ => stop (.panicked panic)) fun
      | .failed _ => stop (.panicked panic)
      | _ => stop .aborted) :
    Ensures pre (whileUnwinding panic cleanUp : Act σ α β) post stop := by
  have attempted : Ensures pre (attempt cleanUp) (fun
      | .done () | .failed _ => stop (.panicked panic)
      | _ => stop .aborted) stop := by
    apply ensures_attempt
    intro s past start
    have after := cleaned s past start
    cases ran : (cleanUp.run s).exit <;> rw [ran] at after <;> exact after
  refine ensures_bind attempted fun exit => ?_
  cases exit with
  | panicked _ | aborted => exact ensures_abort fun _ _ => id
  | done _ | failed _ => exact ensures_raise fun _ _ => id

/-- An error that cannot be answered is met as a panic. -/
theorem ensures_expect {act : Act σ α β}
    (first : Ensures pre act post fun
      | .failed error => stop (.panicked (.unanswerable error))
      | ending => stop ending) : Ensures pre act.expect post stop := by
  have attempted : Ensures pre (attempt act) (fun
      | .done value => post value
      | .failed error => stop (.panicked (.unanswerable error))
      | .panicked panic => stop (.panicked panic)
      | .aborted => stop .aborted) stop := by
    apply ensures_attempt
    intro s past start
    have after := first s past start
    cases ran : (act.run s).exit <;> rw [ran] at after <;> exact after
  refine ensures_bind attempted fun exit => ?_
  cases exit with
  | done value => exact ensures_pure fun _ _ => id
  | failed error => exact ensures_raise fun _ _ => id
  | panicked panic => exact ensures_raise fun _ _ => id
  | aborted => exact ensures_abort fun _ _ => id

end Act

namespace Pool

open Act

variable {pool : Pool σ α} {pre : σ → Journal α → Prop} {stop : Exit Empty → σ → Journal α → Prop}

/-- The three endings of a checked request: a buffer that is long enough, one that is too short,
and a panic of the pool. -/
theorem ensures_rentChecked {minLen : Nat} {post : List α → σ → Journal α → Prop}
    (served : ∀ s past slots next notes, pre s past →
      pool.rent minLen s = ⟨.ok slots, next, notes⟩ → minLen ≤ slots.length →
      post slots next (past ++ .rented minLen (some slots) ::
        (notes.map .noted ++ [.noted (.rented minLen slots.length)])))
    (short : ∀ s past slots next notes, pre s past →
      pool.rent minLen s = ⟨.ok slots, next, notes⟩ → slots.length < minLen →
      stop (.panicked (.shortGrant minLen slots.length)) next
        (past ++ .rented minLen (some slots) :: notes.map .noted))
    (failed : ∀ s past panic next notes, pre s past →
      pool.rent minLen s = ⟨.error panic, next, notes⟩ →
      stop (.panicked panic) next (past ++ .rented minLen none :: notes.map .noted)) :
    Ensures pre (pool.rentChecked minLen) post stop := by
  intro s past start
  rcases reply : pool.rent minLen s with ⟨result, next, notes⟩
  cases result with
  | error panic =>
    simpa [rentChecked, run_bind, Act.bind, rentAny, reply, Exit.Satisfies] using
      failed s past panic next notes start reply
  | ok slots =>
    by_cases enough : minLen ≤ slots.length
    · simpa [rentChecked, run_bind, Act.bind, rentAny, reply, Exit.Satisfies, note,
        Nat.not_lt.mpr enough, -bind_pure_comp] using served s past slots next notes start reply enough
    · simpa [rentChecked, run_bind, Act.bind, rentAny, reply, Exit.Satisfies, raise,
        Nat.not_le.mp enough] using
        short s past slots next notes start reply (Nat.not_le.mp enough)

/-- A checked request to a pool that lends enough. -/
theorem ensures_rentChecked_of_lends {minLen : Nat} {post : List α → σ → Journal α → Prop}
    (lends : ∀ s past, pre s past → ∃ slots next notes,
      pool.rent minLen s = ⟨.ok slots, next, notes⟩ ∧ minLen ≤ slots.length ∧
        post slots next (past ++ .rented minLen (some slots) ::
          (notes.map .noted ++ [.noted (.rented minLen slots.length)]))) :
    Ensures pre (pool.rentChecked minLen) post stop := by
  apply ensures_rentChecked
  · intro s past slots next notes start reply _
    obtain ⟨_, _, _, same, _, after⟩ := lends s past start
    cases reply.symm.trans same
    exact after
  · intro s past slots next notes start reply short
    obtain ⟨_, _, _, same, enough, _⟩ := lends s past start
    cases reply.symm.trans same
    exact absurd short (Nat.not_lt.mpr enough)
  · intro s past panic next notes start reply
    obtain ⟨_, _, _, same, _⟩ := lends s past start
    cases reply.symm.trans same

/-- The three endings of a return: the pool takes the buffer, refuses it, or panics. -/
theorem ensures_giveBack {slots : List α} {clear : Bool} {post : Unit → σ → Journal α → Prop}
    (accepted : ∀ s past next notes, pre s past →
      pool.takeBack slots clear s = ⟨.ok none, next, notes⟩ →
      post () next (past ++ .returned slots clear .accepted :: notes.map .noted))
    (refused : ∀ s past error next notes, pre s past →
      pool.takeBack slots clear s = ⟨.ok (some error), next, notes⟩ →
      post () next (past ++ .returned slots clear (.refused error) ::
        (notes.map .noted ++ [.noted (.returnRejected error)])))
    (failed : ∀ s past panic next notes, pre s past →
      pool.takeBack slots clear s = ⟨.error panic, next, notes⟩ →
      stop (.panicked panic) next (past ++ .returned slots clear .panicked :: notes.map .noted)) :
    Ensures pre (pool.giveBack slots clear) post stop := by
  intro s past start
  rcases reply : pool.takeBack slots clear s with ⟨result, next, notes⟩
  rcases result with panic | (_ | error)
  · simpa [giveBack, run_bind, Act.bind, handBack, reply, Exit.Satisfies] using
      failed s past panic next notes start reply
  · simpa [giveBack, run_bind, Act.bind, handBack, reply, Exit.Satisfies] using
      accepted s past next notes start reply
  · simpa [giveBack, run_bind, Act.bind, handBack, reply, Exit.Satisfies, note] using
      refused s past error next notes start reply

/-- A return to a pool that answers. -/
theorem ensures_giveBack_of_answers {slots : List α} {clear : Bool}
    {post : Unit → σ → Journal α → Prop}
    (answers : ∀ s past, pre s past → ∃ answer next notes,
      pool.takeBack slots clear s = ⟨.ok answer, next, notes⟩ ∧
        (answer = none →
          post () next (past ++ .returned slots clear .accepted :: notes.map .noted)) ∧
        ∀ error, answer = some error →
          post () next (past ++ .returned slots clear (.refused error) ::
            (notes.map .noted ++ [.noted (.returnRejected error)]))) :
    Ensures pre (pool.giveBack slots clear) post stop := by
  apply ensures_giveBack
  · intro s past next notes start reply
    obtain ⟨_, _, _, same, accepted, _⟩ := answers s past start
    cases reply.symm.trans same
    exact accepted rfl
  · intro s past error next notes start reply
    obtain ⟨_, _, _, same, _, refused⟩ := answers s past start
    cases reply.symm.trans same
    exact refused error rfl
  · intro s past panic next notes start reply
    obtain ⟨_, _, _, same, _⟩ := answers s past start
    cases reply.symm.trans same

/-- Settling a failure ends with that failure, and cannot undo what no event can undo. -/
theorem settle_stopped {claim : Journal α → Prop} (kept : ∀ j new, claim j → claim (j ++ new))
    {clear : Bool} (slots : List α) {exit : Exit β} (stopped : ∀ value, exit ≠ .done value) :
    Ensures (fun _ => claim) (pool.settle clear slots exit) (fun _ _ _ => False)
      fun _ _ => claim := by
  cases exit with
  | done value => exact absurd rfl (stopped value)
  | failed error =>
    exact ensures_bind (ensures_kept kept _) fun _ => ensures_fail fun _ _ => id
  | panicked panic =>
    refine ensures_whileUnwinding ((ensures_kept kept _).stops ?_)
    intro ending _ _ still
    cases ending <;> exact still
  | aborted => exact ensures_abort fun _ _ => id

/-- What was added to a journal of which `pre` held: calls that were all served. -/
def Added (pre : Journal α → Prop) (lent handed : List (List α)) (calls : List Call)
    (journal : Journal α) : Prop :=
  ∃ past new, journal = past ++ new ∧ pre past ∧ new.Served ∧ new.lent = lent ∧
    new.handed = handed ∧ new.calls = calls

theorem rentChecked_added (pre : Journal α → Prop) (minLen : Nat) :
    Ensures (fun _ j => pre j) (pool.rentChecked minLen)
      (fun slots _ j => minLen ≤ slots.length ∧
        Added pre [slots] [] [.rent minLen (some slots.length)] j)
      (fun _ _ j => ¬ j.Served) := by
  apply ensures_rentChecked
  · intro s past slots next notes start _ enough
    refine ⟨enough, past, _, rfl, start, ?_, ?_, ?_, ?_⟩
    · simp [Event.served, enough]
    · simp [Event.lent?, enough]
    · simp [Event.handed?]
    · simp [Event.call?]
  · intro s past slots next notes _ _ short
    simp [Event.served, Nat.not_le.mpr short]
  · intro s past panic next notes _ _
    simp [Event.served]

theorem giveBack_added (pre : Journal α → Prop) (slots : List α) (clear : Bool) :
    Ensures (fun _ j => pre j) (pool.giveBack slots clear)
      (fun _ _ j => Added pre [] [slots] [.hand slots.length clear] j)
      (fun _ _ j => ¬ j.Served) := by
  apply ensures_giveBack
  · intro s past next notes start _
    exact ⟨past, _, rfl, start, by simp [Event.served], by simp [Event.lent?],
      by simp [Event.handed?], by simp [Event.call?]⟩
  · intro s past error next notes start _
    exact ⟨past, _, rfl, start, by simp [Event.served], by simp [Event.lent?],
      by simp [Event.handed?], by simp [Event.call?]⟩
  · intro s past panic next notes _ _
    simp [Event.served]

end Pool

end BufferRental
