import BufferRental.Element.Kind
import BufferRental.Pool.Planned
import BufferRental.Proofs.CutShort
import BufferRental.Proofs.Growth
import BufferRental.Proofs.Setbacks
import BufferRental.Proofs.Stages

/-! Which items a population takes from its iterator. A population of known length is one that grows
over the items that it is ready to take, so one analysis of the loop serves both: it ends when no turn
is left, at a turn that fails, or at a full buffer that is not replaced. The buffer held at that moment
is kept or goes back. -/
namespace BufferRental

open Act

namespace Yield

def ofValues (values : List α) : List (Yield (Except String α)) :=
  values.map fun value => .item (.ok value)

def failure? : Yield (Except String α) → Option (Exit Empty)
  | .item (.ok _) => none
  | .item (.error text) => some (.failed (.copyFailed text))
  | .panic text => some (.panicked (.raised text))

@[simp] theorem length_ofValues (values : List α) : (ofValues values).length = values.length :=
  List.length_map ..

theorem failure?_ne_aborted {turn : Yield (Except String α)} {failure : Exit Empty}
    (fails : turn.failure? = some failure) : failure ≠ .aborted := by
  rcases turn with (text | value) | text <;> cases fails <;> nofun

/-- A turn that fails comes after the values that came before all failures. -/
theorem length_le_of_failure {turns rest : List (Yield (Except String α))} {stored : List α}
    {turn : Yield (Except String α)} {k : Nat} {failure : Exit Empty}
    (split : turns = ofValues stored ++ rest) (there : turns[k]? = some turn)
    (fails : turn.failure? = some failure) : stored.length ≤ k := by
  rcases Nat.lt_or_ge k stored.length with early | late
  · rw [split, List.getElem?_append_left (by rwa [length_ofValues])] at there
    obtain ⟨value, _, rfl⟩ : ∃ value, stored[k]? = some value ∧ .item (.ok value) = turn := by
      simpa [ofValues] using there
    cases fails
  · exact late

end Yield

namespace Method

/-- The methods that take items from an iterator. -/
def iterates : Method α → Bool
  | collectExact .. | collect _ | tryCollect _ => true
  | _ => false

/-- The turns that a method is ready to take; one that was told a length is ready for no more. -/
def turns : Method α → List (Yield (Except String α))
  | collectExact reported items => (items.take reported).map (Yield.map .ok)
  | collect items => items.map (Yield.map .ok)
  | tryCollect items => items
  | _ => []

def ready : Method α → Nat
  | collectExact reported items => min reported items.length
  | collect items => items.length
  | tryCollect items => items.length
  | _ => 0

theorem length_turns (method : Method α) : method.turns.length = method.ready := by
  cases method <;> simp [turns, ready]

theorem measurement_of_iterates {method : Method α} (iterates : method.iterates = true) :
    method.measurement = [] := by
  cases method with
  | withCount | copySlice | copyFrom => cases iterates
  | collectExact | collect | tryCollect => rfl

theorem ready_eq_zero {method : Method α} {capacity : Nat} (nothing : method.firstLen capacity = 0)
    (iterates : method.iterates = true) : method.ready = 0 := by
  cases method with
  | withCount | copySlice | copyFrom => cases iterates
  | collectExact reported items =>
    cases nothing
    exact Nat.zero_min _
  | collect | tryCollect =>
    have one : max capacity 1 = 0 := nothing
    omega

end Method

namespace Journal

@[simp] theorem pulls_append (first second : Journal α) :
    pulls (first ++ second) = pulls first + pulls second := List.countP_append

@[simp] theorem pulls_cons (event : Event α) (rest : Journal α) :
    pulls (event :: rest) = pulls rest + if isPull event then 1 else 0 := List.countP_cons

@[simp] theorem pulls_nil : pulls ([] : Journal α) = 0 := rfl

@[simp] theorem pulls_notes (notes : List Note) :
    pulls (notes.map Event.noted : Journal α) = 0 := by
  simp [pulls, List.countP_map, Function.comp_def, isPull]

end Journal

/-- These values were taken and stored, no turn but theirs was taken, and no call went wrong. -/
structure Filling.Stored (clear : Bool) (limit request : Nat) (stored : List α)
    (filling : Filling α) (journal : Journal α) : Prop where
  grown : ∃ first later,
    filling.Grown clear limit request stored stored.length first later journal
  pulls : journal.pulls = stored.length

namespace Filling.Stored

variable {clear : Bool} {limit request : Nat} {stored : List α} {filling : Filling α}
  {journal : Journal α}

theorem written (store : filling.Stored clear limit request stored journal) :
    filling.written = stored.length := by
  obtain ⟨first, later, grown⟩ := store.grown
  exact grown.took.written

theorem fits (store : filling.Stored clear limit request stored journal) :
    filling.written ≤ filling.slots.length := by
  obtain ⟨first, later, grown⟩ := store.grown
  have room := grown.took.room
  rw [grown.took.written, grown.took.length]
  exact room

theorem served (store : filling.Stored clear limit request stored journal) : journal.Served := by
  obtain ⟨first, later, grown⟩ := store.grown
  exact grown.grew.served

theorem not_mem (store : filling.Stored clear limit request stored journal) {event : Event α}
    (unserved : event.served = false) : event ∉ journal := by
  intro member
  exact Bool.false_ne_true (unserved.symm.trans (store.served event member))

/-- A full buffer holds just what was stored, and it is the last one that was lent. -/
theorem of_isFull (store : filling.Stored clear limit request stored journal)
    (full : filling.isFull = true) : filling.slots = stored ∧
      journal.lent.getLast?.map List.length = some stored.length ∧
      journal.lent.length = journal.handed.length + 1 := by
  obtain ⟨first, later, grown⟩ := store.grown
  have reached := Filling.isFull_iff.mp full
  have room := grown.took.room
  rw [grown.took.written, grown.took.length] at reached
  have filled : (later.getLastD first).length = stored.length := Nat.le_antisymm reached room
  refine ⟨?_, ?_, ?_⟩
  · rw [grown.took.slots, List.drop_eq_nil_of_le reached, List.append_nil]
  · rw [grown.grew.lent, List.getLast?_cons, Option.map_some, ← List.getLastD_eq_getLast?, filled]
  · rw [grown.grew.lent, grown.grew.handed]
    simp [outgrown]

end Filling.Stored

theorem Filling.stored_start {clear : Bool} {limit request : Nat} {granted : List α}
    (positive : 0 < request) (enough : request ≤ granted.length) (notes : List Note) :
    (Filling.start granted).Stored clear limit request []
      (.rented request (some granted) :: notes.map .noted) := by
  have grew : Journal.Grew clear limit request granted []
      (.rented request (some granted) :: notes.map .noted) := by
    constructor
    · simp [Event.served, enough]
    · simp [Event.lent?, enough]
    · simp [Event.handed?, outgrown]
    · simp [Event.call?, growthCalls]
  refine ⟨⟨granted, [], grew, ⟨rfl, rfl, Nat.zero_le _⟩, ?_, by simp⟩, ?_⟩
  · exact Nat.lt_of_lt_of_le positive enough
  · simp [Journal.isPull]

namespace Pool

variable {pool : Pool σ α} {clear : Bool} {limit request : Nat}

theorem Denies.silent {panic : Panic} {asked : Journal α} (denied : pool.Denies request panic asked) :
    asked.pulls = 0 ∧ asked.lent = [] ∧ ¬ asked.Served := by
  cases denied with
  | panicked => simp [Journal.isPull, Event.lent?, Event.served]
  | short reply less =>
    simp [Journal.isPull, Event.lent?, Event.served, Nat.not_le.mpr less]

theorem TakesBack.silent {slots : List α} {panic? : Option Panic} {back : Journal α}
    (gone : pool.TakesBack slots clear panic? back) : back.pulls = 0 ∧ back.lent = [] := by
  cases gone with
  | accepted | refused | panicked => simp [Journal.isPull, Event.lent?]

theorem TakesBack.calm {slots : List α} {panic? : Option Panic} {back : Journal α}
    (gone : pool.TakesBack slots clear panic? back) (served : back.Served) : panic? = none := by
  cases gone with
  | accepted | refused => rfl
  | panicked => simp [Event.served] at served

inductive Stalls (pool : Pool σ α) (clear : Bool) (limit : Nat) (filling : Filling α) :
    Filling α → Exit Empty → Journal α → Prop where
  | atLimit (reached : limit ≤ filling.slots.length) :
    Stalls pool clear limit filling filling (.failed (.capacityOverflow filling.slots.length)) []
  | denied {next : Nat} {panic : Panic} {asked : Journal α}
      (grows : nextLen filling.slots.length limit = some next)
      (denied : pool.Denies next panic asked) :
    Stalls pool clear limit filling filling (.panicked panic)
      (.noted (.growing filling.slots.length next) :: asked)
  /-- The longer buffer is there, but the pool panics in taking the outgrown one back. -/
  | unreturned {next : Nat} {granted outgrown : List α} {grown : Filling α} {notes : List Note}
      {panic : Panic} {back : Journal α}
      (grows : nextLen filling.slots.length limit = some next) (enough : next ≤ granted.length)
      (moved : filling.moveInto granted = .ok (grown, outgrown))
      (gone : pool.TakesBack outgrown clear (some panic) back) :
    Stalls pool clear limit filling grown (.panicked panic)
      (.noted (.growing filling.slots.length next) ::
        (.rented next (some granted) :: notes.map .noted ++ back))

theorem Stalls.ne_aborted {filling held : Filling α} {failure : Exit Empty} {late : Journal α}
    (stalls : pool.Stalls clear limit filling held failure late) : failure ≠ .aborted := by
  cases stalls <;> nofun

theorem Stalls.pulls {filling held : Filling α} {failure : Exit Empty} {late : Journal α}
    (stalls : pool.Stalls clear limit filling held failure late) : late.pulls = 0 := by
  cases stalls with
  | atLimit => rfl
  | denied grows denied => simp [denied.silent, Journal.isPull]
  | unreturned grows enough moved gone => simp [gone.silent, Journal.isPull]

/-- As long as the pool serves what it is asked, only the limit is in the way. -/
theorem Stalls.reached {filling held : Filling α} {failure : Exit Empty} {late : Journal α}
    (stalls : pool.Stalls clear limit filling held failure late) (served : late.Served) :
    limit ≤ filling.slots.length := by
  cases stalls with
  | atLimit reached => exact reached
  | denied grows denied =>
    rw [Journal.served_cons] at served
    exact absurd served.2 denied.silent.2.2
  | unreturned grows enough moved gone =>
    rw [Journal.served_cons, List.cons_append, Journal.served_cons, Journal.served_append] at served
    cases gone.calm served.2.2.2

theorem Stalls.of_unserved {filling held : Filling α} {failure : Exit Empty} {late : Journal α}
    (stalls : pool.Stalls clear limit filling held failure late) {asked : Nat}
    {granted : Option (List α)} (requested : .rented asked granted ∈ late)
    (unserved : (Event.rented asked granted).served = false) :
    held = filling ∧ ∃ next panic events, failure = .panicked panic ∧
      nextLen filling.slots.length limit = some next ∧ pool.Denies next panic events ∧
      late = .noted (.growing filling.slots.length next) :: events := by
  cases stalls with
  | atLimit => cases requested
  | denied grows denied => exact ⟨rfl, _, _, _, rfl, grows, denied, rfl⟩
  | unreturned grows enough moved gone =>
    obtain ⟨verdict, notes, rfl⟩ := gone.eq_returned
    obtain ⟨rfl, rfl⟩ : asked = _ ∧ granted = some _ := by simpa using requested
    simp [Event.served, enough] at unserved

/-- Growing takes no item, and it fails in one of three ways. -/
theorem grow_stalls (word : limit ≤ maxWord) {filling : Filling α}
    (fits : filling.written ≤ filling.slots.length) (past : Journal α) :
    Ensures (fun _ j => j = past) (pool.grow clear limit filling)
      (fun made _ j => ∃ late : Journal α, j = past ++ late ∧ late.pulls = 0 ∧
        (made.2 = .done () ∨
          ∃ failure, made.2 = failure.raised ∧ pool.Stalls clear limit filling made.1 failure late))
      (fun _ _ _ => False) := by
  unfold grow
  dsimp only
  cases grows : nextLen filling.slots.length limit with
  | none =>
    have stalls : pool.Stalls clear limit filling filling _ [] :=
      .atLimit (nextLen_eq_none_iff.mp grows)
    exact ensures_pure fun _ _ same => ⟨[], by simp [same], rfl, .inr ⟨_, rfl, stalls⟩⟩
  | some next =>
    have reached := (nextLen_eq_some_iff word).mp grows
    have noted : Ensures (fun (_ : σ) j => j = past) (note (.growing filling.slots.length next))
        (fun _ _ j => j = past ++ [.noted (.growing filling.slots.length next)])
        (fun _ _ _ => False) := ensures_record fun _ _ same => by rw [same]
    refine ensures_bind noted fun _ =>
      ensures_bind (ensures_attempt_satisfies (pool.rentChecked_exact next _)) fun exit => ?_
    cases exit with
    | failed | aborted =>
      exact ensures_pure fun _ _ ⟨_, _, wrong, _⟩ => nomatch wrong
    | panicked panic =>
      refine ensures_pure fun _ j stopped => ?_
      obtain ⟨_, asked, same, denied, rfl⟩ := stopped
      cases same
      have stalls : pool.Stalls clear limit filling filling (.panicked panic) _ :=
        .denied grows denied
      exact ⟨_, List.append_assoc .., stalls.pulls, .inr ⟨_, rfl, stalls⟩⟩
    | done granted =>
      refine ensures_given (fun _ _ start => start.1) fun enough => ?_
      have room : filling.written ≤ granted.length := by omega
      have moved := Filling.moveInto_eq fits room
      simp only [moved]
      refine Ensures.before (ensures_each fun rented start => ?_) fun _ _ start => start.2
      obtain ⟨notes, rfl⟩ := start
      refine ensures_bind (ensures_attempt_satisfies (pool.giveBack_exact _ clear _)) fun ending =>
        ensures_pure fun _ j after => ?_
      cases ending with
      | failed | aborted =>
        obtain ⟨_, _, wrong, _⟩ := after
        cases wrong
      | done _ =>
        obtain ⟨back, gone, rfl⟩ := after
        refine ⟨_, by rw [List.append_assoc, List.append_assoc], ?_, .inl rfl⟩
        simp [gone.silent, Journal.isPull]
      | panicked panic =>
        obtain ⟨_, back, same, gone, rfl⟩ := after
        cases same
        have stalls : pool.Stalls clear limit filling _ (.panicked panic)
            (.noted (.growing filling.slots.length next) ::
              (.rented next (some granted) :: notes.map .noted ++ back)) :=
          .unreturned grows enough moved gone
        exact ⟨_, by simp, stalls.pulls, .inr ⟨_, rfl, stalls⟩⟩

/-- Where taking these turns breaks off: the buffer that is held then, the failure, and the
journal. -/
inductive Breaks (pool : Pool σ α) (clear : Bool) (limit request : Nat)
    (turns : List (Yield (Except String α))) : Filling α → Exit Empty → Journal α → Prop where
  | failed {stored : List α} {turn : Yield (Except String α)}
      {rest : List (Yield (Except String α))} {failure : Exit Empty} {filling : Filling α}
      {past : Journal α} (split : turns = Yield.ofValues stored ++ turn :: rest)
      (fails : turn.failure? = some failure)
      (store : filling.Stored clear limit request stored past) :
    Breaks pool clear limit request turns filling failure (past ++ [.pulled])
  | stalled {stored : List α} {value : α} {rest : List (Yield (Except String α))}
      {failure : Exit Empty} {filling held : Filling α} {past late : Journal α}
      (split : turns = Yield.ofValues stored ++ .item (.ok value) :: rest)
      (store : filling.Stored clear limit request stored past) (full : filling.isFull = true)
      (stalls : pool.Stalls clear limit filling held failure late) :
    Breaks pool clear limit request turns held failure (past ++ .pulled :: late)

theorem Breaks.ne_aborted {turns : List (Yield (Except String α))} {held : Filling α}
    {failure : Exit Empty} {journal : Journal α}
    (breaks : pool.Breaks clear limit request turns held failure journal) : failure ≠ .aborted := by
  cases breaks with
  | failed split fails => exact Yield.failure?_ne_aborted fails
  | stalled split store full stalls => exact stalls.ne_aborted

def Took (pool : Pool σ α) (clear : Bool) (limit request : Nat)
    (turns : List (Yield (Except String α))) (made : Filling α × Exit Unit) (journal : Journal α) :
    Prop :=
  (made.2 = .done () ∧ ∃ stored, turns = Yield.ofValues stored ∧
      made.1.Stored clear limit request stored journal) ∨
    ∃ failure, made.2 = failure.raised ∧
      pool.Breaks clear limit request turns made.1 failure journal

/-- Making room takes no item, and only a full buffer can be in the way. -/
theorem makeRoom_stalls (word : limit ≤ maxWord) {filling : Filling α}
    (fits : filling.written ≤ filling.slots.length) (past : Journal α) :
    Ensures (fun _ j => j = past) (pool.makeRoom clear limit filling)
      (fun made _ j => ∃ late : Journal α, j = past ++ late ∧ late.pulls = 0 ∧
        (made.2 = .done () ∨ ∃ failure, made.2 = failure.raised ∧ filling.isFull = true ∧
          pool.Stalls clear limit filling made.1 failure late))
      (fun _ _ _ => False) := by
  unfold makeRoom
  by_cases full : filling.isFull = true
  · rw [if_pos full]
    simpa only [full, true_and] using grow_stalls word fits past
  · rw [if_neg full]
    exact ensures_pure fun _ _ same => ⟨[], by simp [same], rfl, .inl rfl⟩

/-- One turn that brings a value. There is room for it then and it is stored, or taking breaks off
because a full buffer was not replaced. -/
theorem makeRoom_took (word : limit ≤ maxWord) {stored : List α} {filling : Filling α}
    {past : Journal α} (store : filling.Stored clear limit request stored past) (value : α) :
    Ensures (fun _ j => j = past ++ [.pulled]) (pool.makeRoom clear limit filling)
      (fun made _ j =>
        (made.2 = .done () ∧ made.1.isFull = false ∧
          (made.1.put value).Stored clear limit request (stored ++ [value]) j) ∨
        ∃ failure : Exit Empty, made.2 = failure.raised ∧ ∀ rest, pool.Breaks clear limit request
          (Yield.ofValues stored ++ .item (.ok value) :: rest) made.1 failure j)
      (fun _ _ _ => False) := by
  obtain ⟨first, later, grown⟩ := store.grown
  have still : filling.Grown clear limit request stored stored.length first later
      (past ++ [.pulled]) :=
    ⟨grown.grew.append_still (by simp [Event.served]) rfl rfl rfl, grown.took, grown.positive,
      grown.short⟩
  refine ((makeRoom_grown word).and (makeRoom_stalls word store.fits _)).imp
    (fun _ _ same => ⟨same.symm ▸ still, same⟩) ?_ fun _ _ _ => And.left
  rintro ⟨made, ending⟩ _ _ ⟨room, late, rfl, silent, rfl | ⟨failure, rfl, full, stalls⟩⟩
  · left
    obtain ⟨notFull, later, grown⟩ := room
    have put := grown.took.put notFull value
    refine ⟨rfl, notFull, ⟨first, later, grown.grew, put, grown.positive, ?_⟩, ?_⟩
    · simpa using grown.short
    · simp [store.pulls, silent, Journal.isPull]
  · right
    refine ⟨failure, rfl, fun rest => ?_⟩
    rw [List.append_assoc]
    exact .stalled rfl store full stalls

/-- The turns before the one that breaks the loop off brought the values stored; each of them is taken
just once, and none after it. -/
theorem appendItems_took (word : limit ≤ maxWord) (turns : List (Yield (Except String α)))
    (stored : List α) (filling : Filling α) :
    Ensures (fun _ j => filling.Stored clear limit request stored j)
      (pool.appendItems clear limit turns filling)
      (fun made _ j => pool.Took clear limit request (Yield.ofValues stored ++ turns) made j)
      (fun _ _ _ => False) := by
  -- every turn adds one value to those stored, so these are general in the induction
  induction turns generalizing stored filling with
  | nil => exact ensures_pure fun _ _ store => .inl ⟨rfl, stored, List.append_nil _, store⟩
  | cons turn turns ih =>
    refine ensures_each fun past store => ?_
    have pulled : Ensures (fun (_ : σ) j => j = past) (record [.pulled])
        (fun _ _ j => j = past ++ [.pulled]) (fun _ _ _ => False) :=
      ensures_record fun _ _ same => by rw [same]
    have failed {failure : Exit Empty} (fails : turn.failure? = some failure) :
        Ensures (fun (_ : σ) j => j = past ++ [.pulled])
          (Pure.pure (filling, failure.raised))
          (fun made _ j =>
            pool.Took clear limit request (Yield.ofValues stored ++ turn :: turns) made j)
          (fun _ _ _ => False) :=
      ensures_pure fun _ _ same => .inr ⟨failure, rfl, same ▸ .failed rfl fails store⟩
    cases turn with
    | panic text => exact ensures_bind pulled fun _ => failed rfl
    | item value =>
      cases value with
      | error text => exact ensures_bind pulled fun _ => failed rfl
      | ok value =>
        rw [appendItems_value]
        refine ensures_bind pulled fun _ => ensures_bind (makeRoom_took word store value) ?_
        rintro ⟨made, ending⟩
        refine ensures_each fun j start => ?_
        obtain ⟨rfl, notFull, put⟩ | ⟨failure, rfl, breaks⟩ := start
        · have split : Yield.ofValues (stored ++ [value]) ++ turns =
              Yield.ofValues stored ++ .item (.ok value) :: turns := by simp [Yield.ofValues]
          have rest := ih (stored ++ [value]) (made.put value)
          rw [split] at rest
          simp only [putNext, notFull, Bool.false_eq_true, if_false]
          exact rest.before fun _ _ same => same ▸ put
        · have stopped : Ensures (fun (_ : σ) j' => j' = j) (Pure.pure (made, failure.raised))
              (fun made _ j => pool.Took clear limit request
                (Yield.ofValues stored ++ .item (.ok value) :: turns) made j)
              (fun _ _ _ => False) :=
            ensures_pure fun _ _ same => .inr ⟨failure, rfl, same ▸ breaks turns⟩
          cases failure with
          | done never => cases never
          | failed | panicked | aborted => exact stopped

theorem finish_took {turns : List (Yield (Except String α))} {made : Filling α × Exit Unit} :
    Ensures (fun _ j => pool.Took clear limit request turns made j) (pool.finish clear made)
      (fun populated _ j => ∃ (stored : List α) (filling : Filling α),
        populated = filling.populated ∧ turns = Yield.ofValues stored ∧
          filling.Stored clear limit request stored j)
      (fun ending _ j => ∃ held failure past panic? back, ending = failure.overtaken panic? ∧
        pool.Breaks clear limit request turns held failure past ∧
          pool.TakesBack held.slots clear panic? back ∧ j = past ++ back) := by
  obtain ⟨held, exit⟩ := made
  refine ensures_each fun past took => ?_
  obtain ⟨rfl, stored, all, store⟩ | ⟨failure, rfl, breaks⟩ := took
  · exact ensures_pure fun _ _ same => ⟨stored, held, rfl, all, same ▸ store⟩
  · show Ensures _ (pool.settle clear held.slots (failure.raised.map _)) _ _
    rw [Exit.map_raised]
    refine (settle_takesBack breaks.ne_aborted past).imp (fun _ _ => id) (fun _ _ _ => False.elim) ?_
    rintro _ _ _ ⟨panic?, back, rfl, gone, rfl⟩
    exact ⟨held, failure, past, panic?, back, rfl, breaks, gone, rfl⟩

theorem assignItems_take (room : Nat) (items : List (Yield α)) (filling : Filling α) :
    (assignItems room items filling : Act σ α _) =
      assignItems room (items.take (room - filling.written)) filling := by
  induction items generalizing filling with
  | nil => rw [List.take_nil]
  | cons turn items ih =>
    rcases Nat.lt_or_ge filling.written room with before | reached
    · have more : room - filling.written = room - (filling.written + 1) + 1 := by omega
      rw [more, List.take_succ_cons]
      unfold assignItems
      cases turn with
      | panic text => rfl
      | item value =>
        have rest := ih (filling.put value)
        rw [Filling.written_put] at rest
        simp only [rest]
    · have none : room - filling.written = 0 := by omega
      simp only [assignItems, reached, none, decide_true, Bool.true_or, if_true, List.take_zero]

/-- A population of known length takes turns as if it grew; it has room for all of them. -/
theorem assignItems_eq_appendItems (pool : Pool σ α) (clear : Bool) (limit : Nat) {room : Nat}
    (items : List (Yield α)) (filling : Filling α) (fits : room ≤ filling.slots.length) :
    (assignItems room items filling : Act σ α _) = pool.appendItems clear limit
      ((items.take (room - filling.written)).map (Yield.map .ok)) filling := by
  induction items generalizing filling with
  | nil => rw [List.take_nil]; rfl
  | cons turn items ih =>
    rcases Nat.lt_or_ge filling.written room with before | reached
    · have notFull : filling.isFull = false := Filling.isFull_eq_false_iff.mpr (by omega)
      have more : room - filling.written = room - (filling.written + 1) + 1 := by omega
      rw [more, List.take_succ_cons, List.map_cons]
      unfold assignItems
      simp only [Nat.not_le.mpr before, notFull, decide_false, Bool.or_self, Bool.false_eq_true,
        if_false]
      cases turn with
      | panic text => rfl
      | item value =>
        have rest := ih (filling.put value) (by rwa [Filling.length_put])
        simp only [Yield.map, appendItems_value, makeRoom, notFull, Bool.false_eq_true, if_false,
          Act.pure_bind, putNext, rest, Filling.written_put]
    · have none : room - filling.written = 0 := by omega
      simp only [assignItems, reached, none, decide_true, Bool.true_or, if_true, List.take_zero,
        List.map_nil, appendItems]

theorem fill_of_iterates [Element α] {method : Method α} (iterates : method.iterates = true)
    {capacity : Nat} {slots : List α} (enough : method.firstLen capacity ≤ slots.length) :
    pool.fill clear method slots =
      pool.appendItems clear (Element.maxLen α) method.turns (.start slots) >>= pool.finish clear := by
  cases method with
  | withCount | copySlice | copyFrom => cases iterates
  | collectExact reported items =>
    have room : reported ≤ (Filling.start slots).slots.length := enough
    simp only [fill, pool.assignItems_eq_appendItems clear (Element.maxLen α) items _ room]
    rfl
  | collect | tryCollect => rfl

/-- What becomes of a buffer that was rented for the items of an iterator. -/
theorem fill_took [Element α] {method : Method α} (iterates : method.iterates = true)
    {capacity : Nat} (positive : 0 < method.firstLen capacity) {slots : List α}
    (enough : method.firstLen capacity ≤ slots.length) (notes : List Note) :
    Ensures (fun _ j => j = .rented (method.firstLen capacity) (some slots) :: notes.map .noted)
      (pool.fill clear method slots)
      (fun populated _ j => ∃ (stored : List α) (filling : Filling α),
        populated = filling.populated ∧ method.turns = Yield.ofValues stored ∧
          filling.Stored clear (Element.maxLen α) (method.firstLen capacity) stored j)
      (fun ending _ j => ∃ held failure past panic? back, ending = failure.overtaken panic? ∧
        pool.Breaks clear (Element.maxLen α) (method.firstLen capacity) method.turns held failure
          past ∧ pool.TakesBack held.slots clear panic? back ∧ j = past ++ back) := by
  have took : Ensures (fun _ j => j = .rented (method.firstLen capacity) (some slots) ::
        notes.map .noted)
      (pool.appendItems clear (Element.maxLen α) method.turns (.start slots))
      (fun made _ j => pool.Took clear (Element.maxLen α) (method.firstLen capacity) method.turns
        made j) (fun _ _ _ => False) :=
    (appendItems_took (Element.maxLen_le_maxWord α) method.turns [] (.start slots)).before
      fun _ _ same => same ▸ Filling.stored_start positive enough notes
  rw [fill_of_iterates iterates enough]
  exact ensures_bind took.unstopped fun made => finish_took

end Pool

end BufferRental
