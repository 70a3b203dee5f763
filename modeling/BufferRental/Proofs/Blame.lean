import BufferRental.Proofs.Custody
import BufferRental.Proofs.ListView
import BufferRental.Session

/-! Who is to blame for a stop. A population that does not succeed was stopped by its source, by its
pool, or by a length that no buffer can have; the library's own expectations hold whatever a pool
lends and whenever a source stops. So a buffer that was built can always be looked at. -/
namespace BufferRental

def Event.isAsked : Event α → Bool
  | .pulled | .cloned _ | .measured _ | .offered _ => true
  | _ => false

namespace Journal

def asked (journal : Journal α) : Journal α := journal.filter Event.isAsked

@[simp] theorem asked_append (first second : Journal α) :
    asked (first ++ second) = asked first ++ asked second := List.filter_append ..

@[simp] theorem asked_cons (event : Event α) (rest : Journal α) :
    asked (event :: rest) = if event.isAsked then event :: asked rest else asked rest :=
  List.filter_cons

@[simp] theorem asked_nil : asked ([] : Journal α) = [] := rfl

@[simp] theorem asked_notes (notes : List Note) : asked (notes.map Event.noted : Journal α) = [] := by
  simp [asked, Event.isAsked]

@[simp] theorem asked_cloned (values : List α) :
    asked (values.map Event.cloned) = values.map Event.cloned := by
  simp [asked, Event.isAsked]

end Journal

/-- What a source and the lengths asked for can bring about: panics, each after what was asked of
the source, and errors. -/
structure Cause (α : Type) where
  panics : Journal α → Panic → Prop
  fails : RentalError → Prop

def Yield.Panics (items : List (Yield β)) (asked : Journal α) (panic : Panic) : Prop :=
  ∃ n text, asked = List.replicate (n + 1) .pulled ∧ items[n]? = some (.panic text) ∧
    panic = .raised text

theorem Yield.Panics.of_map {items : List (Yield β)} {f : β → γ} {asked : Journal α} {panic : Panic}
    (panics : Panics (items.map (Yield.map f)) asked panic) : Panics items asked panic := by
  obtain ⟨n, text, taken, turn, same⟩ := panics
  rw [List.getElem?_map, Option.map_eq_some_iff] at turn
  obtain ⟨before, own, after⟩ := turn
  cases before with
  | item value => cases after
  | panic text =>
    cases after
    exact ⟨n, text, taken, own, same⟩

section

variable [Element α]

/-- The clone of an element panicked after those of all elements before it. -/
def Element.Panics (source : List α) (asked : Journal α) (panic : Panic) : Prop :=
  ∃ (before : List α) (x : α) (after clones target : List α), source = before ++ x :: after ∧
    before.map Element.clone = clones.map .ok ∧ Element.clone x = .error panic ∧
    asked = .offered target :: clones.map .cloned

def Element.TooLong (α : Type) [Element α] (parameter : String) (length : Nat)
    (error : RentalError) : Prop :=
  maxLen α < length ∧ error = .tooLong parameter length (maxLen α)

/-- The longest buffer was full, and one more of so many items came. -/
def Element.Overflows (α : Type) [Element α] (items : Nat) (error : RentalError) : Prop :=
  ∃ length, maxLen α ≤ length ∧ length < items ∧ error = .capacityOverflow length

/-- What can stop a method; `capacity` is the suggested one. -/
def Method.cause (capacity : Nat) : Method α → Cause α
  | .withCount count => ⟨fun _ _ => False, Element.TooLong α "count" count⟩
  | .copySlice source => ⟨Element.Panics source, fun _ => False⟩
  | .copyFrom source => ⟨
      fun asked panic => ∃ target, (source.copyTo target).ending = .panicked panic ∧
        asked = .measured (source.lengthAt 0) :: .offered target ::
          (source.copyTo target).cloned.map .cloned,
      fun error => Element.TooLong α "count" (source.lengthAt 0) error ∨
        ∃ target text, (source.copyTo target).ending = .failed text ∧ error = .copyFailed text⟩
  | .collectExact reported items => ⟨Yield.Panics items, Element.TooLong α "count" reported⟩
  | .collect items => ⟨Yield.Panics items, fun error =>
      Element.TooLong α "capacity" capacity error ∨ Element.Overflows α items.length error⟩
  | .tryCollect items => ⟨Yield.Panics items, fun error =>
      Element.TooLong α "capacity" capacity error ∨ Element.Overflows α items.length error ∨
        ∃ text, .item (.error text) ∈ items ∧ error = .copyFailed text⟩

end

namespace Cause

variable {cause : Cause α}

/-- The cause answers for every panic of `items`, which are taken behind `taken` others. -/
def Foresees (cause : Cause α) (taken : Nat) (items : List (Yield β)) : Prop :=
  ∀ n text, items[n]? = some (.panic text) →
    cause.panics (List.replicate (taken + n + 1) .pulled) (.raised text)

theorem Foresees.tail {taken : Nat} {turn : Yield β} {rest : List (Yield β)}
    (foresees : cause.Foresees taken (turn :: rest)) : cause.Foresees (taken + 1) rest := by
  intro n text panicked
  have later := foresees (n + 1) text (by simpa using panicked)
  rwa [show taken + (n + 1) + 1 = taken + 1 + n + 1 by omega] at later

/-- Panics of items are foreseen by whoever answers for the item that was taken last. -/
theorem foresees_of_panics {items : List (Yield β)}
    (panics : ∀ asked panic, Yield.Panics items asked panic → cause.panics asked panic) :
    cause.Foresees 0 items :=
  fun n text panicked => panics _ _ ⟨n, text, by simp, panicked, rfl⟩

structure Covers (cause : Cause α) (limit taken written : Nat)
    (items : List (Yield (Except String α))) : Prop where
  panics : cause.Foresees taken items
  fails : ∀ text, .item (.error text) ∈ items → cause.fails (.copyFailed text)
  overflows : ∀ length, limit ≤ length → length < written + items.length →
    cause.fails (.capacityOverflow length)

theorem Covers.tail {limit taken written : Nat} {turn : Yield (Except String α)}
    {rest : List (Yield (Except String α))}
    (covers : cause.Covers limit taken written (turn :: rest)) :
    cause.Covers limit (taken + 1) (written + 1) rest := by
  constructor
  · exact covers.panics.tail
  · intro text member
    exact covers.fails text (List.mem_cons_of_mem _ member)
  · intro length long inside
    exact covers.overflows length long (by simp only [List.length_cons]; omega)

end Cause

inductive Pool.Blamed (pool : Pool σ α) (cause : Cause α) (journal : Journal α) : Panic → Prop where
  | source {panic : Panic} (own : cause.panics journal.asked panic) : Blamed pool cause journal panic
  | rent {panic : Panic} (request : Nat) (s : σ) (asked : .rented request none ∈ journal)
      (own : (pool.rent request s).result = .error panic) : Blamed pool cause journal panic
  | takeBack {panic : Panic} (slots : List α) (clear : Bool) (s : σ)
      (asked : .returned slots clear .panicked ∈ journal)
      (own : (pool.takeBack slots clear s).result = .error panic) : Blamed pool cause journal panic
  | shortGrant (request : Nat) (slots : List α) (lent : .rented request (some slots) ∈ journal)
      (short : slots.length < request) :
      Blamed pool cause journal (.shortGrant request slots.length)

namespace Pool

variable {pool : Pool σ α} {cause : Cause α} {clear : Bool}

theorem Blamed.append {journal later : Journal α} {panic : Panic}
    (blamed : pool.Blamed cause journal panic) (silent : later.asked = []) :
    pool.Blamed cause (journal ++ later) panic := by
  cases blamed with
  | source own => exact .source (by simpa [silent] using own)
  | rent request s asked own => exact .rent request s (List.mem_append_left _ asked) own
  | takeBack slots clear s asked own =>
    exact .takeBack slots clear s (List.mem_append_left _ asked) own
  | shortGrant request slots lent short =>
    exact .shortGrant request slots (List.mem_append_left _ lent) short

theorem Blamed.imp {wider : Cause α} {journal : Journal α} {panic : Panic}
    (blamed : pool.Blamed cause journal panic)
    (panics : ∀ asked panic, cause.panics asked panic → wider.panics asked panic) :
    pool.Blamed wider journal panic := by
  cases blamed with
  | source own => exact .source (panics _ _ own)
  | rent request s asked own => exact .rent request s asked own
  | takeBack slots clear s asked own => exact .takeBack slots clear s asked own
  | shortGrant request slots lent short => exact .shortGrant request slots lent short

def Ends (pool : Pool σ α) (cause : Cause α) (journal : Journal α) : Exit β → Prop
  | .done _ => True
  | .failed error => cause.fails error
  | .panicked panic => pool.Blamed cause journal panic
  | .aborted => False

/-- How a population may stop. All ends at once only if the pool panics when it is handed the
buffer on the way of another panic. -/
inductive Accounts (pool : Pool σ α) (cause : Cause α) : Exit Empty → Journal α → Prop where
  | failed {error : RentalError} {journal : Journal α} (own : cause.fails error) :
      Accounts pool cause (.failed error) journal
  | panicked {panic : Panic} {journal : Journal α} (blamed : pool.Blamed cause journal panic) :
      Accounts pool cause (.panicked panic) journal
  | aborted {first second : Panic} {before : Journal α} {slots : List α} {clear : Bool} {s : σ}
      {notes : List Note} (blamed : pool.Blamed cause before first)
      (own : (pool.takeBack slots clear s).result = .error second) :
      Accounts pool cause .aborted (before ++ .returned slots clear .panicked :: notes.map .noted)

theorem Ends.accounts {ending : Exit Empty} {journal : Journal α}
    (ends : pool.Ends cause journal ending) : pool.Accounts cause ending journal := by
  cases ending with
  | done never => cases never
  | failed error => exact .failed ends
  | panicked panic => exact .panicked ends
  | aborted => exact ends.elim

/-- Only a pool that panics can end everything. -/
theorem Accounts.unaborted {ending : Exit Empty} {journal : Journal α}
    (accounts : pool.Accounts cause ending journal) (served : journal.Served) :
    ending ≠ .aborted := by
  cases accounts with
  | failed | panicked => nofun
  | aborted => simp [Event.served] at served

open Act

theorem rentChecked_ends (cause : Cause α) (minLen : Nat) (asked : Journal α) :
    Ensures (fun _ j => j.asked = asked) (pool.rentChecked minLen)
      (fun slots _ j => minLen ≤ slots.length ∧ j.asked = asked)
      (fun ending _ j => j.asked = asked ∧ pool.Ends cause j ending) := by
  apply ensures_rentChecked
  · intro s past slots next notes start _ enough
    exact ⟨enough, by simpa [Event.isAsked] using start⟩
  · intro s past slots next notes start _ short
    exact ⟨by simpa [Event.isAsked] using start, .shortGrant minLen slots (by simp) short⟩
  · intro s past panic next notes start reply
    exact ⟨by simpa [Event.isAsked] using start, .rent minLen s (by simp) (by simp [reply])⟩

theorem giveBack_ends (cause : Cause α) (slots : List α) (asked : Journal α) :
    Ensures (fun _ j => j.asked = asked) (pool.giveBack slots clear) (fun _ _ j => j.asked = asked)
      (fun ending _ j => j.asked = asked ∧ pool.Ends cause j ending) := by
  apply ensures_giveBack
  · intro s past next notes start _
    simpa [Event.isAsked] using start
  · intro s past error next notes start _
    simpa [Event.isAsked] using start
  · intro s past panic next notes start reply
    exact ⟨by simpa [Event.isAsked] using start,
      .takeBack slots clear s (by simp) (by simp [reply])⟩

theorem settle_accounts (slots : List α) (exit : Exit β) :
    Ensures (fun _ j => pool.Ends cause j exit) (pool.settle clear slots exit)
      (fun _ _ _ => True) (fun ending _ j => pool.Accounts cause ending j) := by
  cases exit with
  | done value => exact ensures_pure fun _ _ _ => trivial
  | aborted => exact ensures_abort fun _ _ => False.elim
  | failed error =>
    apply ensures_given fun _ _ own => own
    intro (own : cause.fails error)
    have returned : Ensures (fun _ _ => True) (pool.giveBack slots clear) (fun _ _ _ => True)
        (fun ending _ j => pool.Accounts cause ending j) := by
      intro s past _
      exact ((giveBack_ends cause slots past.asked).imp (fun _ _ => id) (fun _ _ _ _ => trivial)
        fun _ _ _ stopped => stopped.2.accounts) s past rfl
    apply ensures_bind (returned.before fun _ _ _ => trivial)
    intro _
    exact ensures_fail fun _ _ _ => .failed own
  | panicked panic =>
    apply ensures_whileUnwinding
    apply ensures_giveBack
    · intro s past next notes (blamed : pool.Blamed cause past panic) _
      exact .panicked (blamed.append (by simp [Event.isAsked]))
    · intro s past error next notes (blamed : pool.Blamed cause past panic) _
      exact .panicked (blamed.append (by simp [Event.isAsked]))
    · intro s past second next notes (blamed : pool.Blamed cause past panic) reply
      exact .aborted blamed (congrArg Reply.result reply)

structure MadeRoom (pool : Pool σ α) (cause : Cause α) (asked : Journal α) (written : Nat)
    (made : Filling α × Exit Unit) (journal : Journal α) : Prop where
  asked : journal.asked = asked
  written : made.1.written = written
  bound : made.1.written ≤ made.1.slots.length
  room : made.2 = .done () → made.1.isFull = false
  ends : pool.Ends cause journal made.2

variable {limit : Nat}

theorem grow_made (word : limit ≤ maxWord) {filling : Filling α}
    (bound : filling.written ≤ filling.slots.length)
    (longest : limit ≤ filling.slots.length → cause.fails (.capacityOverflow filling.slots.length))
    (asked : Journal α) :
    Ensures (fun _ j => j.asked = asked) (pool.grow clear limit filling)
      (fun made _ j => pool.MadeRoom cause asked filling.written made j) (fun _ _ _ => False) := by
  unfold grow
  dsimp only
  split
  · rename_i atLimit
    have overflow := longest (nextLen_eq_none_iff.mp atLimit)
    exact ensures_pure fun _ _ start => ⟨start, rfl, bound, nofun, overflow⟩
  rename_i next grows
  have larger : filling.slots.length < next := by
    have := (nextLen_eq_some_iff word).mp grows
    omega
  have noted : Ensures (fun (_ : σ) j => j.asked = asked)
      (note (.growing filling.slots.length next)) (fun _ _ j => j.asked = asked)
      (fun _ _ _ => False) :=
    ensures_record fun _ _ start => by simpa [Event.isAsked] using start
  apply ensures_bind noted
  intro _
  apply ensures_bind (ensures_attempt_satisfies (rentChecked_ends cause next asked))
  intro exit
  cases exit with
  | failed | panicked =>
    exact ensures_pure fun _ _ stopped => ⟨stopped.1, rfl, bound, nofun, stopped.2⟩
  | aborted => exact ensures_pure fun _ _ stopped => stopped.2.elim
  | done slots =>
    apply ensures_given fun _ _ rented => rented.1
    intro (enough : next ≤ slots.length)
    have reach : filling.written ≤ slots.length := by omega
    obtain ⟨grown, outgrown, moved, written, length, _⟩ := Filling.moveInto_lengths bound reach
    simp only [moved]
    have returned : Ensures (fun _ j => j.asked = asked) (attempt (pool.giveBack outgrown clear))
        (fun ending _ j => ending.Satisfies (fun _ => j.asked = asked)
          fun stop => j.asked = asked ∧ pool.Ends cause j stop) (fun _ _ _ => False) :=
      ensures_attempt_satisfies (giveBack_ends cause outgrown asked)
    apply ensures_bind (returned.before fun _ _ rented => rented.2)
    intro ending
    -- there is room in the larger buffer, also if the return of the old one stops the growth
    have space : grown.written < grown.slots.length := by omega
    have within : grown.written ≤ grown.slots.length := Nat.le_of_lt space
    have room : grown.isFull = false := Filling.isFull_eq_false_iff.mpr space
    cases ending with
    | done _ => exact ensures_pure fun _ _ after => ⟨after, written, within, fun _ => room, trivial⟩
    | failed | panicked =>
      exact ensures_pure fun _ _ stopped => ⟨stopped.1, written, within, nofun, stopped.2⟩
    | aborted => exact ensures_pure fun _ _ stopped => stopped.2.elim

theorem makeRoom_made (word : limit ≤ maxWord) {filling : Filling α}
    (bound : filling.written ≤ filling.slots.length)
    (longest : filling.slots.length ≤ filling.written → limit ≤ filling.slots.length →
      cause.fails (.capacityOverflow filling.slots.length)) (asked : Journal α) :
    Ensures (fun _ j => j.asked = asked) (pool.makeRoom clear limit filling)
      (fun made _ j => pool.MadeRoom cause asked filling.written made j) (fun _ _ _ => False) := by
  unfold makeRoom
  split
  · rename_i full
    exact grow_made word bound (longest (Filling.isFull_iff.mp full)) asked
  · rename_i room
    have room := Bool.eq_false_iff.mpr room
    exact ensures_pure fun _ _ start => ⟨start, rfl, bound, fun _ => room, trivial⟩

theorem pulled_asked (taken : Nat) :
    Ensures (fun (_ : σ) (j : Journal α) => j.asked = List.replicate taken .pulled)
      (record [.pulled]) (fun _ _ j => j.asked = List.replicate (taken + 1) .pulled)
      (fun _ _ _ => False) := by
  apply ensures_record
  intro s past start
  simp [start, Event.isAsked, List.replicate_succ']

theorem appendItems_ends (word : limit ≤ maxWord) {taken : Nat} {filling : Filling α}
    {items : List (Yield (Except String α))} (bound : filling.written ≤ filling.slots.length)
    (covers : cause.Covers limit taken filling.written items) :
    Ensures (fun _ j => j.asked = List.replicate taken .pulled)
      (pool.appendItems clear limit items filling) (fun made _ j => pool.Ends cause j made.2)
      (fun _ _ _ => False) := by
  induction items generalizing taken filling with
  | nil => exact ensures_pure fun _ _ _ => trivial
  | cons turn rest ih =>
    rcases turn with (text | value) | text
    · have fails := covers.fails text List.mem_cons_self
      exact ensures_bind (pulled_asked taken) fun _ => ensures_pure fun _ _ _ => fails
    · rw [appendItems_value]
      apply ensures_bind (pulled_asked taken)
      intro _
      have longest (reached : filling.slots.length ≤ filling.written)
          (long : limit ≤ filling.slots.length) :
          cause.fails (.capacityOverflow filling.slots.length) :=
        covers.overflows _ long (by simp only [List.length_cons]; omega)
      apply ensures_bind (makeRoom_made word bound longest _)
      rintro ⟨made, ending⟩
      cases ending with
      | failed | panicked | aborted => exact ensures_pure fun _ _ after => after.ends
      | done _ =>
        apply ensures_given fun _ _ after => And.intro (after.room rfl) after.written
        rintro ⟨room, written⟩
        dsimp only at room written
        have space := Filling.isFull_eq_false_iff.mp room
        simp only [putNext, room]
        have within : (made.put value).written ≤ (made.put value).slots.length := by
          rw [Filling.written_put, Filling.length_put]
          exact space
        have ahead : cause.Covers limit (taken + 1) (made.put value).written rest := by
          rw [Filling.written_put, written]
          exact covers.tail
        exact (ih within ahead).before fun _ _ after => after.asked
    · have panics := covers.panics 0 text rfl
      apply ensures_bind (pulled_asked taken)
      intro _
      exact ensures_pure fun _ _ asked => .source (asked ▸ panics)

theorem assignItems_ends {room taken : Nat} {filling : Filling α} {items : List (Yield α)}
    (foresees : cause.Foresees taken items) :
    Ensures (fun (_ : σ) j => j.asked = List.replicate taken .pulled)
      (assignItems room items filling) (fun made _ j => pool.Ends cause j made.2)
      (fun _ _ _ => False) := by
  induction items generalizing taken filling with
  | nil => exact ensures_pure fun _ _ _ => trivial
  | cons turn rest ih =>
    unfold assignItems
    split
    · exact ensures_pure fun _ _ _ => trivial
    apply ensures_bind (pulled_asked taken)
    intro _
    cases turn with
    | panic text =>
      have own := foresees 0 text rfl
      exact ensures_pure fun _ _ asked => .source (asked ▸ own)
    | item value => exact ih foresees.tail

theorem fillAtOnce_accounts {length : Nat} {slots : List α} {copy : List α → Copy α}
    {asked : Journal α} (enough : length ≤ slots.length)
    (panics : ∀ target panic, (copy target).ending = .panicked panic →
      cause.panics (asked ++ .offered target :: (copy target).cloned.map .cloned) panic)
    (fails : ∀ target text, (copy target).ending = .failed text → cause.fails (.copyFailed text)) :
    Ensures (fun _ j => j.asked = asked) (pool.fillAtOnce clear length slots copy)
      (fun _ _ _ => True) (fun ending _ j => pool.Accounts cause ending j) := by
  unfold fillAtOnce
  rw [if_neg (Nat.not_lt.mpr enough)]
  have offered : Ensures (fun (_ : σ) (j : Journal α) => j.asked = asked)
      (record (.offered (slots.take length) :: (copy (slots.take length)).cloned.map .cloned))
      (fun _ _ j => j.asked = asked ++ .offered (slots.take length) ::
        (copy (slots.take length)).cloned.map .cloned)
      (fun ending _ j => pool.Accounts cause ending j) :=
    ensures_record fun _ _ start => by simp [start, Event.isAsked]
  apply ensures_bind offered
  intro _
  apply (settle_accounts _ _).before
  intro s past asked
  cases ending : (copy (slots.take length)).ending with
  | finished => trivial
  | failed text => exact fails _ text ending
  | panicked panic =>
    have own := panics _ panic ending
    exact .source (asked ▸ own)

/-- Cloning stops only at an element whose clone panics. -/
theorem cloneRun_panicked [Element α] {source target : List α} {panic : Panic}
    (panicked : (cloneRun source target).ending = .panicked panic) :
    ∃ before x after, source = before ++ x :: after ∧
      before.map Element.clone = (cloneRun source target).cloned.map .ok ∧
      Element.clone x = .error panic := by
  fun_induction cloneRun source target with
  | case1 x source slot target value made rest ih =>
    obtain ⟨before, y, after, rfl, clones, own⟩ := ih panicked
    exact ⟨x :: before, y, after, rfl, by simp [made, clones, rest], own⟩
  | case2 x source slot target first failed =>
    cases panicked
    exact ⟨[], x, source, rfl, rfl, failed⟩
  | case3 => cases panicked

theorem cloneRun_not_failed [Element α] (source target : List α) (text : String) :
    (cloneRun source target).ending ≠ .failed text := by
  fun_induction cloneRun source target with
  | case1 x source slot target value made rest ih => exact ih
  | case2 | case3 => nofun

theorem rentFirst_accounts (minLen : Nat) (asked : Journal α) :
    Ensures (fun _ j => j.asked = asked) (pool.rentChecked minLen)
      (fun slots _ j => minLen ≤ slots.length ∧ j.asked = asked)
      (fun ending _ j => pool.Accounts cause ending j) :=
  (rentChecked_ends cause minLen asked).stops fun _ _ _ stopped => stopped.2.accounts

theorem finish_accounts (filling : Filling α) (ending : Exit Unit) :
    Ensures (fun _ j => pool.Ends cause j ending)
      (pool.settle clear filling.slots (ending.map fun _ => filling.populated))
      (fun _ _ _ => True) (fun ending _ j => pool.Accounts cause ending j) := by
  apply (settle_accounts _ _).before
  intro s past ends
  cases ending <;> exact ends

variable [Element α]

/-- Items of a growing population, whatever else they may do. -/
theorem appendAll_accounts {items : List (Yield (Except String α))} {slots : List α}
    (covers : cause.Covers (Element.maxLen α) 0 0 items) :
    Ensures (fun _ j => j.asked = [])
      (pool.appendItems clear (Element.maxLen α) items (.start slots) >>= fun made =>
        pool.settle clear made.1.slots (made.2.map fun _ => made.1.populated))
      (fun _ _ _ => True) (fun ending _ j => pool.Accounts cause ending j) := by
  have taken : Ensures (fun _ j => j.asked = List.replicate 0 .pulled)
      (pool.appendItems clear (Element.maxLen α) items (.start slots))
      (fun made _ j => pool.Ends cause j made.2) (fun _ _ _ => False) :=
    appendItems_ends (Element.maxLen_le_maxWord α) (Nat.zero_le _) covers
  exact ensures_bind taken.unstopped fun made => finish_accounts made.1 made.2

theorem fill_accounts (capacity : Nat) (method : Method α) {slots : List α}
    (enough : method.firstLen capacity ≤ slots.length) :
    Ensures (fun _ j => j.asked = Journal.asked method.measurement) (pool.fill clear method slots)
      (fun _ _ _ => True) (fun ending _ j => pool.Accounts (method.cause capacity) ending j) := by
  cases method with
  | withCount count => exact ensures_pure fun _ _ _ => trivial
  | copySlice source =>
    apply fillAtOnce_accounts enough
    · intro target panic panicked
      obtain ⟨before, x, after, split, clones, own⟩ := cloneRun_panicked panicked
      exact ⟨before, x, after, _, target, split, clones, own, rfl⟩
    · intro target text failed
      exact absurd failed (cloneRun_not_failed source target text)
  | copyFrom source =>
    apply fillAtOnce_accounts enough
    · intro target panic panicked
      exact ⟨target, panicked, rfl⟩
    · intro target text failed
      exact .inr ⟨target, text, failed, rfl⟩
  | collectExact reported items =>
    have taken : Ensures (fun (_ : σ) j => j.asked = List.replicate 0 .pulled)
        (assignItems reported items (.start slots))
        (fun made _ j => pool.Ends ((Method.collectExact reported items).cause capacity) j made.2)
        (fun _ _ _ => False) :=
      assignItems_ends (Cause.foresees_of_panics fun _ _ => id)
    exact ensures_bind taken.unstopped fun made => finish_accounts made.1 made.2
  | collect items =>
    apply appendAll_accounts
    constructor
    · exact Cause.foresees_of_panics fun _ _ => Yield.Panics.of_map
    · intro text member
      obtain ⟨turn, _, same⟩ := List.mem_map.mp member
      cases turn <;> cases same
    · exact fun length long inside => .inr ⟨length, long, by simpa using inside, rfl⟩
  | tryCollect items =>
    apply appendAll_accounts
    constructor
    · exact Cause.foresees_of_panics fun _ _ => id
    · exact fun text member => .inr (.inr ⟨text, member, rfl⟩)
    · exact fun length long inside => .inr (.inl ⟨length, long, by omega, rfl⟩)

end Pool

open Act

variable [Element α] (pools : ι → Pool σ α)

/-- A length that was checked and is too long is a cause to fail. -/
theorem Method.fails_of_checked {capacity : Nat} {method : Method α} {parameter : String}
    {length : Nat} (checked : method.checked? capacity = some (parameter, length))
    (long : Element.maxLen α < length) :
    (method.cause capacity).fails (.tooLong parameter length (Element.maxLen α)) := by
  cases method with
  | copySlice => cases checked
  | withCount | collectExact =>
    cases checked
    exact ⟨long, rfl⟩
  | copyFrom | collect | tryCollect =>
    cases checked
    exact .inl ⟨long, rfl⟩

theorem Settings.populate_accounts (settings : Settings ι) (method : Method α) :
    Ensures (fun _ j => j.asked = []) (settings.populate pools method) (fun _ _ _ => True)
      (fun ending _ j => (pools settings.handle).Accounts
        (method.cause settings.suggestedCapacity) ending j) := by
  have measured : Ensures (fun (_ : σ) j => j.asked = []) (record method.measurement)
      (fun _ _ j => j.asked = Journal.asked method.measurement)
      (fun ending _ j => (pools settings.handle).Accounts
        (method.cause settings.suggestedCapacity) ending j) :=
    ensures_record fun _ _ start => by rw [Journal.asked_append, start, List.nil_append]
  apply ensures_populate measured
  · exact fun _ _ checked long _ _ _ => .failed (Method.fails_of_checked checked long)
  · exact fun _ _ _ _ => trivial
  · exact fun _ _ => Pool.rentFirst_accounts _ _
  · intro _ slots
    refine ensures_given (fun _ _ rented => rented.1) fun enough => ?_
    exact (Pool.fill_accounts _ method enough).before fun _ _ rented => rented.2

/-- A population leaves what a buffer can own, so nothing but the population stops a build. -/
theorem Settings.build_accounts (settings : Settings ι) (method : Method α) :
    Ensures (fun _ j => j = []) (settings.build pools method) (fun _ _ _ => True)
      (fun ending _ j => (pools settings.handle).Accounts
        (method.cause settings.suggestedCapacity) ending j) := by
  rw [build_eq_populate]
  have populated := (populate_books pools settings method).and
    (populate_accounts pools settings method)
  apply ensures_bind (populated.imp
    (by rintro _ _ rfl; exact ⟨rfl, rfl⟩) (fun _ _ _ => And.left) fun _ _ _ => And.right)
  intro populated
  apply ensures_given fun _ _ kept => kept.1
  intro fits
  unfold Buffer.ofPopulated
  rw [dif_pos fits.bound]
  exact ensures_pure fun _ _ _ => trivial

/-- What can stop a construction. From an iterator one gets a buffer or a panic, so that an error is
met as a panic there. -/
def Construction.cause : Construction α → Cause α
  | populate changes method => method.cause (Settings.ofList Handle.shared changes).suggestedCapacity
  | new => ⟨fun _ _ => False, fun _ => False⟩
  | fromIterator _ items => ⟨fun asked panic => Yield.Panics items asked panic ∨
      ∃ error, panic = .unanswerable error ∧
        (Element.TooLong α "capacity" standardCapacity error ∨
          Element.Overflows α items.length error), fun _ => False⟩

theorem Construction.fromIterator_accounts (pools : Handle → Pool σ α) (hint : Nat)
    (items : List (Yield α)) :
    Ensures (fun _ j => j = []) (Buffer.fromIterator pools .shared hint items) (fun _ _ _ => True)
      (fun ending _ j => (pools .shared).Accounts (fromIterator hint items).cause ending j) := by
  have expected (settings : Settings Handle) (shared : settings.handle = .shared)
      (known : ∀ error, ((Method.collect items).cause settings.suggestedCapacity).fails error →
        Element.TooLong α "capacity" standardCapacity error ∨
          Element.Overflows α items.length error) :
      Ensures (fun _ j => j = []) (settings.build pools (.collect items)).expect (fun _ _ _ => True)
        (fun ending _ j => (pools .shared).Accounts (fromIterator hint items).cause ending j) := by
    rw [← shared]
    apply ensures_expect
    apply (Settings.build_accounts pools settings _).stops
    intro ending _ j accounts
    cases accounts with
    | failed own => exact .panicked (.source (.inr ⟨_, rfl, known _ own⟩))
    | panicked blamed => exact .panicked (blamed.imp fun _ _ => .inl)
    | aborted blamed own => exact .aborted (blamed.imp fun _ _ => .inl) own
  unfold Buffer.fromIterator
  dsimp only
  split
  · apply expected _ rfl
    rintro error (long | overflows)
    · exact absurd long.1 (Nat.not_lt.mpr (Nat.min_le_right ..))
    · exact .inr overflows
  · exact expected _ rfl fun _ => id

structure Buffer.Viewable (buffer : Buffer ι α) : Prop where
  within : buffer.count ≤ buffer.capacity
  nothing : buffer.slots = none → buffer.count = 0
  whole : ∀ slots, buffer.slots = some slots → slice? slots 0 buffer.count = some buffer.elements
  panics : ∀ operation panic, (buffer.perform operation).1 = .panicked panic →
    ∃ i ∈ operation.indices, buffer.count ≤ i ∧ panic = .indexOutOfBounds buffer.count i

theorem Buffer.viewable (buffer : Buffer ι α) : buffer.Viewable := by
  have within := buffer.count_le
  constructor
  · exact within
  · intro gone
    rw [gone] at within
    exact Nat.le_zero.mp within
  · intro slots held
    rw [held, Option.getD_some] at within
    simp [slice?, within, elements, held]
  · intro operation panic panicked
    obtain ⟨i, found, same⟩ := (buffer.stopsAt_count.panics operation panic).mp panicked
    exact ⟨i, List.mem_of_find?_eq_some found, by simpa using List.find?_some found, same⟩

/-- Whatever pools and sources do, a construction ends in one of two ways. It gives a buffer that
can be looked at after any operations, or it stops, and the panic or the error is one that its
source, its pool or a length asked for accounts for. -/
theorem Construction.stops_from_outside (pools : Handle → Pool σ α)
    (construction : Construction α) (s : σ) :
    ((construction.run pools).run s).exit.Satisfies
      (fun buffer => ∀ operations, (inTurn Buffer.perform buffer operations).2.Viewable)
      (fun ending => (pools construction.handle).Accounts construction.cause ending
        ((construction.run pools).run s).journal) := by
  have accounts : Ensures (fun _ j => j = []) (construction.run pools) (fun _ _ _ => True)
      (fun ending _ j => (pools construction.handle).Accounts construction.cause ending j) := by
    cases construction with
    | populate changes method => exact Settings.build_accounts pools _ method
    | new => exact ensures_pure fun _ _ _ => trivial
    | fromIterator hint items => exact fromIterator_accounts pools hint items
  have viewable : Ensures (fun _ j => j = []) (construction.run pools)
      (fun buffer _ _ => ∀ operations, (inTurn Buffer.perform buffer operations).2.Viewable)
      (fun ending _ j => (pools construction.handle).Accounts construction.cause ending j) :=
    accounts.after fun _ _ _ _ _ => Buffer.viewable _
  exact viewable s [] rfl

end BufferRental
