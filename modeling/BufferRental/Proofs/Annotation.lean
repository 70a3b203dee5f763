import BufferRental.Proofs.CutShort
import BufferRental.Session.World

/-! What calls give rise to in the log. Each sufficient loan is reported, and announced before if it
replaces a buffer; each refusal is reported; and nothing else is logged. A pool may log what it likes
when it is called, so its entries are told apart first. -/
namespace BufferRental

namespace Note

/-- An entry in the words of populations and buffers. -/
def isOwn : Note → Bool
  | rented .. | growing .. | returnRejected _ => true
  | oversizeRequest _ | bucketEmpty _ | oversizeReturn _ => false

def requested? : Note → Option Nat
  | rented requested _ => some requested
  | _ => none

def received? : Note → Option Nat
  | rented _ received => some received
  | _ => none

end Note

namespace Event

/-- What is logged right before a call. Who asks for a buffer and holds one of `last` slots replaces
it. -/
def announced (last : Option Nat) : Event α → List Note
  | .rented request _ => (last.map fun current => Note.growing current request).toList
  | _ => []

/-- What is logged right after a call, when the pool has answered. -/
def reported : Event α → List Note
  | .rented request (some slots) =>
    if request ≤ slots.length then [.rented request slots.length] else []
  | .returned _ _ (.refused error) => [.returnRejected error]
  | _ => []

def latest (last : Option Nat) (event : Event α) : Option Nat :=
  (event.lent?.map List.length).or last

end Event

namespace Journal

/-- Calls with the entries of the log that they give rise to, if `last` slots were lent before. -/
def annotate : Option Nat → Journal α → Journal α
  | _, [] => []
  | last, call :: rest =>
    (call.announced last).map .noted ++ call :: (call.reported.map .noted ++
      annotate (call.latest last) rest)

def ownWords (journal : Journal α) : Journal α :=
  journal.filter fun
    | .rented .. | .returned .. => true
    | .noted note => note.isOwn
    | _ => false

theorem ownWords_append (first second : Journal α) :
    ownWords (first ++ second) = ownWords first ++ ownWords second := List.filter_append ..

theorem ownWords_notes (notes : List Note) :
    ownWords (notes.map Event.noted : Journal α) = (notes.filter Note.isOwn).map .noted := by
  rw [ownWords, List.filter_map]
  rfl

theorem ownWords_call {call : Event α} (made : isTraffic call = true) (rest : Journal α) :
    ownWords (call :: rest) = call :: ownWords rest := by
  cases call with
  | rented | returned => rfl
  | noted | pulled | cloned | measured | offered => cases made

theorem ownWords_outward (journal : Journal α) : journal.outward.ownWords = journal.ownWords := by
  rw [ownWords, ownWords, outward, List.filter_filter]
  congr 1
  funext event
  cases event with
  | noted note => exact Bool.and_true _
  | rented | returned | pulled | cloned | measured | offered => rfl

theorem annotate_append (last : Option Nat) (first second : Journal α) :
    annotate last (first ++ second) =
      annotate last first ++ annotate (first.foldl Event.latest last) second := by
  induction first generalizing last with
  | nil => rfl
  | cons call rest ih => simp only [List.cons_append, annotate, ih, List.foldl_cons, List.append_assoc]

/-- The calls and the log are what can be told of the calls alone; `last` and `next` are the slots lent
last before and after them. -/
structure Tells (last next : Option Nat) (journal : Journal α) : Prop where
  outward : journal.outward = annotate last journal.traffic
  latest : journal.traffic.foldl Event.latest last = next

theorem Tells.append {last middle next : Option Nat} {first second : Journal α}
    (before : first.Tells last middle) (after : second.Tells middle next) :
    (first ++ second).Tells last next := by
  constructor
  · rw [outward_append, before.outward, after.outward, traffic_append, annotate_append, before.latest]
  · rw [traffic_append, List.foldl_append, before.latest, after.latest]

theorem not_traffic_of_quiet {events : Journal α} (quiet : events.outward = []) :
    ∀ event ∈ events, isTraffic event = false := by
  rw [outward, List.filter_eq_nil_iff] at quiet
  intro event member
  have unseen := quiet event member
  cases event with
  | rented | returned => exact absurd rfl unseen
  | noted | pulled | cloned | measured | offered => rfl

/-- Events that are neither calls nor entries of the log have no part in this. -/
theorem tells_of_quiet {last : Option Nat} {events : Journal α} (quiet : events.outward = []) :
    events.Tells last last := by
  have still : events.traffic = [] := by
    rw [traffic, List.filter_eq_nil_iff]
    intro event member
    rw [not_traffic_of_quiet quiet event member]
    exact Bool.false_ne_true
  exact ⟨by rw [quiet, still]; rfl, by rw [still]; rfl⟩

/-- One call, with what is logged before and after it. -/
theorem tells_call (last : Option Nat) {call : Event α} (made : isTraffic call = true) :
    Tells last (call.latest last)
      ((call.announced last).map .noted ++ call :: call.reported.map .noted) := by
  have only : traffic ((call.announced last).map .noted ++ call :: call.reported.map .noted) =
      [call] := by
    rw [traffic_append, traffic_notes, List.nil_append, traffic, List.filter_cons_of_pos made]
    exact congrArg (call :: ·) (traffic_notes _)
  have seen : outward (call :: call.reported.map .noted) = call :: call.reported.map .noted := by
    have later := outward_notes (α := α) call.reported
    cases call with
    | rented | returned => exact congrArg (_ :: ·) later
    | noted | pulled | cloned | measured | offered => cases made
  constructor
  · rw [only, outward_append, outward_notes, seen, annotate, annotate, List.append_nil]
  · rw [only]
    rfl

/-- All that is told of calls is told in the library's own words. -/
theorem ownWords_annotate (last : Option Nat) {calls : Journal α}
    (made : ∀ call ∈ calls, isTraffic call = true) :
    ownWords (annotate last calls) = annotate last calls := by
  have announced (last : Option Nat) (call : Event α) : (call.announced last).filter Note.isOwn =
      call.announced last := by
    cases call <;> cases last <;> rfl
  have reported (call : Event α) : call.reported.filter Note.isOwn = call.reported := by
    rw [List.filter_eq_self]
    unfold Event.reported
    split
    · split <;> simp [Note.isOwn]
    · simp [Note.isOwn]
    · simp
  induction calls generalizing last with
  | nil => rfl
  | cons call rest ih =>
    rw [List.forall_mem_cons] at made
    rw [annotate, ownWords_append, ownWords_notes, announced, ownWords_call made.1, ownWords_append,
      ownWords_notes, reported, ih _ made.2]

theorem notes_append (first second : Journal α) :
    notes (first ++ second) = notes first ++ notes second := List.filterMap_append

theorem notes_noted (entries : List Note) : notes (entries.map Event.noted : Journal α) = entries := by
  rw [notes, List.filterMap_map]
  exact List.filterMap_some

theorem notes_outward (journal : Journal α) : journal.outward.notes = journal.notes := by
  rw [notes, notes, outward, List.filterMap_filter]
  congr 1
  funext event
  cases event <;> rfl

theorem notes_annotate_cons (last : Option Nat) {call : Event α} (made : isTraffic call = true)
    (rest : Journal α) : notes (annotate last (call :: rest)) =
      call.announced last ++ (call.reported ++ notes (annotate (call.latest last) rest)) := by
  have silent (later : Journal α) : notes (call :: later) = notes later := by
    cases call with
    | rented | returned => rfl
    | noted | pulled | cloned | measured | offered => cases made
  rw [annotate, notes_append, notes_noted, silent, notes_append, notes_noted]

end Journal

def Note.Chained (last : Option Nat) (log : List Note) : Prop :=
  ∀ before current next after, log = before ++ .growing current next :: after →
    (before.filterMap received?).getLast?.or last = some current ∧
      (after.filterMap requested?).head? = some next

theorem getLast?_cons_or (first : β) (rest : List β) (last : Option β) :
    (first :: rest).getLast?.or last = rest.getLast?.or (some first) := by
  rw [List.getLast?_cons]
  cases rest.getLast? <;> rfl

namespace Note

variable {last : Option Nat} {log : List Note}

theorem Chained.rented (chained : Chained (some received) log) (requested : Nat) :
    Chained last (.rented requested received :: log) := by
  intro before current next after split
  obtain ⟨_, same⟩ | ⟨early, rfl, rfl⟩ := List.cons_eq_append_iff.mp split
  · cases same
  · obtain ⟨lent, asked⟩ := chained early current next after rfl
    exact ⟨(getLast?_cons_or received _ last).trans lent, asked⟩

theorem Chained.growing {current next : Nat} (chained : Chained (some current) log)
    (asked : (log.filterMap requested?).head? = some next) :
    Chained (some current) (.growing current next :: log) := by
  intro before current' next' after split
  obtain ⟨rfl, same⟩ | ⟨early, rfl, rfl⟩ := List.cons_eq_append_iff.mp split
  · cases same
    exact ⟨rfl, asked⟩
  · rw [List.filterMap_cons_none rfl]
    exact chained early current' next' after rfl

theorem Chained.returnRejected (chained : Chained last log) (error : RentalError) :
    Chained last (.returnRejected error :: log) := by
  intro before current next after split
  obtain ⟨_, same⟩ | ⟨early, rfl, rfl⟩ := List.cons_eq_append_iff.mp split
  · cases same
  · rw [List.filterMap_cons_none rfl]
    exact chained early current next after rfl

end Note

/-- If every loan is sufficient, the log of the calls is chained. -/
theorem Journal.annotate_chained {calls : Journal α} (last : Option Nat)
    (made : ∀ call ∈ calls, isTraffic call = true) (served : calls.Served) :
    Note.Chained last (annotate last calls).notes := by
  induction calls generalizing last with
  | nil => exact fun before _ _ _ split => absurd split (by simp [annotate, notes])
  | cons call rest ih =>
    rw [List.forall_mem_cons] at made
    rw [served_cons] at served
    have later := ih (call.latest last) made.2 served.2
    rw [notes_annotate_cons last made.1]
    cases call with
    | noted | pulled | cloned | measured | offered => cases made.1
    | returned slots clear verdict =>
      cases verdict with
      | accepted | panicked => exact later
      | refused error => exact later.returnRejected error
    | rented request granted =>
      cases granted with
      | none => cases served.1
      | some slots =>
        have enough : request ≤ slots.length := by simpa [Event.served] using served.1
        have reported : (Event.rented request (some slots)).reported =
            [.rented request slots.length] := if_pos enough
        have latest : (Event.rented request (some slots)).latest last = some slots.length := by
          simp [Event.latest, Event.lent?, enough]
        rw [latest] at later
        rw [reported, latest]
        cases last with
        | none => exact later.rented request
        | some current => exact (later.rented request).growing rfl

namespace Pool

/-- `own` is the journal without what the pool logged. It logs something only when it is called, and
this stands right behind the call. -/
inductive Heard (pool : Pool σ α) : Journal α → Journal α → Prop where
  | nil : Heard pool [] []
  | own {own journal : Journal α} {event : Event α} (still : Journal.isTraffic event = false)
      (rest : Heard pool own journal) : Heard pool (event :: own) (event :: journal)
  | rented {own journal : Journal α} {request : Nat} {s next : σ} {result : Except Panic (List α)}
      {notes : List Note} (reply : pool.rent request s = ⟨result, next, notes⟩)
      (rest : Heard pool own journal) : Heard pool (.rented request result.toOption :: own)
        (.rented request result.toOption :: (notes.map .noted ++ journal))
  | returned {own journal : Journal α} {slots : List α} {clear : Bool} {s next : σ}
      {result : Except Panic (Option RentalError)} {notes : List Note} (verdict : Verdict)
      (reply : pool.takeBack slots clear s = ⟨result, next, notes⟩)
      (rest : Heard pool own journal) : Heard pool (.returned slots clear verdict :: own)
        (.returned slots clear verdict :: (notes.map .noted ++ journal))

structure Discreet (pool : Pool σ α) : Prop where
  rent : ∀ minLen s, ∀ note ∈ (pool.rent minLen s).notes, note.isOwn = false
  takeBack : ∀ slots clear s, ∀ note ∈ (pool.takeBack slots clear s).notes, note.isOwn = false

namespace Heard

variable {pool : Pool σ α} {own journal own' journal' : Journal α}

theorem append (first : pool.Heard own journal) (second : pool.Heard own' journal') :
    pool.Heard (own ++ own') (journal ++ journal') := by
  induction first with
  | nil => exact second
  | own still _ ih => exact .own still ih
  | rented reply _ ih => simpa using Heard.rented reply ih
  | returned verdict reply _ ih => simpa using Heard.returned verdict reply ih

theorem still {events : Journal α} (still : ∀ event ∈ events, Journal.isTraffic event = false) :
    pool.Heard events events := by
  induction events with
  | nil => exact .nil
  | cons event rest ih =>
    rw [List.forall_mem_cons] at still
    exact .own still.1 (ih still.2)

theorem notes (notes : List Note) : pool.Heard (notes.map .noted) (notes.map .noted) :=
  .still (by simp [Journal.isTraffic])

theorem traffic_eq (heard : pool.Heard own journal) : own.traffic = journal.traffic := by
  induction heard with
  | nil => rfl
  | own still _ ih => simpa [Journal.traffic, still] using ih
  | rented _ _ ih =>
    show _ :: Journal.traffic _ = _ :: Journal.traffic _
    rw [ih, Journal.traffic_append, Journal.traffic_notes, List.nil_append]
  | returned _ _ _ ih =>
    show _ :: Journal.traffic _ = _ :: Journal.traffic _
    rw [ih, Journal.traffic_append, Journal.traffic_notes, List.nil_append]

/-- What a discreet pool logs itself is not in these words. -/
theorem ownWords_eq (discreet : pool.Discreet) (heard : pool.Heard own journal) :
    own.ownWords = journal.ownWords := by
  have silent {notes : List Note} (others : ∀ note ∈ notes, note.isOwn = false) (rest : Journal α) :
      Journal.ownWords (notes.map .noted ++ rest) = rest.ownWords := by
    have none : notes.filter Note.isOwn = [] := List.filter_eq_nil_iff.mpr (by simpa using others)
    rw [Journal.ownWords_append, Journal.ownWords_notes, none, List.map_nil, List.nil_append]
  induction heard with
  | nil => rfl
  | own _ _ ih =>
    rw [Journal.ownWords, Journal.ownWords, List.filter_cons, List.filter_cons]
    rw [Journal.ownWords, Journal.ownWords] at ih
    rw [ih]
  | @rented _ _ request s next result notes reply _ ih =>
    have others := discreet.rent request s
    rw [reply] at others
    rw [Journal.ownWords_call rfl, Journal.ownWords_call rfl, silent others, ih]
  | @returned _ _ slots clear s next result notes verdict reply _ ih =>
    have others := discreet.takeBack slots clear s
    rw [reply] at others
    rw [Journal.ownWords_call rfl, Journal.ownWords_call rfl, silent others, ih]

end Heard

/-- Without what the pool logged, the journal is what can be told of its calls. -/
def Told (pool : Pool σ α) (last next : Option Nat) (journal : Journal α) : Prop :=
  ∃ own, pool.Heard own journal ∧ own.Tells last next

namespace Told

variable {pool : Pool σ α} {last middle next : Option Nat} {first second : Journal α} {s t : σ}
  {notes : List Note}

theorem append (before : pool.Told last middle first) (after : pool.Told middle next second) :
    pool.Told last next (first ++ second) := by
  obtain ⟨own, heard, tells⟩ := before
  obtain ⟨own', heard', tells'⟩ := after
  exact ⟨own ++ own', heard.append heard', tells.append tells'⟩

theorem quiet {events : Journal α} (quiet : events.outward = []) : pool.Told last last events :=
  ⟨events, .still (Journal.not_traffic_of_quiet quiet), Journal.tells_of_quiet quiet⟩

theorem rented (last : Option Nat) {request : Nat} {result : Except Panic (List α)}
    (reply : pool.rent request s = ⟨result, t, notes⟩) :
    let call : Event α := .rented request result.toOption
    pool.Told last (call.latest last) ((call.announced last).map .noted ++ call ::
      (notes.map .noted ++ call.reported.map .noted)) := by
  intro call
  have tells := Journal.tells_call last (show Journal.isTraffic call = true from rfl)
  exact ⟨_, (Heard.notes _).append (.rented reply (.notes _)), tells⟩

theorem returned (last : Option Nat) {slots : List α} {clear : Bool} (verdict : Verdict)
    {result : Except Panic (Option RentalError)}
    (reply : pool.takeBack slots clear s = ⟨result, t, notes⟩) :
    let call : Event α := .returned slots clear verdict
    pool.Told last last (call :: (notes.map .noted ++ call.reported.map .noted)) := by
  intro call
  have tells := Journal.tells_call last (show Journal.isTraffic call = true from rfl)
  exact ⟨_, .returned verdict reply (.notes _), tells⟩

end Told

end Pool

theorem Pool.Discreet.within {pool : Pool σ α} (discreet : pool.Discreet) (part : τ → σ)
    (replace : σ → τ → τ) : (pool.within part replace).Discreet :=
  ⟨fun minLen s => discreet.rent minLen (part s),
    fun slots clear s => discreet.takeBack slots clear (part s)⟩

theorem BucketPool.asPool_discreet [Element α] : (asPool α).Discreet := by
  constructor
  · intro minLen pool note member
    simp only [asPool, rent] at member
    split at member
    · obtain rfl := List.mem_singleton.mp member
      rfl
    split at member
    · cases member
    · obtain rfl := List.mem_singleton.mp member
      rfl
    · cases member
  · intro slots clear pool note member
    simp only [asPool, takeBack] at member
    split at member
    · obtain rfl := List.mem_singleton.mp member
      rfl
    split at member
    · cases member
    split at member <;> cases member

namespace PlannedPool

theorem asPool_discreet : (asPool α).Discreet := by
  constructor
  · intro minLen pool note member
    simp only [asPool, rent] at member
    split at member <;> cases member
  · intro slots clear pool note member
    simp only [asPool, takeBack] at member
    split at member
    · cases member
    split at member <;> cases member

end PlannedPool

/-- The pools that sessions are played with have other words, so that their logs can be read in full. -/
theorem World.pools_discreet [Element α] (handle : Handle) : (pools α handle).Discreet := by
  have shared : (sharedPool α).Discreet := BucketPool.asPool_discreet.within _ _
  have own (world : World α) : world.ownPool.Discreet := by
    unfold ownPool
    split
    · exact BucketPool.asPool_discreet.within _ _
    · exact PlannedPool.asPool_discreet.within _ _
    · exact shared
  cases handle with
  | own => exact ⟨fun minLen world => (own world).rent minLen world,
      fun slots clear world => (own world).takeBack slots clear world⟩
  | shared => exact shared

end BufferRental
