import BufferRental.Element.Kind
import BufferRental.Pool.Planned
import BufferRental.Proofs.Agreement
import BufferRental.Proofs.OneLoan

/-! Copies of elements that lie in memory. A slice is cloned element by element; any other source
that stores the same elements, in one piece or in two, is only asked its length in addition, and
then the pool and the elements see the very same, also if a clone panics in the middle. -/
namespace BufferRental

open Act

inductive BulkSource.Stores [Element α] (elements : List α) : BulkSource α → Prop where
  | inOne : Stores elements (.ofList elements)
  | inTwo (front back : List α) (whole : front ++ back = elements) :
    Stores elements (.ofRuns front back)

def Journal.cloned (journal : Journal α) : List α :=
  journal.filterMap fun | .cloned value => some value | _ => none

def Event.calm : Event α → Bool
  | .rented _ none | .returned _ _ .panicked => false
  | _ => true

def Journal.Calm (journal : Journal α) : Prop := ∀ event ∈ journal, event.calm = true

instance (journal : Journal α) : Decidable journal.Calm :=
  inferInstanceAs (Decidable (∀ event ∈ journal, event.calm = true))

section

variable [Element α]

theorem cloneRun_nil_target (source : List α) : cloneRun source [] = ⟨[], [], .finished⟩ := by
  cases source <;> rfl

/-- It does not matter where the elements are split, also if a clone panics. -/
theorem cloneRuns_eq (front back target : List α) :
    cloneRuns front back target = cloneRun (front ++ back) target := by
  induction front generalizing target with
  | nil => simp [cloneRuns, cloneRun]
  | cons x front ih =>
    cases target with
    | nil => simp [cloneRuns, cloneRun_nil_target]
    | cons slot target =>
      rw [List.cons_append]
      cases made : Element.clone x with
      | error panic => simp [cloneRuns, cloneRun, made]
      | ok value =>
        simp only [cloneRun, made, ← ih target, cloneRuns, List.length_cons, List.take_succ_cons,
          List.drop_succ_cons]
        cases (cloneRun front (target.take front.length)).ending <;> rfl

theorem BulkSource.ofRuns_eq (front back : List α) :
    (ofRuns front back : BulkSource α) = ofList (front ++ back) := by
  have copies : cloneRuns front back = cloneRun (front ++ back) := funext (cloneRuns_eq front back)
  simp [ofRuns, ofList, copies]

theorem clones_or_panics (elements : List α) :
    (∃ values : List α, elements.map Element.clone = values.map .ok) ∨
      ∃ (before : List α) (x : α) (after clones : List α) (panic : Panic),
        elements = before ++ x :: after ∧ before.map Element.clone = clones.map .ok ∧
          Element.clone x = .error panic := by
  induction elements with
  | nil => exact .inl ⟨[], rfl⟩
  | cons x rest ih =>
    cases made : Element.clone x with
    | error panic => exact .inr ⟨[], x, rest, [], panic, rfl, rfl, made⟩
    | ok value =>
      rcases ih with ⟨values, all⟩ | ⟨before, y, after, clones, panic, rfl, done, failed⟩
      · exact .inl ⟨value :: values, by simp [made, all]⟩
      · exact .inr ⟨x :: before, y, after, value :: clones, panic, rfl, by simp [made, done], failed⟩

/-- A panic leaves the slots from its element on as they were. -/
theorem cloneRun_of_panic {before after clones target : List α} {x : α} {panic : Panic}
    (done : before.map Element.clone = clones.map .ok) (failed : Element.clone x = .error panic)
    (room : before.length < target.length) :
    cloneRun (before ++ x :: after) target =
      ⟨clones ++ target.drop before.length, clones, .panicked panic⟩ := by
  induction before generalizing clones target with
  | nil =>
    obtain ⟨slot, target, rfl⟩ := List.exists_cons_of_length_pos room
    rw [List.map_nil, eq_comm, List.map_eq_nil_iff] at done
    subst done
    simp [cloneRun, failed]
  | cons y before ih =>
    obtain ⟨slot, target, rfl⟩ := List.exists_cons_of_length_pos (Nat.zero_lt_of_lt room)
    obtain ⟨value, clones, rfl, first, rest⟩ := List.map_eq_cons_iff.mp done.symm
    have later := ih rest.symm (Nat.lt_of_succ_lt_succ room)
    simp [cloneRun, ← first, later]

end

/-- How a buffer is copied from these elements over a pool that does not panic: what the caller gets,
the requests to the pool with the slots that go along, and the clones. -/
inductive Copied [Element α] (elements : List α) (clear : Bool) (handle : ι) :
    Exit (Buffer ι α) → Journal α → List α → Prop where
  | nothing (empty : elements = []) :
    Copied elements clear handle (.done (.empty clear handle)) [] []
  /-- A buffer that is too short is not written and does not go back. -/
  | short (granted : List α) (less : granted.length < elements.length) :
    Copied elements clear handle (.panicked (.shortGrant elements.length granted.length))
      [.rented elements.length (some granted)] []
  | whole (granted values : List α) (buffer : Buffer ι α) (nonempty : elements ≠ [])
      (enough : elements.length ≤ granted.length)
      (clones : elements.map Element.clone = values.map .ok)
      (slots : buffer.slots = some (values ++ granted.drop elements.length))
      (shown : buffer.elements = values) (owner : buffer.clear = clear ∧ buffer.handle = handle) :
    Copied elements clear handle (.done buffer) [.rented elements.length (some granted)] values
  /-- The first clone that panics ends the copy, and the slots from there on are as they were lent. -/
  | broken (granted before : List α) (x : α) (after clones : List α) (panic : Panic)
      (verdict : Verdict) (enough : elements.length ≤ granted.length)
      (split : elements = before ++ x :: after) (done : before.map Element.clone = clones.map .ok)
      (failed : Element.clone x = .error panic) (answered : verdict ≠ .panicked) :
    Copied elements clear handle (.panicked panic) [.rented elements.length (some granted),
      .returned (clones ++ granted.drop before.length) clear verdict] clones

namespace Journal

@[simp] theorem cloned_append (first second : Journal α) :
    cloned (first ++ second) = cloned first ++ cloned second := List.filterMap_append

@[simp] theorem cloned_notes (notes : List Note) : cloned (notes.map Event.noted : Journal α) = [] :=
  filterMap_notes (fun _ => rfl) notes

@[simp] theorem cloned_clones (values : List α) : cloned (values.map Event.cloned) = values := by
  simp [cloned, List.filterMap_map]

@[simp] theorem traffic_clones (values : List α) : traffic (values.map Event.cloned) = [] := by
  simp [traffic, isTraffic, List.filter_map]

theorem noted_concat (notes : List Note) (note : Note) :
    notes.map Event.noted ++ [.noted note] = ((notes ++ [note]).map .noted : Journal α) := by simp

structure Left (traffic : Journal α) (clones : List α) (journal : Journal α) : Prop where
  requests : journal.traffic = traffic
  made : journal.cloned = clones

theorem Left.request {past traffic : Journal α} {clones : List α} (left : Left traffic clones past)
    {event : Event α} (asked : isTraffic event = true) (notes : List Note) :
    Left (traffic ++ [event]) clones (past ++ event :: notes.map .noted) := by
  have apart : past ++ event :: notes.map .noted = past ++ [event] ++ notes.map .noted := by simp
  have silent : cloned [event] = [] := by
    cases event with
    | rented | returned => rfl
    | noted | pulled | cloned | measured | offered => cases asked
  constructor
  · rw [apart, traffic_append, traffic_append, traffic_notes, left.requests, List.append_nil]
    simp [Journal.traffic, asked]
  · rw [apart, cloned_append, cloned_append, cloned_notes, left.made, silent, List.append_nil,
      List.append_nil]

theorem Left.copy {past traffic : Journal α} (left : Left traffic [] past) (target clones : List α) :
    Left traffic clones (past ++ .offered target :: clones.map .cloned) := by
  have apart : past ++ .offered target :: clones.map .cloned =
      past ++ [.offered target] ++ clones.map .cloned := by simp
  have quiet : Journal.traffic [.offered target] = [] ∧ cloned [.offered target] = [] := ⟨rfl, rfl⟩
  constructor
  · rw [apart, traffic_append, traffic_append, traffic_clones, left.requests, quiet.1,
      List.append_nil, List.append_nil]
  · rw [apart, cloned_append, cloned_append, cloned_clones, left.made, quiet.2, List.nil_append,
      List.nil_append]

end Journal

open Journal

theorem ensures_offer {traffic : Journal α} {stop : Exit Empty → σ → Journal α → Prop}
    (target clones : List α) :
    Ensures (fun _ => Left traffic []) (record (.offered target :: clones.map .cloned))
      (fun _ _ => Left traffic clones) stop :=
  ensures_record fun _ _ left => left.copy target clones

/-- However the act ends, the elements were copied, unless the pool panicked. -/
def Act.Copies [Element α] (elements : List α) (clear : Bool) (handle : ι) (pre : Journal α → Prop)
    (act : Act σ α (Buffer ι α)) : Prop :=
  Ensures (fun _ => pre) act
    (fun buffer _ j => Copied elements clear handle (.done buffer) j.traffic j.cloned)
    fun ending _ j => j.Calm → Copied elements clear handle ending.raised j.traffic j.cloned

section

variable [Element α] {pool : Pool σ α} {clear : Bool} {handle : ι} {elements slots : List α}

theorem Pool.fillAtOnce_whole {values : List α} (enough : elements.length ≤ slots.length)
    (clones : elements.map Element.clone = values.map .ok) :
    pool.fillAtOnce clear elements.length slots (cloneRun elements) =
      record (.offered (slots.take elements.length) :: values.map .cloned) >>= fun _ =>
        return ⟨some (values ++ slots.drop elements.length), elements.length⟩ := by
  have copied : cloneRun elements (slots.take elements.length) = ⟨values, values, .finished⟩ :=
    cloneRun_of_clones clones (List.length_take_of_le enough)
  simp only [fillAtOnce, if_neg (Nat.not_lt.mpr enough), copied]
  rfl

theorem Pool.fillAtOnce_broken {before after clones : List α} {x : α} {panic : Panic}
    (enough : elements.length ≤ slots.length) (split : elements = before ++ x :: after)
    (done : before.map Element.clone = clones.map .ok) (failed : Element.clone x = .error panic) :
    pool.fillAtOnce clear elements.length slots (cloneRun elements) =
      record (.offered (slots.take elements.length) :: clones.map .cloned) >>= fun _ =>
        whileUnwinding panic (pool.giveBack (clones ++ slots.drop before.length) clear) := by
  have size : (slots.take elements.length).length = elements.length := List.length_take_of_le enough
  have inside : before.length < elements.length := by
    rw [split, List.length_append, List.length_cons]
    omega
  have room : before.length < (slots.take elements.length).length := by rwa [size]
  have copied : cloneRun elements (slots.take elements.length) =
      ⟨clones ++ (slots.take elements.length).drop before.length, clones, .panicked panic⟩ := by
    rw [congrArg cloneRun split]
    exact cloneRun_of_panic done failed room
  have rest : (slots.take elements.length).drop before.length ++ slots.drop elements.length =
      slots.drop before.length := by
    rw [← List.drop_append_of_le_length (Nat.le_of_lt room), List.take_append_drop]
  simp only [fillAtOnce, if_neg (Nat.not_lt.mpr enough), copied, List.append_assoc, rest]
  rfl

theorem copies_whole {values : List α} (nonempty : elements ≠ [])
    (enough : elements.length ≤ slots.length)
    (clones : elements.map Element.clone = values.map .ok) :
    Copies elements clear handle (Left [.rented elements.length (some slots)] [])
      (pool.fillAtOnce clear elements.length slots (cloneRun elements) >>=
        Buffer.ofPopulated clear handle) := by
  have count := length_of_clones clones
  have fits : elements.length ≤ (values ++ slots.drop elements.length).length := by
    rw [List.length_append, count]
    omega
  have kept : (Buffer.ofPopulated clear handle
      ⟨some (values ++ slots.drop elements.length), elements.length⟩ : Act σ α _) =
        return ⟨_, _, clear, handle, fits⟩ := dif_pos fits
  rw [Pool.fillAtOnce_whole enough clones, Act.bind_assoc]
  refine ensures_bind (ensures_offer _ values) fun _ => ?_
  rw [Act.pure_bind, kept]
  apply ensures_pure
  intro _ _ left
  rw [left.requests, left.made]
  exact .whole slots values _ nonempty enough clones rfl (by simp [Buffer.elements, count])
    ⟨rfl, rfl⟩

/-- The pool may refuse what comes back. If it panics, nothing is said. -/
theorem copies_broken {before after clones : List α} {x : α} {panic : Panic}
    (enough : elements.length ≤ slots.length) (split : elements = before ++ x :: after)
    (done : before.map Element.clone = clones.map .ok) (failed : Element.clone x = .error panic) :
    Copies elements clear handle (Left [.rented elements.length (some slots)] [])
      (pool.fillAtOnce clear elements.length slots (cloneRun elements) >>=
        Buffer.ofPopulated clear handle) := by
  let returned := clones ++ slots.drop before.length
  have answered {past : Journal α} (left : Left [.rented elements.length (some slots)] clones past)
      (verdict : Verdict) (calm : verdict ≠ .panicked) (notes : List Note) :
      let journal := past ++ .returned returned clear verdict :: notes.map .noted
      Copied elements clear handle (.panicked panic) journal.traffic journal.cloned := by
    intro journal
    have handed : Left _ clones journal := left.request rfl notes
    rw [handed.requests, handed.made]
    exact .broken slots before x after clones panic verdict enough split done failed calm
  have unwound : Ensures (fun (_ : σ) => Left [.rented elements.length (some slots)] clones)
      (whileUnwinding panic (pool.giveBack returned clear)) (fun (_ : Populated α) _ _ => False)
      fun ending _ j => j.Calm → Copied elements clear handle ending.raised j.traffic j.cloned := by
    apply ensures_whileUnwinding
    apply Pool.ensures_giveBack
    · intro s past next notes left _ _
      exact answered left .accepted nofun notes
    · intro s past error next notes left _ _
      rw [noted_concat]
      exact answered left (.refused error) nofun _
    · intro s past _ next notes _ _ calm
      exact absurd (calm _ (List.mem_append_right _ (List.mem_cons_self ..))) Bool.false_ne_true
  rw [Pool.fillAtOnce_broken enough split done failed, Act.bind_assoc]
  exact ensures_bind (ensures_offer _ clones) fun _ => ensures_bind unwound fun _ _ _ => False.elim

theorem copies_slots (nonempty : elements ≠ []) (enough : elements.length ≤ slots.length) :
    Copies elements clear handle (Left [.rented elements.length (some slots)] [])
      (pool.fillAtOnce clear elements.length slots (cloneRun elements) >>=
        Buffer.ofPopulated clear handle) := by
  rcases clones_or_panics elements with
    ⟨values, clones⟩ | ⟨before, x, after, clones, panic, split, done, failed⟩
  · exact copies_whole nonempty enough clones
  · exact copies_broken enough split done failed

theorem rentChecked_copies :
    Ensures (fun _ j => j = []) (pool.rentChecked elements.length)
      (fun slots _ j => elements.length ≤ slots.length ∧
        Left [.rented elements.length (some slots)] [] j)
      (fun ending _ j => j.Calm →
        Copied elements clear handle ending.raised j.traffic j.cloned) := by
  have requested (granted : Option (List α)) (notes : List Note) :
      Left [.rented elements.length granted] []
        ([] ++ .rented elements.length granted :: notes.map .noted) :=
    Left.request (⟨rfl, rfl⟩ : Left [] [] []) rfl notes
  apply Pool.ensures_rentChecked
  · rintro s _ slots next notes rfl _ enough
    rw [noted_concat]
    exact ⟨enough, requested (some slots) _⟩
  · rintro s _ slots next notes rfl _ less _
    rw [(requested (some slots) notes).requests, (requested (some slots) notes).made]
    exact .short slots less
  · intro s past _ next notes _ _ calm
    exact absurd (calm _ (List.mem_append_right _ (List.mem_cons_self ..))) Bool.false_ne_true

namespace Settings

variable (pools : ι → Pool σ α) (settings : Settings ι)

theorem build_copies (elements : List α) :
    Copies elements (settings.clear α) settings.handle (fun j => j = [])
      (settings.build pools (.copySlice elements)) := by
  by_cases nothing : elements = []
  · subst nothing
    rintro s _ rfl
    rw [build_of_nothing pools settings (.copySlice []) rfl nofun s]
    exact .nothing rfl
  · have needed : elements.isEmpty = false := by simpa using nothing
    rw [build_eq_populate]
    simp only [populate, Pool.copySlice, needed, Bool.false_eq_true, if_false, Act.bind_assoc]
    refine ensures_bind rentChecked_copies fun slots => ?_
    refine ensures_given (fun _ _ lent => lent.1) fun enough => ?_
    exact (copies_slots nothing enough).before fun _ _ lent => lent.2

/-- A source that lies in memory is asked its length and then copied from like a slice. -/
theorem build_copyFrom {source : BulkSource α} {elements : List α} (stores : source.Stores elements)
    (within : elements.length ≤ Element.maxLen α) : settings.build pools (.copyFrom source) =
      record [.measured elements.length] >>= fun _ =>
        settings.build pools (.copySlice elements) := by
  have same : source = .ofList elements := by
    cases stores with
    | inOne => rfl
    | inTwo front back whole => rw [BulkSource.ofRuns_eq, whole]
  have admitted : (Method.copyFrom (.ofList elements)).Admitted settings.suggestedCapacity :=
    Method.admitted_of_firstLen_le rfl within
  have slice : (Method.copySlice elements).Admitted settings.suggestedCapacity := nofun
  rw [same, build_eq_populate, build_eq_populate, populate_stages, populate_stages,
    Pool.checkGiven_of_admitted admitted, Pool.checkGiven_of_admitted slice]
  simp only [Method.measurement, record_nil_bind, Act.pure_bind, Act.bind_assoc]
  rfl

/-- It does not matter how elements in memory are copied, of which there are never more than a buffer
can hold. A slice and any source that stores the same elements have the pool see the same requests
with the same slots, leave the same clones, and end alike; that a source is asked its length is all
the difference. What they do is told by the grant and by the first clone that panics, if the pool
does not panic itself. -/
theorem copies_agree {elements : List α} (within : elements.length ≤ Element.maxLen α) (s : σ) :
    let copied := (settings.build pools (.copySlice elements)).run s
    (∀ source : BulkSource α, source.Stores elements →
        (settings.build pools (.copyFrom source)).run s =
          ⟨copied.exit, copied.state, .measured elements.length :: copied.journal⟩) ∧
      (copied.journal.Calm → Copied elements (settings.clear α) settings.handle copied.exit
        copied.journal.traffic copied.journal.cloned) := by
  intro copied
  constructor
  · intro source stores
    rw [build_copyFrom pools settings stores within]
    exact run_bind_done _ (run_record ..)
  · intro calm
    have copies := build_copies pools settings elements s [] rfl
    cases ended : copied.exit with
    | done buffer =>
      rw [ended] at copies
      exact copies
    | failed | panicked | aborted =>
      rw [ended] at copies
      exact copies calm

/-- A queue whose second run begins with an element that cannot be cloned. -/
theorem copies_agree_broken :
    let pools : Unit → Pool (PlannedPool Fragile) Fragile := fun _ => PlannedPool.asPool Fragile
    let settings : Settings Unit := ⟨.never, 4, ()⟩
    let start : PlannedPool Fragile := .start ⟨[1], 4096, ⟨7⟩, [], [], []⟩
    let copied := (settings.build pools (.copySlice [⟨1⟩, ⟨13⟩, ⟨2⟩])).run start
    (settings.build pools (.copyFrom (.ofRuns [⟨1⟩] [⟨13⟩, ⟨2⟩]))).run start =
        ⟨copied.exit, copied.state, .measured 3 :: copied.journal⟩ ∧
      copied.exit = .panicked (.raised "cannot clone 13") ∧
      Copied [⟨1⟩, ⟨13⟩, ⟨2⟩] false () copied.exit
        [.rented 3 (some [⟨7⟩, ⟨7⟩, ⟨7⟩, ⟨7⟩]), .returned [⟨1⟩, ⟨7⟩, ⟨7⟩, ⟨7⟩] false .accepted]
        [⟨1⟩] := by
  intro pools settings start copied
  have agree := copies_agree pools settings (show [⟨1⟩, ⟨13⟩, ⟨2⟩].length ≤ Element.maxLen Fragile by
    decide) start
  exact ⟨agree.1 _ (.inTwo _ _ rfl), rfl, agree.2 (by decide)⟩

/-- A pool that lends too little gets in the way of elements that can all be cloned. -/
theorem copies_agree_short :
    let pools : Unit → Pool (PlannedPool UInt8) UInt8 := fun _ => PlannedPool.asPool UInt8
    let copied := ((⟨.never, 4, ()⟩ : Settings Unit).build pools (.copySlice [1, 2, 3])).run
      (.start ⟨[-1], 4096, 7, [], [], []⟩)
    copied.journal.Calm ∧ (∀ x : UInt8, Element.clone x = .ok x) ∧
      ¬ ∃ buffer, copied.exit = .done buffer ∧ buffer.elements = [1, 2, 3] := by
  intro pools copied
  have ended : copied.exit = .panicked (.shortGrant 3 2) := rfl
  refine ⟨by decide, fun _ => rfl, ?_⟩
  rintro ⟨buffer, done, _⟩
  cases ended.symm.trans done

end Settings

end

end BufferRental
