import BufferRental.Element.Kind
import BufferRental.Proofs.Shelves
import Mathlib.Order.Bounds.Basic

/-! Each length of buffers on its own. A request to a bucket pool is about the stack of one length
or about none, and what it gets depends on that stack only. So requests for different lengths may
change places: each one gets what it got before, and in the end the pool is the same. -/
namespace BufferRental

/-- The length whose stack serves a request. Requests beyond the limit have none, and neither has
the return of a buffer that no request could have been served with. -/
def BucketLimits.shelf? (limits : BucketLimits) : Request α → Option Nat
  | .rent minLen =>
    if minLen ≤ limits.maxBufferLen then some (BucketPool.servedLen minLen) else none
  | .hand slots _ =>
    if isBucketLen slots.length && slots.length ≤ limits.maxBufferLen then some slots.length
    else none

def Pool.answers (pool : Pool σ α) : List (Request α) → σ → List (Request α × Journal α)
  | [], _ => []
  | request :: rest, s =>
    let outcome := (pool.serve request).run s
    (request, outcome.journal) :: answers pool rest outcome.state

namespace BucketLimits

variable {limits : BucketLimits} {length minLen : Nat} {slots : List α} {clear : Bool}

theorem shelf?_of_rounded (within : minLen ≤ limits.maxBufferLen)
    (rounded : IsLeast (sufficientLens minLen) length) :
    limits.shelf? (.rent minLen : Request α) = some length := by
  rw [shelf?, if_pos within, rounded.unique (BucketPool.servedLen_isLeast minLen)]

theorem shelf?_of_beyond (beyond : limits.maxBufferLen < minLen) :
    limits.shelf? (.rent minLen : Request α) = none :=
  if_neg (Nat.not_le.mpr beyond)

theorem shelf?_of_shelved (shelved : limits.Shelved slots.length) :
    limits.shelf? (.hand slots clear) = some slots.length := by
  have bucket : isBucketLen slots.length = true := by
    simp [isBucketLen, isPowerOfTwo_iff.mpr shelved.power, shelved.least]
  simp [shelf?, bucket, shelved.most]

theorem shelf?_of_unkept (unkept : ¬ limits.Shelved slots.length) :
    limits.shelf? (.hand slots clear) = none := by
  apply if_neg
  simp only [isBucketLen, Bool.and_eq_true, decide_eq_true_eq, isPowerOfTwo_iff]
  rintro ⟨⟨power, least⟩, most⟩
  exact unkept ⟨power, least, most⟩

end BucketLimits

namespace Shelves

variable [Element α] {limits : BucketLimits} {shelves next shelves' next' : Shelves α}
  {request : Request α} {events events' : Journal α}

theorem Serves.elsewhere (serves : Serves limits shelves request events next) {length : Nat}
    (other : limits.shelf? request ≠ some length) : next length = shelves length := by
  cases serves with
  | reuse minLen own newest older within rounded idle =>
    rw [limits.shelf?_of_rounded within rounded] at other
    exact replace_other _ _ fun same => other (congrArg some same.symm)
  | keep slots clear shelved room =>
    rw [limits.shelf?_of_shelved shelved] at other
    exact replace_other _ _ fun same => other (congrArg some same.symm)
  | fresh | unpooled | full | oversize | foreign => rfl

theorem Serves.alike_rent {minLen : Nat}
    (first : Serves limits shelves (.rent minLen) events next)
    (second : Serves limits shelves' (.rent minLen) events' next')
    (stack : ∀ length, limits.shelf? (.rent minLen : Request α) = some length →
      shelves length = shelves' length) :
    events = events' ∧ ∀ length, limits.shelf? (.rent minLen : Request α) = some length →
      next length = next' length := by
  cases first with
  | reuse _ length newest older within rounded idle =>
    have own := limits.shelf?_of_rounded (α := α) within rounded
    have lies := (stack length own).symm.trans idle
    rw [own]
    cases second with
    | reuse _ length' newest' older' _ rounded' idle' =>
      cases rounded.unique rounded'
      cases idle'.symm.trans lies
      exact ⟨rfl, by rintro _ ⟨⟩; simp⟩
    | fresh _ length' _ rounded' none =>
      cases rounded.unique rounded'
      cases none.symm.trans lies
    | unpooled _ beyond => exact absurd within (Nat.not_le.mpr beyond)
  | fresh _ length within rounded idle =>
    have own := limits.shelf?_of_rounded (α := α) within rounded
    have lies := (stack length own).symm.trans idle
    rw [own]
    cases second with
    | reuse _ length' newest' older' _ rounded' idle' =>
      cases rounded.unique rounded'
      cases idle'.symm.trans lies
    | fresh _ length' _ rounded' _ =>
      cases rounded.unique rounded'
      exact ⟨rfl, by rintro _ ⟨⟩; exact idle.trans lies.symm⟩
    | unpooled _ beyond => exact absurd within (Nat.not_le.mpr beyond)
  | unpooled _ beyond =>
    rw [limits.shelf?_of_beyond beyond]
    cases second with
    | reuse _ _ _ _ within | fresh _ _ within => exact absurd within (Nat.not_le.mpr beyond)
    | unpooled => exact ⟨rfl, nofun⟩

theorem Serves.alike_hand {slots : List α} {clear : Bool}
    (first : Serves limits shelves (.hand slots clear) events next)
    (second : Serves limits shelves' (.hand slots clear) events' next')
    (stack : ∀ length, limits.shelf? (.hand slots clear) = some length →
      shelves length = shelves' length) :
    events = events' ∧ ∀ length, limits.shelf? (.hand slots clear) = some length →
      next length = next' length := by
  by_cases shelved : limits.Shelved slots.length
  · have own : limits.shelf? (.hand slots clear) = some slots.length :=
      limits.shelf?_of_shelved shelved
    have same := stack _ own
    rw [own]
    cases first with
    | keep _ _ _ room =>
      cases second with
      | keep => exact ⟨rfl, by rintro _ ⟨⟩; simp [same]⟩
      | full _ _ _ room' => exact absurd (same ▸ room) (Nat.not_lt.mpr (Nat.le_of_eq room'.symm))
      | oversize _ _ beyond => exact absurd shelved.most (Nat.not_le.mpr beyond)
      | foreign _ _ _ unkept => exact absurd shelved unkept
    | full _ _ _ room =>
      cases second with
      | keep _ _ _ room' => exact absurd (same ▸ room') (Nat.not_lt.mpr (Nat.le_of_eq room.symm))
      | full => exact ⟨rfl, by rintro _ ⟨⟩; exact same⟩
      | oversize _ _ beyond => exact absurd shelved.most (Nat.not_le.mpr beyond)
      | foreign _ _ _ unkept => exact absurd shelved unkept
    | oversize _ _ beyond => exact absurd shelved.most (Nat.not_le.mpr beyond)
    | foreign _ _ _ unkept => exact absurd shelved unkept
  · rw [limits.shelf?_of_unkept shelved]
    cases first with
    | keep _ _ kept | full _ _ kept => exact absurd kept shelved
    | oversize _ _ beyond =>
      cases second with
      | keep _ _ kept | full _ _ kept => exact absurd kept shelved
      | oversize => exact ⟨rfl, nofun⟩
      | foreign _ _ within => exact absurd within (Nat.not_le.mpr beyond)
    | foreign _ _ within =>
      cases second with
      | keep _ _ kept | full _ _ kept => exact absurd kept shelved
      | oversize _ _ beyond => exact absurd within (Nat.not_le.mpr beyond)
      | foreign => exact ⟨rfl, nofun⟩

/-- What a request gets, and what it leaves in its own stack, is told by that stack. -/
theorem Serves.alike (first : Serves limits shelves request events next)
    (second : Serves limits shelves' request events' next')
    (stack : ∀ length, limits.shelf? request = some length → shelves length = shelves' length) :
    events = events' ∧
      ∀ length, limits.shelf? request = some length → next length = next' length := by
  cases request with
  | rent minLen => exact first.alike_rent second stack
  | hand slots clear => exact first.alike_hand second stack

end Shelves

namespace BucketPool

variable [Element α] {pool other : BucketPool α}

def about (limits : BucketLimits) (length : Nat) (request : Request α) : Bool :=
  limits.shelf? request = some length

/-- Requests for other lengths may be left out: those that remain get what they got, also from
another pool with the same stack. The pools are general, as earlier requests change them. -/
theorem answers_about (sound : pool.Sound) (sound' : other.Sound)
    (limits : other.limits = pool.limits) (length : Nat) (requests : List (Request α))
    (stack : pool.shelves length = other.shelves length) :
    ((asPool α).answers requests pool).filter (about pool.limits length ·.1) =
        (asPool α).answers (requests.filter (about pool.limits length)) other ∧
      ((asPool α).serveAll requests pool).1.shelves length =
        ((asPool α).serveAll (requests.filter (about pool.limits length)) other).1.shelves length := by
  induction requests generalizing pool other with
  | nil => exact ⟨rfl, stack⟩
  | cons request rest ih =>
    obtain ⟨serves, kept, next⟩ := serve_serves sound request
    cases mine : about pool.limits length request with
    | true =>
      obtain ⟨serves', kept', next'⟩ := serve_serves sound' request
      rw [limits] at serves'
      have shelf : pool.limits.shelf? request = some length := of_decide_eq_true mine
      obtain ⟨same, left⟩ := serves.alike serves' fun own about => by
        cases about.symm.trans shelf
        exact stack
      obtain ⟨answers, last⟩ := ih next next' (kept'.trans (limits.trans kept.symm)) (left length shelf)
      rw [kept] at answers last
      rw [List.filter_cons_of_pos mine]
      refine ⟨?_, last⟩
      simp only [Pool.answers, List.filter_cons, mine, if_true, same, answers]
    | false =>
      have left := serves.elsewhere (of_decide_eq_false mine)
      obtain ⟨answers, last⟩ := ih next sound' (limits.trans kept.symm) (left.trans stack)
      rw [kept] at answers last
      rw [List.filter_cons_of_neg (Bool.eq_false_iff.mp mine)]
      refine ⟨?_, last⟩
      simp only [Pool.answers, List.filter_cons, mine, Bool.false_eq_true, if_false, answers]

/-- A request that no stack serves gets what it gets from an empty pool. -/
theorem answers_loose (sound : pool.Sound) (requests : List (Request α)) :
    ∀ entry ∈ (asPool α).answers requests pool, pool.limits.shelf? entry.1 = none →
      entry.2 = (((asPool α).serve entry.1).run (empty pool.limits)).journal := by
  induction requests generalizing pool with
  | nil => nofun
  | cons request rest ih =>
    obtain ⟨serves, kept, next⟩ := serve_serves sound request
    have later := ih next
    rw [kept] at later
    intro entry member loose
    rcases List.mem_cons.mp member with rfl | member
    · obtain ⟨fresh, _⟩ := serve_serves (empty_sound pool.limits) request
      exact (serves.alike fresh fun length about => nomatch loose.symm.trans about).1
    · exact later entry member loose

/-- Requests for different lengths do not meet. If two runs make the same requests for each length
in the same order, then each of these requests gets the same in both, and in the end both pools are
the same; requests beyond the limit and refused returns may stand anywhere, and get the same
everywhere. -/
theorem lengths_apart (limits : BucketLimits) (before first second : List (Request α))
    (same : ∀ length, first.filter (about limits length) = second.filter (about limits length)) :
    let reached := ((asPool α).serveAll before (empty limits)).1
    let early := (asPool α).answers first reached
    let late := (asPool α).answers second reached
    (∀ length, early.filter (about limits length ·.1) = late.filter (about limits length ·.1)) ∧
      (∀ entry ∈ early ++ late, limits.shelf? entry.1 = none →
        entry.2 = (((asPool α).serve entry.1).run (empty limits)).journal) ∧
      ((asPool α).serveAll first reached).1 = ((asPool α).serveAll second reached).1 := by
  intro reached early late
  obtain ⟨_, kept, sound⟩ := serveAll_serves (empty_sound (α := α) limits) before
  replace kept : reached.limits = limits := kept
  have own (requests : List (Request α)) (length : Nat) :=
    answers_about sound sound rfl length requests rfl
  have loose (requests : List (Request α)) := answers_loose sound requests
  rw [kept] at own loose
  refine ⟨?_, ?_, ?_⟩
  · intro length
    rw [(own first length).1, (own second length).1, same]
  · intro entry member
    rcases List.mem_append.mp member with early | late
    · exact loose first entry early
    · exact loose second entry late
  · obtain ⟨_, limits₁, sound₁⟩ := serveAll_serves sound first
    obtain ⟨_, limits₂, sound₂⟩ := serveAll_serves sound second
    apply sound₁.ext sound₂ (limits₁.trans limits₂.symm)
    funext length
    rw [(own first length).2, (own second length).2, same]

/-- Two buffers come back and two are lent, of 16 and of 32 slots, and one request is beyond the
limit. In both orders the buffer of 16 slots is lent again and that of 32 slots stays, cleared. -/
theorem lengths_apart_two :
    let limits : BucketLimits := ⟨32, 1, by decide⟩
    let short : List UInt8 := List.replicate 16 1
    let long : List UInt8 := List.replicate 32 2
    let first : List (Request UInt8) :=
      [.hand short false, .rent 20, .rent 40, .hand long true, .rent 3]
    let second : List (Request UInt8) :=
      [.rent 20, .hand short false, .rent 3, .hand long true, .rent 40]
    let start : BucketPool UInt8 := .empty limits
    ((asPool UInt8).serveAll first start).1.buckets = [[], [Element.blanks UInt8 32]] ∧
      ((asPool UInt8).answers first start).filter (about limits 16 ·.1) =
        ((asPool UInt8).answers second start).filter (about limits 16 ·.1) ∧
      ((asPool UInt8).serveAll first start).1 = ((asPool UInt8).serveAll second start).1 := by
  intro limits short long first second start
  have same (length : Nat) :
      first.filter (about limits length) = second.filter (about limits length) := by
    have kept : limits.shelf? (.hand short false) = some 16 ∧
        limits.shelf? (.hand long true) = some 32 := by decide +kernel
    have rented : limits.shelf? (.rent 3 : Request UInt8) = some 16 ∧
        limits.shelf? (.rent 20 : Request UInt8) = some 32 ∧
        limits.shelf? (.rent 40 : Request UInt8) = none := by decide +kernel
    simp only [first, second, List.filter_cons, about, kept, rented]
    by_cases sixteen : 16 = length
    · subst sixteen
      rfl
    · simp [sixteen]
  obtain ⟨answers, _, last⟩ := lengths_apart limits [] first second same
  exact ⟨by decide +kernel, answers 16, last⟩

end BucketPool

end BufferRental
