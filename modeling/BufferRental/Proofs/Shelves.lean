import BufferRental.Pool.Bucket
import Mathlib.Algebra.BigOperators.Group.Finset.Basic
import Mathlib.Order.Bounds.Defs

/-! A bucket pool as shelves: for each length a stack of idle buffers. `Serves` is the rule of the
shelves; it knows nothing of the places of buckets or of how a length is rounded. Every request to
a bucket pool is served by this rule, contents included, and so is every run of requests. -/
namespace BufferRental

open Element

inductive Request (α : Type) where
  | rent (minLen : Nat)
  | hand (slots : List α) (clear : Bool)

namespace Pool

def serve (pool : Pool σ α) : Request α → Act σ α Unit
  | .rent minLen => do let _ ← pool.rentAny minLen
  | .hand slots clear => do let _ ← pool.handBack slots clear

/-- Serves one request after the other; a panic of the pool ends none of those that follow. -/
def serveAll (pool : Pool σ α) : List (Request α) → σ → σ × Journal α
  | [], s => (s, [])
  | request :: rest, s =>
    let outcome := (pool.serve request).run s
    let (last, journal) := serveAll pool rest outcome.state
    (last, outcome.journal ++ journal)

end Pool

structure BucketLimits.Shelved (limits : BucketLimits) (length : Nat) : Prop where
  power : length.isPowerOfTwo
  least : minBucketLen ≤ length
  most : length ≤ limits.maxBufferLen

def sufficientLens (minLen : Nat) : Set Nat :=
  {length | length.isPowerOfTwo ∧ minBucketLen ≤ length ∧ minLen ≤ length}

/-- The idle buffers of every length, the newest first. -/
abbrev Shelves (α : Type) := Nat → List (List α)

namespace Shelves

def none : Shelves α := fun _ => []

def replace (shelves : Shelves α) (length : Nat) (idle : List (List α)) : Shelves α :=
  fun other => if other = length then idle else shelves other

@[simp] theorem replace_same (shelves : Shelves α) (length : Nat) (idle : List (List α)) :
    shelves.replace length idle length = idle := if_pos rfl

theorem replace_other (shelves : Shelves α) {length other : Nat} (idle : List (List α))
    (apart : other ≠ length) : shelves.replace length idle other = shelves other := if_neg apart

structure Fit (limits : BucketLimits) (shelves : Shelves α) : Prop where
  lengths : ∀ length, ∀ slots ∈ shelves length, slots.length = length
  bounded : ∀ length, (shelves length).length ≤ limits.maxPerBucket
  shelved : ∀ length, shelves length ≠ [] → limits.Shelved length

variable [Element α]

inductive Serves (limits : BucketLimits) (shelves : Shelves α) :
    Request α → Journal α → Shelves α → Prop where
  /-- The newest buffer of the rounded length is lent as it was kept. -/
  | reuse (minLen length : Nat) (newest : List α) (older : List (List α))
      (within : minLen ≤ limits.maxBufferLen) (rounded : IsLeast (sufficientLens minLen) length)
      (idle : shelves length = newest :: older) :
    Serves limits shelves (.rent minLen) [.rented minLen (some newest)] (shelves.replace length older)
  | fresh (minLen length : Nat) (within : minLen ≤ limits.maxBufferLen)
      (rounded : IsLeast (sufficientLens minLen) length) (idle : shelves length = []) :
    Serves limits shelves (.rent minLen)
      [.rented minLen (some (blanks α length)), .noted (.bucketEmpty length)] shelves
  | unpooled (minLen : Nat) (beyond : limits.maxBufferLen < minLen) :
    Serves limits shelves (.rent minLen)
      [.rented minLen (some (blanks α minLen)), .noted (.oversizeRequest minLen)] shelves
  | keep (slots : List α) (clear : Bool) (shelved : limits.Shelved slots.length)
      (room : (shelves slots.length).length < limits.maxPerBucket) :
    Serves limits shelves (.hand slots clear) [.returned slots clear .accepted]
      (shelves.replace slots.length
        ((if clear then blanks α slots.length else slots) :: shelves slots.length))
  /-- The older buffers stay, and the one that is handed back is dropped. -/
  | full (slots : List α) (clear : Bool) (shelved : limits.Shelved slots.length)
      (room : (shelves slots.length).length = limits.maxPerBucket) :
    Serves limits shelves (.hand slots clear) [.returned slots clear .accepted] shelves
  | oversize (slots : List α) (clear : Bool) (beyond : limits.maxBufferLen < slots.length) :
    Serves limits shelves (.hand slots clear)
      [.returned slots clear .accepted, .noted (.oversizeReturn slots.length)] shelves
  | foreign (slots : List α) (clear : Bool) (within : slots.length ≤ limits.maxBufferLen)
      (unkept : ¬ limits.Shelved slots.length) :
    Serves limits shelves (.hand slots clear)
      [.returned slots clear (.refused (.foreignBuffer slots.length))] shelves

inductive ServesAll (limits : BucketLimits) :
    Shelves α → List (Request α) → Journal α → Shelves α → Prop where
  | none (shelves : Shelves α) : ServesAll limits shelves [] [] shelves
  | next {shelves middle last : Shelves α} {request : Request α} {rest : List (Request α)}
      {events journal : Journal α} (first : Serves limits shelves request events middle)
      (later : ServesAll limits middle rest journal last) :
    ServesAll limits shelves (request :: rest) (events ++ journal) last

omit [Element α] in
theorem none_fit (limits : BucketLimits) : Fit limits (none : Shelves α) :=
  ⟨fun _ _ => nofun, fun _ => Nat.zero_le _, fun _ idle => absurd rfl idle⟩

omit [Element α] in
/-- A stack may be replaced by one that fits its length. -/
theorem Fit.replace {limits : BucketLimits} {shelves : Shelves α} (fit : shelves.Fit limits)
    {length : Nat} {idle : List (List α)} (lengths : ∀ slots ∈ idle, slots.length = length)
    (bounded : idle.length ≤ limits.maxPerBucket) (shelved : limits.Shelved length) :
    (shelves.replace length idle).Fit limits := by
  constructor
  · intro other
    by_cases same : other = length
    · subst same
      simpa using lengths
    · rw [replace_other _ _ same]
      exact fit.lengths other
  · intro other
    by_cases same : other = length
    · subst same
      simpa using bounded
    · rw [replace_other _ _ same]
      exact fit.bounded other
  · intro other idle
    by_cases same : other = length
    · exact same ▸ shelved
    · rw [replace_other _ _ same] at idle
      exact fit.shelved other idle

theorem Serves.fit {limits : BucketLimits} {shelves next : Shelves α} {request : Request α}
    {events : Journal α} (serves : Serves limits shelves request events next)
    (fit : shelves.Fit limits) : next.Fit limits := by
  cases serves with
  | fresh | unpooled | full | oversize | foreign => exact fit
  | reuse minLen length newest older within rounded idle =>
    have lengths := fit.lengths length
    have bounded := fit.bounded length
    have shelved := fit.shelved length (by simp [idle])
    rw [idle] at lengths bounded
    refine fit.replace (fun slots old => lengths slots (List.mem_cons_of_mem _ old)) ?_ shelved
    exact Nat.le_of_succ_le bounded
  | keep slots clear shelved room =>
    refine fit.replace ?_ room shelved
    intro kept member
    rcases List.mem_cons.mp member with rfl | old
    · cases clear <;> simp
    · exact fit.lengths _ kept old

end Shelves

theorem bucketIndex?_eq_some_iff {length index : Nat} :
    bucketIndex? length = some index ↔ length = minBucketLen * 2 ^ index := by
  have sixteen : minBucketLen = 2 ^ 4 := rfl
  have log : minBucketLen.log2 = 4 := by decide
  unfold bucketIndex? isBucketLen
  rw [log]
  constructor
  · intro found
    split at found
    · rename_i kept
      simp only [Bool.and_eq_true, isPowerOfTwo_iff, decide_eq_true_eq] at kept
      obtain ⟨⟨power, rfl⟩, least⟩ := kept
      have large : 4 ≤ power := (Nat.pow_le_pow_iff_right (by decide)).mp (sixteen ▸ least)
      rw [Nat.log2_two_pow, Option.some.injEq] at found
      rw [sixteen, ← Nat.pow_add, ← found, Nat.add_sub_cancel' large]
    · cases found
  · rintro rfl
    rw [sixteen, ← Nat.pow_add]
    have kept : (isPowerOfTwo (2 ^ (4 + index)) && decide (2 ^ 4 ≤ 2 ^ (4 + index))) = true := by
      simp only [Bool.and_eq_true, isPowerOfTwo_iff, decide_eq_true_eq]
      exact ⟨⟨_, rfl⟩, Nat.pow_le_pow_right (by decide) (Nat.le_add_right 4 index)⟩
    rw [if_pos kept, Nat.log2_two_pow, Nat.add_sub_cancel_left]

theorem bucketLen_iff {length : Nat} :
    (length.isPowerOfTwo ∧ minBucketLen ≤ length) ↔ ∃ index, length = minBucketLen * 2 ^ index := by
  constructor
  · rintro ⟨power, least⟩
    have found : bucketIndex? length = some (length.log2 - minBucketLen.log2) := by
      have kept : isBucketLen length = true := by
        simp [isBucketLen, isPowerOfTwo_iff.mpr power, least]
      rw [bucketIndex?, if_pos kept]
    exact ⟨_, bucketIndex?_eq_some_iff.mp found⟩
  · rintro ⟨index, rfl⟩
    refine ⟨⟨4 + index, ?_⟩, Nat.le_mul_of_pos_right _ (Nat.two_pow_pos index)⟩
    rw [Nat.pow_add]
    rfl

namespace BucketPool

/-- The length that serves a request is the least one that suffices. -/
theorem servedLen_isLeast (minLen : Nat) : IsLeast (sufficientLens minLen) (servedLen minLen) := by
  have reaches : max minLen minBucketLen ≤ servedLen minLen := le_roundUp _
  constructor
  · refine ⟨isPowerOfTwo_iff.mp (isPowerOfTwo_roundUp _), ?_, ?_⟩
    · exact Nat.le_trans (Nat.le_max_right ..) reaches
    · exact Nat.le_trans (Nat.le_max_left ..) reaches
  · rintro length ⟨power, least, enough⟩
    exact roundUp_le power (Nat.max_le.mpr ⟨enough, least⟩)

theorem limits_rounded (limits : BucketLimits) {minLen : Nat}
    (within : minLen ≤ limits.maxBufferLen) : limits.Shelved (servedLen minLen) := by
  have kept := limits.hasBucket
  simp only [isBucketLen, Bool.and_eq_true, isPowerOfTwo_iff, decide_eq_true_eq] at kept
  obtain ⟨⟨power, least, _⟩, lowest⟩ := servedLen_isLeast minLen
  exact ⟨power, least, lowest ⟨kept.1, kept.2, within⟩⟩

def shelves (pool : BucketPool α) : Shelves α := fun length =>
  ((pool.bucket? length).map Prod.snd).getD []

/-- There is a bucket for just the lengths that are kept, and every buffer lies in its own. -/
structure Sound (pool : BucketPool α) : Prop where
  places : ∀ index, index < pool.buckets.length ↔
    minBucketLen * 2 ^ index ≤ pool.limits.maxBufferLen
  fit : pool.shelves.Fit pool.limits

variable {pool : BucketPool α} {length index : Nat}

theorem bucket?_of_place (place : bucketIndex? length = some index) :
    pool.bucket? length = pool.buckets[index]?.map (index, ·) := by
  rw [bucket?, place, Option.map_eq_bind]
  rfl

theorem bucket?_of_shelved
    (places : ∀ index, index < pool.buckets.length ↔
      minBucketLen * 2 ^ index ≤ pool.limits.maxBufferLen)
    (shelved : pool.limits.Shelved length) :
    ∃ index, bucketIndex? length = some index ∧ index < pool.buckets.length ∧
      pool.bucket? length = some (index, pool.shelves length) := by
  obtain ⟨index, rfl⟩ := bucketLen_iff.mp ⟨shelved.power, shelved.least⟩
  have place := bucketIndex?_eq_some_iff.mpr (rfl : minBucketLen * 2 ^ index = _)
  have bound := (places index).mpr shelved.most
  refine ⟨index, place, bound, ?_⟩
  simp only [shelves, bucket?_of_place place, List.getElem?_eq_getElem bound]
  rfl

theorem bucket?_of_not_shelved
    (places : ∀ index, index < pool.buckets.length ↔
      minBucketLen * 2 ^ index ≤ pool.limits.maxBufferLen)
    (unkept : ¬ pool.limits.Shelved length) : pool.bucket? length = none := by
  cases place : bucketIndex? length with
  | none => simp [bucket?, place]
  | some index =>
    have exact := bucketIndex?_eq_some_iff.mp place
    obtain ⟨power, least⟩ := bucketLen_iff.mpr ⟨index, exact⟩
    have beyond : ¬ index < pool.buckets.length := by
      rw [places, ← exact]
      exact fun most => unkept ⟨power, least, most⟩
    rw [bucket?_of_place place, List.getElem?_eq_none (Nat.not_lt.mp beyond)]
    rfl

/-- A change at one place changes the stack of one length. -/
theorem shelves_replaceBucket (place : bucketIndex? length = some index)
    (bound : index < pool.buckets.length) (idle : List (List α)) :
    (pool.replaceBucket index idle).shelves = pool.shelves.replace length idle := by
  funext other
  by_cases same : other = length
  · subst same
    simp [shelves, bucket?_of_place place, replaceBucket, bound]
  · rw [Shelves.replace_other _ _ same]
    cases place' : bucketIndex? other with
    | none => simp [shelves, bucket?, place']
    | some index' =>
      have apart : index ≠ index' := by
        rintro rfl
        rw [bucketIndex?_eq_some_iff] at place place'
        exact same (place'.trans place.symm)
      simp [shelves, bucket?_of_place place', replaceBucket, List.getElem?_set_ne apart]

@[simp] theorem shelves_empty (limits : BucketLimits) :
    (empty limits : BucketPool α).shelves = Shelves.none := by
  funext length
  cases place : bucketIndex? length with
  | none => simp [shelves, bucket?, place, Shelves.none]
  | some index =>
    rw [shelves, bucket?_of_place place]
    cases found : (empty limits : BucketPool α).buckets[index]? with
    | none => rfl
    | some idle =>
      have member := List.mem_of_getElem? found
      simpa [Shelves.none] using (List.mem_replicate.mp member).2

theorem empty_sound (limits : BucketLimits) : (empty limits : BucketPool α).Sound := by
  have kept := limits.hasBucket
  simp only [isBucketLen, Bool.and_eq_true, isPowerOfTwo_iff, decide_eq_true_eq] at kept
  obtain ⟨top, most⟩ := bucketLen_iff.mp kept
  have place := bucketIndex?_eq_some_iff.mpr most
  constructor
  · intro index
    show index < (List.replicate _ []).length ↔ minBucketLen * 2 ^ index ≤ limits.maxBufferLen
    rw [List.length_replicate, place, most, Option.elim_some, Nat.lt_succ_iff,
      Nat.mul_le_mul_left_iff (by decide), Nat.pow_le_pow_iff_right (by decide)]
  · rw [shelves_empty]
    exact Shelves.none_fit limits

/-- The buckets, in order, are the shelves of the lengths that are kept. -/
theorem buckets_eq (pool : BucketPool α) : pool.buckets =
    (List.range pool.buckets.length).map fun index => pool.shelves (minBucketLen * 2 ^ index) := by
  apply List.ext_getElem
  · simp
  · intro index bound _
    have shelf : pool.shelves (minBucketLen * 2 ^ index) = pool.buckets[index] := by
      have place := bucketIndex?_eq_some_iff.mpr (rfl : minBucketLen * 2 ^ index = _)
      rw [shelves, bucket?_of_place place, List.getElem?_eq_getElem bound]
      rfl
    simp [shelf]

/-- Pools with the same limits have the same buckets. -/
theorem Sound.length_buckets {other : BucketPool α} (sound : pool.Sound) (sound' : other.Sound)
    (same : pool.limits = other.limits) : pool.buckets.length = other.buckets.length := by
  have places (index : Nat) : index < pool.buckets.length ↔ index < other.buckets.length := by
    rw [sound.places, sound'.places, same]
  have fewer := mt (places other.buckets.length).mp (Nat.lt_irrefl _)
  have more := mt (places pool.buckets.length).mpr (Nat.lt_irrefl _)
  omega

/-- Limits and shelves tell everything of a pool. -/
theorem Sound.ext {other : BucketPool α} (sound : pool.Sound) (sound' : other.Sound)
    (limits : pool.limits = other.limits) (shelves : pool.shelves = other.shelves) :
    pool = other := by
  have buckets : pool.buckets = other.buckets := by
    rw [buckets_eq pool, buckets_eq other, sound.length_buckets sound' limits, shelves]
  obtain ⟨_, _⟩ := pool
  obtain ⟨_, _⟩ := other
  cases limits
  cases buckets
  rfl

theorem Sound.idleCount_eq (sound : pool.Sound) : pool.idleCount =
    ∑ length ∈ Finset.range (pool.limits.maxBufferLen + 1), (pool.shelves length).length := by
  have counted : pool.idleCount = ∑ index ∈ Finset.range pool.buckets.length,
      (pool.shelves (minBucketLen * 2 ^ index)).length := by
    rw [idleCount, List.length_flatten]
    conv_lhs => rw [buckets_eq, List.map_map]
    rfl
  rw [counted]
  apply Finset.sum_of_injOn fun index => minBucketLen * 2 ^ index
  · intro first _ second _ same
    exact Nat.pow_right_injective (Nat.le_refl 2) (Nat.eq_of_mul_eq_mul_left (by decide) same)
  · intro index member
    simp only [Finset.coe_range, Set.mem_Iio] at member ⊢
    exact Nat.lt_succ_of_le ((sound.places index).mp member)
  · -- a length that no place stands for has nothing idle
    intro length _ unplaced
    rw [List.length_eq_zero_iff]
    by_contra idle
    have shelved := sound.fit.shelved length idle
    obtain ⟨index, rfl⟩ := bucketLen_iff.mp ⟨shelved.power, shelved.least⟩
    exact unplaced ⟨index, by simpa using (sound.places index).mpr shelved.most, rfl⟩
  · intro index _
    rfl

variable [Element α]

/-- Requests are served by the rule of the shelves, and no request makes the pool panic. -/
theorem rent_serves (sound : pool.Sound) (minLen : Nat) :
    ∃ slots next notes, pool.rent minLen = ⟨.ok slots, next, notes⟩ ∧ next.limits = pool.limits ∧
      next.buckets.length = pool.buckets.length ∧
      Shelves.Serves pool.limits pool.shelves (.rent minLen)
        (.rented minLen (some slots) :: notes.map .noted) next.shelves := by
  have rounded := servedLen_isLeast minLen
  unfold rent
  by_cases beyond : pool.limits.maxBufferLen < minLen
  · rw [if_pos beyond]
    exact ⟨_, _, _, rfl, rfl, rfl, .unpooled minLen beyond⟩
  have within := Nat.not_lt.mp beyond
  have kept := limits_rounded pool.limits within
  obtain ⟨index, place, bound, found⟩ := bucket?_of_shelved sound.places kept
  rw [if_neg beyond]
  dsimp only
  rw [found]
  cases idle : pool.shelves (servedLen minLen) with
  | nil => exact ⟨_, _, _, rfl, rfl, rfl, .fresh minLen _ within rounded idle⟩
  | cons newest older =>
    refine ⟨_, _, _, rfl, rfl, List.length_set, ?_⟩
    rw [shelves_replaceBucket place bound]
    exact .reuse minLen _ newest older within rounded idle

theorem takeBack_serves (sound : pool.Sound) (slots : List α) (clear : Bool) :
    ∃ answer next notes, pool.takeBack slots clear = ⟨.ok answer, next, notes⟩ ∧
      next.limits = pool.limits ∧ next.buckets.length = pool.buckets.length ∧
      Shelves.Serves pool.limits pool.shelves (.hand slots clear)
        (.returned slots clear (answer.elim .accepted .refused) :: notes.map .noted)
        next.shelves := by
  unfold takeBack
  dsimp only
  by_cases beyond : pool.limits.maxBufferLen < slots.length
  · rw [if_pos beyond]
    exact ⟨_, _, _, rfl, rfl, rfl, .oversize slots clear beyond⟩
  rw [if_neg beyond]
  by_cases shelved : pool.limits.Shelved slots.length
  · obtain ⟨index, place, bound, found⟩ := bucket?_of_shelved sound.places shelved
    rw [found]
    dsimp only
    by_cases room : (pool.shelves slots.length).length < pool.limits.maxPerBucket
    · rw [if_pos room]
      refine ⟨_, _, _, rfl, rfl, List.length_set, ?_⟩
      rw [shelves_replaceBucket place bound, cleared_eq_blanks]
      exact .keep slots clear shelved room
    · rw [if_neg room]
      have full := Nat.le_antisymm (sound.fit.bounded slots.length) (Nat.not_lt.mp room)
      exact ⟨_, _, _, rfl, rfl, rfl, .full slots clear shelved full⟩
  · rw [bucket?_of_not_shelved sound.places shelved]
    exact ⟨_, _, _, rfl, rfl, rfl, .foreign slots clear (Nat.not_lt.mp beyond) shelved⟩

theorem Sound.of_serves {next : BucketPool α} {request : Request α} {events : Journal α}
    (sound : pool.Sound) (limits : next.limits = pool.limits)
    (size : next.buckets.length = pool.buckets.length)
    (serves : Shelves.Serves pool.limits pool.shelves request events next.shelves) : next.Sound := by
  constructor
  · rw [limits, size]
    exact sound.places
  · rw [limits]
    exact serves.fit sound.fit

theorem serve_serves (sound : pool.Sound) (request : Request α) :
    let outcome := ((asPool α).serve request).run pool
    Shelves.Serves pool.limits pool.shelves request outcome.journal outcome.state.shelves ∧
      outcome.state.limits = pool.limits ∧ outcome.state.Sound := by
  cases request with
  | rent minLen =>
    obtain ⟨slots, next, notes, reply, limits, size, serves⟩ := rent_serves sound minLen
    have ran : ((asPool α).serve (.rent minLen)).run pool =
        ⟨.done (), next, .rented minLen (some slots) :: notes.map .noted⟩ := by
      simp [Pool.serve, Pool.rentAny, asPool, Act.run_bind, Act.bind, reply, -bind_pure_comp]
    rw [ran]
    exact ⟨serves, limits, sound.of_serves limits size serves⟩
  | hand slots clear =>
    obtain ⟨answer, next, notes, reply, limits, size, serves⟩ := takeBack_serves sound slots clear
    have ran : ((asPool α).serve (.hand slots clear)).run pool = ⟨.done (), next,
        .returned slots clear (answer.elim .accepted .refused) :: notes.map .noted⟩ := by
      cases answer <;>
        simp [Pool.serve, Pool.handBack, asPool, Act.run_bind, Act.bind, reply, -bind_pure_comp]
    rw [ran]
    exact ⟨serves, limits, sound.of_serves limits size serves⟩

theorem serveAll_serves (sound : pool.Sound) (requests : List (Request α)) :
    let run := (asPool α).serveAll requests pool
    Shelves.ServesAll pool.limits pool.shelves requests run.2 run.1.shelves ∧
      run.1.limits = pool.limits ∧ run.1.Sound := by
  induction requests generalizing pool with
  | nil => exact ⟨.none _, rfl, sound⟩
  | cons request rest ih =>
    obtain ⟨serves, limits, kept⟩ := serve_serves sound request
    obtain ⟨later, limits', last⟩ := ih kept
    rw [limits] at later limits'
    exact ⟨.next serves later, limits', last⟩

/-- In every run that starts empty, a bucket pool is one bounded stack of idle buffers for each
length that is kept, and it counts them all. -/
theorem runs_as_shelves (limits : BucketLimits) (requests : List (Request α)) :
    let run := (asPool α).serveAll requests (empty limits)
    Shelves.ServesAll limits .none requests run.2 run.1.shelves ∧ run.1.shelves.Fit limits ∧
      (asPool α).idle run.1 = some
        (∑ length ∈ Finset.range (limits.maxBufferLen + 1), (run.1.shelves length).length) := by
  intro run
  obtain ⟨serves, same, sound⟩ := serveAll_serves (empty_sound (α := α) limits) requests
  rw [shelves_empty] at serves
  have fit := sound.fit
  have counted := sound.idleCount_eq
  rw [same] at fit counted
  exact ⟨serves, fit, congrArg some counted⟩

end BucketPool

end BufferRental
