import BufferRental.Proofs.Preservation
import BufferRental.Proofs.Shelves
import BufferRental.Session.World
import Mathlib.Logic.Function.Basic

/-! What clearing guarantees. If every buffer that goes back to a bucket pool is cleared on its
way, by whatever path it goes, then nothing of what buffers held is left in the pool: each idle
buffer is as good as a fresh one, spare slots included, and so is every buffer that is lent. -/
namespace BufferRental

open Element Act

def Request.Clears : Request α → Prop
  | .rent _ => True
  | .hand _ clear => clear = true

/-- What is lent is as long as asked and as good as fresh. -/
def Event.LendsBlank [Element α] : Event α → Prop
  | .rented minLen granted => ∃ length, minLen ≤ length ∧ granted = some (blanks α length)
  | _ => True

namespace Shelves

variable [Element α] {shelves next : Shelves α}

def Blank (shelves : Shelves α) : Prop :=
  ∀ length, ∀ slots ∈ shelves length, slots = blanks α length

theorem none_blank : (none : Shelves α).Blank := fun _ _ => nofun

theorem Blank.replace (blank : shelves.Blank) {length : Nat} {idle : List (List α)}
    (fresh : ∀ slots ∈ idle, slots = blanks α length) : (shelves.replace length idle).Blank := by
  intro other
  by_cases same : other = length
  · subst same
    simpa using fresh
  · rw [replace_other _ _ same]
    exact blank other

theorem Serves.blank {limits : BucketLimits} {request : Request α} {events : Journal α}
    (serves : Serves limits shelves request events next) (blank : shelves.Blank)
    (clears : request.Clears) : next.Blank ∧ ∀ event ∈ events, event.LendsBlank := by
  cases serves with
  | reuse minLen length newest older within rounded idle =>
    have fresh := blank length
    rw [idle] at fresh
    refine ⟨blank.replace fun slots old => fresh slots (List.mem_cons_of_mem _ old), ?_⟩
    rw [List.forall_mem_singleton, fresh newest List.mem_cons_self]
    exact ⟨length, rounded.1.2.2, rfl⟩
  | fresh minLen length within rounded idle =>
    refine ⟨blank, List.forall_mem_cons.mpr ⟨⟨length, rounded.1.2.2, rfl⟩, ?_⟩⟩
    simp [Event.LendsBlank]
  | unpooled minLen beyond =>
    refine ⟨blank, List.forall_mem_cons.mpr ⟨⟨minLen, Nat.le_refl _, rfl⟩, ?_⟩⟩
    simp [Event.LendsBlank]
  | keep slots clear shelved room =>
    refine ⟨blank.replace fun kept member => ?_, by simp [Event.LendsBlank]⟩
    rcases List.mem_cons.mp member with rfl | old
    · exact if_pos clears
    · exact blank _ kept old
  | full | oversize | foreign => exact ⟨blank, by simp [Event.LendsBlank]⟩

end Shelves

structure BucketPool.Clean [Element α] (pool : BucketPool α) : Prop where
  sound : pool.Sound
  blank : pool.shelves.Blank

namespace BucketPool

variable [Element α] {pool : BucketPool α}

theorem empty_clean (limits : BucketLimits) : (empty limits : BucketPool α).Clean := by
  refine ⟨empty_sound limits, ?_⟩
  rw [shelves_empty]
  exact Shelves.none_blank

theorem Clean.idleSlots (clean : pool.Clean) : ∀ slot ∈ pool.idleSlots, slot = Element.blank := by
  intro slot member
  obtain ⟨slots, among, inside⟩ := List.mem_flatten.mp member
  rw [buckets_eq] at among
  obtain ⟨idle, shelf, kept⟩ := List.mem_flatten.mp among
  obtain ⟨index, _, rfl⟩ := List.mem_map.mp shelf
  rw [clean.blank _ slots kept] at inside
  exact List.eq_of_mem_replicate inside

theorem Clean.rent (clean : pool.Clean) (minLen : Nat) :
    ∃ length next notes, minLen ≤ length ∧
      pool.rent minLen = ⟨.ok (blanks α length), next, notes⟩ ∧ next.Clean := by
  obtain ⟨slots, next, notes, reply, limits, size, serves⟩ := rent_serves clean.sound minLen
  obtain ⟨blank, lends⟩ := serves.blank clean.blank trivial
  obtain ⟨length, enough, granted⟩ := lends _ List.mem_cons_self
  cases granted
  exact ⟨length, next, notes, enough, reply, clean.sound.of_serves limits size serves, blank⟩

theorem Clean.takeBack (clean : pool.Clean) (slots : List α) :
    (pool.takeBack slots true).state.Clean := by
  obtain ⟨answer, next, notes, reply, limits, size, serves⟩ :=
    takeBack_serves clean.sound slots true
  rw [reply]
  exact ⟨clean.sound.of_serves limits size serves, (serves.blank clean.blank rfl).1⟩

end BucketPool

namespace World

variable {pools : Handle → BucketPool α}

/-- A world of two bucket pools. -/
def ofPools (pools : Handle → BucketPool α) : World α := ⟨.bucket (pools .own), pools .shared⟩

def idleOf (handle : Handle) (world : World α) : List α :=
  match handle, world.own with
  | .own, .bucket pool => pool.idleSlots
  | .own, .planned _ => []
  | .own, .shared | .shared, _ => world.shared.idleSlots

theorem idleOf_ofPools (handle : Handle) :
    (ofPools pools).idleOf handle = (pools handle).idleSlots := by
  cases handle <;> rfl

variable [Element α]

/-- A request to one pool leaves the other one alone. -/
theorem rent_ofPools (handle : Handle) (minLen : Nat) :
    (World.pools α handle).rent minLen (ofPools pools) =
      ⟨((pools handle).rent minLen).result,
        ofPools (Function.update pools handle ((pools handle).rent minLen).state),
        ((pools handle).rent minLen).notes⟩ := by
  cases handle <;> rfl

theorem takeBack_ofPools (handle : Handle) (slots : List α) (clear : Bool) :
    (World.pools α handle).takeBack slots clear (ofPools pools) =
      ⟨((pools handle).takeBack slots clear).result,
        ofPools (Function.update pools handle ((pools handle).takeBack slots clear).state),
        ((pools handle).takeBack slots clear).notes⟩ := by
  cases handle <;> rfl

/-- A world of two bucket pools in which one is clean, whatever lies in the other. -/
def Clean (handle : Handle) (world : World α) : Prop :=
  ∃ pools, world = ofPools pools ∧ (pools handle).Clean

def startPools (limits : BucketLimits) : Handle → BucketPool α
  | .own => .empty limits
  | .shared => .empty .standard

theorem start_clean (limits : BucketLimits) (handle : Handle) :
    (start (.bucket (.empty limits)) : World α).Clean handle := by
  refine ⟨startPools limits, rfl, ?_⟩
  cases handle <;> exact BucketPool.empty_clean _

/-- A change of one pool. -/
theorem Clean.update {handle other : Handle} (clean : (pools handle).Clean) {next : BucketPool α}
    (kept : other = handle → next.Clean) :
    (ofPools (Function.update pools other next)).Clean handle := by
  refine ⟨_, rfl, ?_⟩
  by_cases same : handle = other
  · subst same
    rw [Function.update_self]
    exact kept rfl
  · rw [Function.update_of_ne same]
    exact clean

theorem Clean.rent {handle : Handle} {world : World α} (clean : world.Clean handle)
    (minLen : Nat) : ∃ length next notes, minLen ≤ length ∧
      (World.pools α handle).rent minLen world = ⟨.ok (blanks α length), next, notes⟩ := by
  obtain ⟨pools, rfl, clean⟩ := clean
  obtain ⟨length, next, notes, enough, reply, _⟩ := clean.rent minLen
  exact ⟨length, _, notes, enough, by rw [rent_ofPools, reply]⟩

/-- Requests to the other pool do not matter here. -/
theorem guards_clean (handle : Handle) : Session.Guards (World.pools α)
    (fun other clear => other = handle → clear = true) (Clean handle)
    fun other event => other = handle → event.LendsBlank := by
  constructor
  · intro other minLen
    apply Pool.keeps_rentAny
    rintro _ past ⟨⟨pools, rfl, clean⟩, before⟩
    rw [rent_ofPools]
    refine Holds.append ⟨⟨pools, rfl, clean⟩, before⟩ (Clean.update clean ?_) ?_
    · rintro rfl
      obtain ⟨length, next, notes, _, reply, kept⟩ := clean.rent minLen
      rw [reply]
      exact kept
    · refine List.forall_mem_cons.mpr ⟨?_, by simp [Event.LendsBlank]⟩
      rintro rfl
      obtain ⟨length, next, notes, enough, reply, _⟩ := clean.rent minLen
      rw [reply]
      exact ⟨length, enough, rfl⟩
  · intro other slots clear flag
    apply Pool.keeps_handBack
    rintro _ past verdict ⟨⟨pools, rfl, clean⟩, before⟩
    rw [takeBack_ofPools]
    refine Holds.append ⟨⟨pools, rfl, clean⟩, before⟩ (Clean.update clean ?_) ?_
    · rintro rfl
      rw [flag rfl]
      exact clean.takeBack slots
    · simp [Event.LendsBlank]
  · intro other event quiet _
    cases event with
    | rented => cases quiet
    | returned | noted | pulled | cloned | measured | offered => trivial

end World

/-- A buffer of `count` slots shows the first ones of what is lent for it. -/
theorem Settings.build_withCount [Element α] {pools : ι → Pool σ α} {settings : Settings ι}
    {count : Nat} (fits : count ≤ maxLen α) {s next : σ} {slots : List α} {notes : List Note}
    (reply : (pools settings.handle).rent count s = ⟨.ok slots, next, notes⟩)
    (enough : count ≤ slots.length) :
    ∃ buffer, ((settings.build pools (.withCount count)).run s).exit = .done buffer ∧
      buffer.elements = slots.take count := by
  have checked : Pool.checkLen (σ := σ) α "count" count = return () := if_neg (Nat.not_lt.mpr fits)
  by_cases none : count = 0
  · subst none
    exact ⟨⟨.none, 0, settings.clear α, settings.handle, Nat.le_refl 0⟩, by
      simp [build, Pool.withCount, checked, Buffer.ofPopulated], by simp [Buffer.elements]⟩
  · have rented : ((pools settings.handle).rentChecked count).run s = ⟨.done slots, next,
        .rented count (some slots) :: notes.map .noted ++ [.noted (.rented count slots.length)]⟩ := by
      simp [Pool.rentChecked, Pool.rentAny, run_bind, Act.bind, reply, Act.note,
        Nat.not_lt.mpr enough, -bind_pure_comp]
    refine ⟨⟨some slots, count, settings.clear α, settings.handle, enough⟩, ?_, by simp [Buffer.elements]⟩
    simp [build, Pool.withCount, checked, none, run_bind, Act.bind, rented, Buffer.ofPopulated, enough]

/-- What the step hands back to this pool, now or when the buffer that it builds ends, goes back
cleared. -/
def Step.Clears [Element α] (handle : Handle) (step : Step α) : Prop :=
  step.Within fun other clear => other = handle → clear = true

namespace Session

variable [Element α]

/-- If all that goes back to a bucket pool goes back cleared, then at every moment of every run
its idle buffers are blank throughout, all that it lent was blank, and so is what it lends next. -/
theorem cleared_pool_stays_blank (limits : BucketLimits) (handle : Handle) (steps : List (Step α))
    (clears : ∀ step ∈ steps, step.Clears handle) :
    let run := (start (World.start (.bucket (.empty limits)))).follow (World.pools α) steps
    (∀ slot ∈ run.1.world.idleOf handle, slot = blank) ∧
      (∀ entry ∈ run.2, entry.1 = handle → entry.2.LendsBlank) ∧
      (∀ minLen, ∃ length next notes, minLen ≤ length ∧
        (World.pools α handle).rent minLen run.1.world =
          ⟨.ok (blanks α length), next, notes⟩) ∧
      ∀ (settings : Settings Handle) count, settings.handle = handle → count ≤ maxLen α →
        ∃ buffer, ((settings.build (World.pools α) (.withCount count)).run run.1.world).exit =
          .done buffer ∧ buffer.elements = blanks α count := by
  intro run
  have begun : (start (World.start (.bucket (.empty limits))) : Session (World α) α).Guarded
      (fun other clear => other = handle → clear = true) (World.Clean handle) :=
    ⟨World.start_clean limits handle, nofun⟩
  obtain ⟨last, lends⟩ := begun.follow (World.guards_clean handle) steps clears
  have clean := last.world
  refine ⟨?_, lends, clean.rent, ?_⟩
  · obtain ⟨pools, same, kept⟩ := clean
    rw [same, World.idleOf_ofPools]
    exact kept.idleSlots
  · rintro settings count rfl fits
    obtain ⟨length, next, notes, enough, reply⟩ := clean.rent count
    obtain ⟨buffer, built, shows⟩ := Settings.build_withCount fits reply (by simpa using enough)
    refine ⟨buffer, built, ?_⟩
    rw [shows, blanks, blanks, List.take_replicate, Nat.min_eq_left enough]

/-- A buffer is outgrown, populations fail and panic, a raw buffer is filled and comes back and
another one does not, and the last buffer meets a panic of its owner. -/
def busySteps : List (Step UInt8) :=
  [.build "a" (.populate [.clearMode .always, .suggestedCapacity 16, .pool .own]
      (.collect (List.replicate 17 (.item 9)))),
    .build "b" (.populate [.clearMode .always, .pool .own]
      (.tryCollect [.item (.ok 1), .item (.error "broken")])),
    .build "c" (.populate [.clearMode .always, .pool .own] (.collect [.item 3, .panic "stop"])),
    .raw "d" (.rent .own 20), .raw "d" (.fill 0 [5, 6]), .raw "d" (.handBack .own true),
    .raw "e" (.rent .own 3), .raw "e" .forget, .unwind "a"]

theorem cleared_pool_stays_blank_busy :
    let run := (start (World.start (.bucket (.empty ⟨32, 2, by decide⟩)))).follow
      (World.pools UInt8) busySteps
    (∀ step ∈ busySteps, step.Clears .own) ∧
      (Journal.about .own run.2).handed.map (List.countP (· ≠ 0)) = [0, 1, 1, 2, 17] ∧
      (run.1.world.idleOf .own).length = 64 ∧ (∀ slot ∈ run.1.world.idleOf .own, slot = 0) ∧
      ∃ buffer, (((Settings.standard .own).build (World.pools UInt8) (.withCount 20)).run
        run.1.world).exit = .done buffer ∧ buffer.elements = List.replicate 20 0 := by
  have clears : ∀ step ∈ busySteps, step.Clears .own := by
    simp [busySteps, Step.Clears, Step.Within]
    decide
  obtain ⟨idle, _, _, shows⟩ := cleared_pool_stays_blank ⟨32, 2, by decide⟩ .own busySteps clears
  exact ⟨clears, by decide +kernel, by decide +kernel, idle, shows _ 20 rfl (by decide)⟩

end Session

end BufferRental
