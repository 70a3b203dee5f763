import BufferRental.Element.Kind
import BufferRental.Ownership
import BufferRental.Pool.Planned
import BufferRental.Proofs.SessionCustody
import Mathlib.Data.Finset.Card

/-! Owners that share one buffer, each acting on its own. Whatever the order in which they read the
length and leave, and whatever others do to the pools meanwhile, nothing goes back while one of
them is left, and when the last one has gone the slots went back once. -/
namespace BufferRental

inductive Deed where
  | read
  | depart (departure : Departure)

/-- What happens next: an owner does something, or others use the pools and leave them in some
state. -/
inductive Happening (σ : Type) where
  | owner (name : Nat) (deed : Deed)
  | others (state : σ)

structure Scene (σ ι α : Type) where
  world : σ
  present : Finset Nat
  shares : Shares ι α
  reads : List Nat
  journal : Journal α

namespace Scene

def start (clones : Nat) (buffer : Buffer ι α) (world : σ) : Scene σ ι α :=
  ⟨world, Finset.range (clones + 1), ⟨clones + 1, buffer⟩, [], []⟩

/-- What is shared after a departure. An owner that panics on its way has left as well. -/
def remaining (shares : Shares ι α) : Exit (Shares ι α) → Shares ι α
  | .done after => after
  | _ => { shares with owners := shares.owners - 1 }

def step (pools : ι → Pool σ α) (scene : Scene σ ι α) : Happening σ → Scene σ ι α
  | .others state => { scene with world := state }
  | .owner name deed =>
    if name ∈ scene.present then
      match deed with
      | .read => { scene with reads := scene.reads ++ [scene.shares.read] }
      | .depart departure =>
        let parted := (scene.shares.depart pools departure).run scene.world
        { world := parted.state
          present := scene.present.erase name
          shares := remaining scene.shares parted.exit
          reads := scene.reads
          journal := scene.journal ++ parted.journal }
    else scene

def play (pools : ι → Pool σ α) (scene : Scene σ ι α) (happenings : List (Happening σ)) :
    Scene σ ι α := happenings.foldl (step pools) scene

/-- The slots are out as long as somebody is there, and are back, without a loan in between, once
nobody is. -/
structure Faithful (buffer : Buffer ι α) (scene : Scene σ ι α) : Prop where
  owners : scene.shares.owners = scene.present.card
  same : scene.shares.buffer = buffer
  reads : ∀ length ∈ scene.reads, length = buffer.count
  quiet : scene.present.Nonempty → scene.journal = []
  settled : scene.present = ∅ → scene.journal.OnlyHands buffer.slots.toList

theorem start_faithful (clones : Nat) (buffer : Buffer ι α) (world : σ) :
    Faithful buffer (start clones buffer world) := by
  constructor
  · exact (Finset.card_range _).symm
  · rfl
  · exact nofun
  · exact fun _ => rfl
  · intro nobody
    simp [start] at nobody

end Scene

namespace Shares

variable {pools : ι → Pool σ α} {shares : Shares ι α}

theorem depart_of_others (several : shares.owners ≠ 1) (departure : Departure) :
    shares.depart pools departure = return { shares with owners := shares.owners - 1 } := by
  rw [depart_eq_leave, leave, if_neg several]

/-- However the departure of an owner ends, there is one owner less. -/
theorem remaining_depart (departure : Departure) (world : σ) :
    Scene.remaining shares ((shares.depart pools departure).run world).exit =
      { shares with owners := shares.owners - 1 } := by
  rw [depart_eq_leave]
  have left := (shares.leave_onlyHands pools) world [] ⟨rfl, rfl⟩
  cases ended : ((shares.leave pools).run world).exit with
  | done after =>
    rw [ended] at left
    exact left.1
  | failed | panicked | aborted => rfl

theorem depart_last (last : shares.owners = 1) (departure : Departure) (world : σ) :
    ((shares.depart pools departure).run world).journal.OnlyHands shares.buffer.slots.toList := by
  rw [depart_eq_leave]
  have left := shares.leave_onlyHands pools
  simp only [if_pos last] at left
  exact (left.after fun _ _ _ => And.right).onlyHands world

end Shares

namespace Scene

variable {pools : ι → Pool σ α} {buffer : Buffer ι α} {scene : Scene σ ι α}

theorem Faithful.depart (faithful : Faithful buffer scene) {name : Nat}
    (there : name ∈ scene.present) (departure : Departure) :
    Faithful buffer (scene.step pools (.owner name (.depart departure))) := by
  have owners := faithful.owners
  have fewer := Finset.card_erase_of_mem there
  have quiet := faithful.quiet ⟨name, there⟩
  simp only [step, if_pos there, Shares.remaining_depart, quiet, List.nil_append]
  constructor
  · simp only [owners, fewer]
  · exact faithful.same
  · exact faithful.reads
  · intro somebody
    -- another owner is left, so that this one was not the last
    have several : scene.shares.owners ≠ 1 := by
      have := Finset.card_pos.mpr somebody
      dsimp only at this
      omega
    rw [Shares.depart_of_others several]
    rfl
  · intro nobody
    have last : scene.shares.owners = 1 := by
      have := Finset.card_pos.mpr ⟨name, there⟩
      have := Finset.card_eq_zero.mpr nobody
      dsimp only at this
      omega
    rw [← faithful.same]
    exact Shares.depart_last last departure _

theorem Faithful.step (faithful : Faithful buffer scene) (happening : Happening σ) :
    Faithful buffer (scene.step pools happening) := by
  cases happening with
  | others state =>
    exact ⟨faithful.owners, faithful.same, faithful.reads, faithful.quiet, faithful.settled⟩
  | owner name deed =>
    by_cases there : name ∈ scene.present
    · cases deed with
      | depart departure => exact faithful.depart there departure
      | read =>
        simp only [Scene.step, if_pos there]
        refine ⟨faithful.owners, faithful.same, ?_, faithful.quiet, faithful.settled⟩
        intro length member
        rcases List.mem_append.mp member with before | now
        · exact faithful.reads length before
        · rw [List.mem_singleton.mp now, Shares.read, faithful.same]
    · simp only [Scene.step, if_neg there]
      exact faithful

theorem Faithful.play (faithful : Faithful buffer scene) (happenings : List (Happening σ)) :
    Faithful buffer (scene.play pools happenings) := by
  induction happenings generalizing scene with
  | nil => exact faithful
  | cons happening rest ih => exact ih (faithful.step happening)

theorem mem_present_step (happening : Happening σ) (name : Nat) :
    name ∈ (scene.step pools happening).present ↔
      name ∈ scene.present ∧ ∀ departure, happening ≠ .owner name (.depart departure) := by
  cases happening with
  | others state => simp [step]
  | owner other deed =>
    by_cases there : other ∈ scene.present
    · cases deed with
      | read => simp [step, there]
      | depart departure => simp [step, there, and_comm, eq_comm]
    · simp only [step, if_neg there, ne_eq, Happening.owner.injEq, not_and]
      refine ⟨fun present => ⟨present, fun _ same => ?_⟩, And.left⟩
      exact absurd (same ▸ present) there

theorem mem_present_play (happenings : List (Happening σ)) (name : Nat) :
    name ∈ (scene.play pools happenings).present ↔ name ∈ scene.present ∧
      ∀ departure, .owner name (.depart departure) ∉ happenings := by
  induction happenings generalizing scene with
  | nil => simp [play]
  | cons happening rest ih =>
    rw [play, List.foldl_cons, ← play, ih, mem_present_step]
    simp only [List.mem_cons, not_or, and_assoc, forall_and, ne_eq, eq_comm]

/-- A buffer that is shared by several owners, however it was built and changed before, is handed
back by the last of them to leave and by nobody else. Until then they all read the same length. -/
theorem last_owner_returns [Element α] (pools : Handle → Pool σ α) (construction : Construction α)
    (s world : σ) {buffer : Buffer Handle α}
    (built : ((construction.run pools).run s).exit = .done buffer) (operations : List (ViewOp α))
    (clones : Nat) (happenings : List (Happening σ)) :
    let shared := (inTurn Buffer.perform buffer operations).2
    let scene := (start clones shared world).play pools happenings
    (∀ name, name ∈ scene.present ↔
        name ≤ clones ∧ ∀ departure, .owner name (.depart departure) ∉ happenings) ∧
      (∀ length ∈ scene.reads, length = shared.count) ∧
      (scene.present.Nonempty → scene.shares.buffer = shared ∧ scene.journal = []) ∧
      (scene.present = ∅ → scene.journal.OnlyHands shared.slots.toList ∧
        scene.journal.returns = if 0 < shared.capacity then 1 else 0) := by
  intro shared scene
  have faithful : Faithful shared scene := (start_faithful clones shared world).play happenings
  have owes := construction.run_builds pools s [] rfl
  rw [built] at owes
  have kept : Buffer.Kept buffer shared := (Buffer.inTurn_agrees buffer operations).2.2
  have rented : shared.slots ≠ some [] := Buffer.rented_of_lengths kept.lengths owes.2.1
  refine ⟨fun name => ?_, faithful.reads, fun somebody => ?_, fun nobody => ?_⟩
  · rw [mem_present_play, start, Finset.mem_range, Nat.lt_succ_iff]
  · exact ⟨faithful.same, faithful.quiet somebody⟩
  · have hands := faithful.settled nobody
    refine ⟨hands, ?_⟩
    rw [Journal.returns_eq_length_handed, hands.2, ← Buffer.length_held,
      Buffer.held_of_rented rented]
    split <;> rfl

/-- The pool panics when the buffer comes back, which the last owner has taken out. -/
theorem last_owner_returns_three :
    let plan : Plan UInt8 := ⟨[2], 9, 7, [], [0], []⟩
    let pools : Handle → Pool (PlannedPool UInt8) UInt8 := fun _ => PlannedPool.asPool UInt8
    let construction : Construction UInt8 := .populate [] (.withCount 3)
    let buffer : Buffer Handle UInt8 := ⟨some [7, 7, 7, 7, 7], 3, false, .shared, by decide⟩
    let early : List (Happening (PlannedPool UInt8)) :=
      [.owner 1 .read, .owner 0 (.depart .drop), .others ⟨plan, 4, 0⟩, .owner 2 (.depart .drop)]
    let late : List (Happening (PlannedPool UInt8)) := [.owner 1 .read, .owner 1 (.depart .release)]
    let middle := (start 2 buffer (.start plan)).play pools early
    let last := (start 2 buffer (.start plan)).play pools (early ++ late)
    ((construction.run pools).run (.start plan)).exit = .done buffer ∧
      middle.present = {1} ∧ middle.journal = [] ∧
      last.present = ∅ ∧ last.reads = [3, 3] ∧ last.journal.returns = 1 := by
  intro plan pools construction buffer early late middle last
  have built : ((construction.run pools).run (.start plan)).exit = .done buffer := rfl
  have here : middle.present = {1} := by decide
  have nobody : last.present = ∅ := by decide
  have midway := last_owner_returns pools construction _ (.start plan) built [] 2 early
  have atEnd := last_owner_returns pools construction _ (.start plan) built [] 2 (early ++ late)
  exact ⟨built, here, (midway.2.2.1 (here ▸ Finset.singleton_nonempty 1)).2, nobody, rfl,
    (atEnd.2.2.2 nobody).2⟩

end Scene

end BufferRental
