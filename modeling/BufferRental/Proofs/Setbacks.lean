import BufferRental.Proofs.Traffic

/-! What can go wrong with the two requests to a pool, and what is then in the journal. One who asks
for a buffer may meet a panic of the pool, or get a buffer that is too short. One who hands a buffer
back may meet a panic too, and that weighs more than the failure for which the buffer goes back. -/
namespace BufferRental

open Act

def Act.Concludes (pre : σ → Journal α → Prop) (act : Act σ α β)
    (post : Exit β → σ → Journal α → Prop) : Prop :=
  Ensures pre act (fun value => post (.done value)) fun ending => post ending.raised

theorem Act.Concludes.run {pre : σ → Journal α → Prop} {act : Act σ α β}
    {post : Exit β → σ → Journal α → Prop} (concludes : Concludes pre act post) (s : σ)
    (past : Journal α) (start : pre s past) :
    post (act.run s).exit (act.run s).state (past ++ (act.run s).journal) := by
  have after := concludes s past start
  cases ran : (act.run s).exit <;> rw [ran] at after <;> exact after

/-- It is enough to know each journal from which the act may start. -/
theorem Act.ensures_each {pre : Journal α → Prop} {act : Act σ α β}
    {post : β → σ → Journal α → Prop} {stop : Exit Empty → σ → Journal α → Prop}
    (each : ∀ past, pre past → Ensures (fun _ j => j = past) act post stop) :
    Ensures (fun _ => pre) act post stop :=
  fun s past start => each past start s past rfl

@[simp] theorem Exit.map_raised (failure : Exit Empty) (f : β → γ) :
    (failure.raised : Exit β).map f = failure.raised := by
  cases failure with
  | done never => exact nomatch never
  | failed | panicked | aborted => rfl

theorem Exit.raised_ne_done (failure : Exit Empty) (value : β) :
    (failure.raised : Exit β) ≠ .done value := by
  cases failure with
  | done never => exact nomatch never
  | failed | panicked | aborted => nofun

/-- What a failure becomes if a buffer goes back on its way and this panics, if it does: an error
gives way to the panic, and a panic is one too many. -/
def Exit.overtaken : Exit Empty → Option Panic → Exit Empty
  | failure, none => failure
  | .failed _, some panic => .panicked panic
  | _, some _ => .aborted

namespace Pool

variable {pool : Pool σ α} {clear : Bool} {slots : List α}

/-- In some state the pool does not lend a buffer that reaches as far as asked: the panic that this
ends in, and the events. A short buffer is left alone, and the library logs nothing of it. -/
inductive Denies (pool : Pool σ α) (request : Nat) : Panic → Journal α → Prop where
  | panicked {s next : σ} {panic : Panic} {notes : List Note}
      (reply : pool.rent request s = ⟨.error panic, next, notes⟩) :
    Denies pool request panic (.rented request none :: notes.map .noted)
  | short {s next : σ} {granted : List α} {notes : List Note}
      (reply : pool.rent request s = ⟨.ok granted, next, notes⟩) (less : granted.length < request) :
    Denies pool request (.shortGrant request granted.length)
      (.rented request (some granted) :: notes.map .noted)

inductive TakesBack (pool : Pool σ α) (slots : List α) (clear : Bool) :
    Option Panic → Journal α → Prop where
  | accepted {s next : σ} {notes : List Note}
      (reply : pool.takeBack slots clear s = ⟨.ok none, next, notes⟩) :
    TakesBack pool slots clear none (.returned slots clear .accepted :: notes.map .noted)
  | refused {s next : σ} {error : RentalError} {notes : List Note}
      (reply : pool.takeBack slots clear s = ⟨.ok (some error), next, notes⟩) :
    TakesBack pool slots clear none (.returned slots clear (.refused error) ::
      (notes ++ [Note.returnRejected error]).map .noted)
  | panicked {s next : σ} {panic : Panic} {notes : List Note}
      (reply : pool.takeBack slots clear s = ⟨.error panic, next, notes⟩) :
    TakesBack pool slots clear (some panic) (.returned slots clear .panicked :: notes.map .noted)

theorem TakesBack.eq_returned {panic? : Option Panic} {back : Journal α}
    (gone : pool.TakesBack slots clear panic? back) :
    ∃ verdict notes, back = .returned slots clear verdict :: List.map Event.noted notes := by
  cases gone with
  | accepted | refused | panicked => exact ⟨_, _, rfl⟩

/-- What a checked request adds to the journal, in each of its endings. -/
theorem rentChecked_exact (pool : Pool σ α) (request : Nat) (past : Journal α) :
    Ensures (fun _ j => j = past) (pool.rentChecked request)
      (fun granted _ j => request ≤ granted.length ∧ ∃ notes : List Note,
        j = past ++ .rented request (some granted) :: notes.map .noted)
      (fun ending _ j => ∃ panic asked, ending = .panicked panic ∧
        pool.Denies request panic asked ∧ j = past ++ asked) := by
  apply ensures_rentChecked
  · rintro s _ granted next notes rfl _ enough
    exact ⟨enough, notes ++ [.rented request granted.length], by simp⟩
  · rintro s _ granted next notes rfl reply less
    exact ⟨_, _, rfl, .short reply less, rfl⟩
  · rintro s _ panic next notes rfl reply
    exact ⟨_, _, rfl, .panicked reply, rfl⟩

theorem giveBack_exact (pool : Pool σ α) (slots : List α) (clear : Bool) (past : Journal α) :
    Ensures (fun _ j => j = past) (pool.giveBack slots clear)
      (fun _ _ j => ∃ back, pool.TakesBack slots clear none back ∧ j = past ++ back)
      (fun ending _ j => ∃ panic back, ending = .panicked panic ∧
        pool.TakesBack slots clear (some panic) back ∧ j = past ++ back) := by
  apply ensures_giveBack
  · rintro s _ next notes rfl reply
    exact ⟨_, .accepted reply, rfl⟩
  · rintro s _ error next notes rfl reply
    exact ⟨_, .refused reply, by simp⟩
  · rintro s _ panic next notes rfl reply
    exact ⟨_, _, rfl, .panicked reply, rfl⟩

theorem settle_takesBack {failure : Exit Empty} (ended : failure ≠ .aborted) (past : Journal α) :
    Ensures (fun _ j => j = past) (pool.settle clear slots (failure.raised : Exit β))
      (fun _ _ _ => False)
      (fun ending _ j => ∃ panic? back, ending = failure.overtaken panic? ∧
        pool.TakesBack slots clear panic? back ∧ j = past ++ back) := by
  have returned := pool.giveBack_exact slots clear past
  cases failure with
  | done never => exact nomatch never
  | aborted => exact absurd rfl ended
  | failed error =>
    refine ensures_bind (returned.stops ?_) fun _ => ensures_fail ?_
    · rintro _ _ _ ⟨panic, back, rfl, gone, rfl⟩
      exact ⟨some panic, back, rfl, gone, rfl⟩
    · rintro _ _ ⟨back, gone, rfl⟩
      exact ⟨none, back, rfl, gone, rfl⟩
  | panicked first =>
    apply ensures_whileUnwinding
    refine returned.imp (fun _ _ => id) ?_ ?_
    · rintro _ _ _ ⟨back, gone, rfl⟩
      exact ⟨none, back, rfl, gone, rfl⟩
    · rintro _ _ _ ⟨panic, back, rfl, gone, rfl⟩
      exact ⟨some panic, back, rfl, gone, rfl⟩

end Pool

end BufferRental
