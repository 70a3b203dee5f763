import BufferRental.Event

/-! Calls on a pool. An act starts in a state of the pool and ends in one, leaves a journal, and
ends in one of four ways. Acts are put together in sequence: one that does not end with a value
skips all that follows, and the journals are joined in order. -/
namespace BufferRental

inductive Exit (β : Type) where
  | done (value : β)
  | failed (error : RentalError)
  | panicked (panic : Panic)
  /-- A second panic arose while a first one was unwinding. -/
  | aborted
  deriving DecidableEq

def Exit.map (f : β → γ) : Exit β → Exit γ
  | done value => .done (f value)
  | failed error => .failed error
  | panicked panic => .panicked panic
  | aborted => .aborted

structure Outcome (σ α β : Type) where
  exit : Exit β
  state : σ
  journal : Journal α

structure Act (σ α β : Type) where
  run : σ → Outcome σ α β

namespace Act

def pure (value : β) : Act σ α β := ⟨fun s => ⟨.done value, s, []⟩⟩

def bind (act : Act σ α β) (next : β → Act σ α γ) : Act σ α γ := ⟨fun s =>
  match act.run s with
  | ⟨.done value, state, journal⟩ =>
    let rest := (next value).run state
    ⟨rest.exit, rest.state, journal ++ rest.journal⟩
  | ⟨.failed error, state, journal⟩ => ⟨.failed error, state, journal⟩
  | ⟨.panicked panic, state, journal⟩ => ⟨.panicked panic, state, journal⟩
  | ⟨.aborted, state, journal⟩ => ⟨.aborted, state, journal⟩⟩

instance : Monad (Act σ α) where
  pure := pure
  bind := bind

def leave (exit : Exit β) : Act σ α β := ⟨fun s => ⟨exit, s, []⟩⟩

def fail (error : RentalError) : Act σ α β := leave (.failed error)

def raise (panic : Panic) : Act σ α β := leave (.panicked panic)

def record (events : Journal α) : Act σ α Unit := ⟨fun s => ⟨.done (), s, events⟩⟩

def note (note : Note) : Act σ α Unit := record [.noted note]

/-- Goes on after the act however it ends, with its way of ending as a value. -/
def attempt (act : Act σ α β) : Act σ α (Exit β) := ⟨fun s =>
  let first := act.run s
  ⟨.done first.exit, first.state, first.journal⟩⟩

def get : Act σ α σ := ⟨fun s => ⟨.done s, s, []⟩⟩

def listen (act : Act σ α β) : Act σ α (β × Journal α) := ⟨fun s =>
  let first := act.run s
  ⟨first.exit.map fun value => (value, first.journal), first.state, first.journal⟩⟩

/-- Runs a clean-up while `panic` unwinds. A panic of the clean-up ends everything. -/
def whileUnwinding (panic : Panic) (cleanUp : Act σ α Unit) : Act σ α β := do
  match ← attempt cleanUp with
  | .panicked _ | .aborted => leave .aborted
  | .done () | .failed _ => raise panic

/-- Errors that cannot be answered are panics. -/
def expect (act : Act σ α β) : Act σ α β := do
  match ← attempt act with
  | .failed error => raise (.unanswerable error)
  | exit => leave exit

@[simp] theorem run_pure (value : β) (s : σ) :
    (Pure.pure value : Act σ α β).run s = ⟨.done value, s, []⟩ := rfl

@[simp] theorem run_leave (exit : Exit β) (s : σ) :
    (leave exit : Act σ α β).run s = ⟨exit, s, []⟩ := rfl

@[simp] theorem run_record (events : Journal α) (s : σ) :
    (record events : Act σ α Unit).run s = ⟨.done (), s, events⟩ := rfl

@[simp] theorem run_attempt (act : Act σ α β) (s : σ) :
    (attempt act).run s = ⟨.done (act.run s).exit, (act.run s).state, (act.run s).journal⟩ := rfl

@[ext] theorem ext {first second : Act σ α β} (same : ∀ s, first.run s = second.run s) :
    first = second := by
  cases first; cases second
  exact congrArg mk (funext same)

theorem run_bind (act : Act σ α β) (next : β → Act σ α γ) (s : σ) :
    (act >>= next).run s = (bind act next).run s := rfl

@[simp] theorem pure_bind (value : β) (next : β → Act σ α γ) :
    (Pure.pure value >>= next : Act σ α γ) = next value := rfl

@[simp] theorem leave_bind_failed (error : RentalError) (next : β → Act σ α γ) :
    (leave (.failed error) >>= next) = leave (.failed error) := rfl

@[simp] theorem leave_bind_panicked (panic : Panic) (next : β → Act σ α γ) :
    (leave (.panicked panic) >>= next) = leave (.panicked panic) := rfl

theorem run_bind_done {act : Act σ α β} (next : β → Act σ α γ) {s state : σ} {journal : Journal α}
    {value : β} (ran : act.run s = ⟨.done value, state, journal⟩) :
    (act >>= next).run s = ⟨((next value).run state).exit, ((next value).run state).state,
      journal ++ ((next value).run state).journal⟩ := by
  show (bind act next).run s = _
  simp [bind, ran]

theorem bind_assoc (act : Act σ α β) (next : β → Act σ α γ) (last : γ → Act σ α δ) :
    act >>= next >>= last = act >>= fun value => next value >>= last := by
  ext s
  simp only [run_bind, bind]
  rcases act.run s with ⟨exit, state, journal⟩
  cases exit with
  | done value =>
    dsimp only
    generalize (next value).run _ = middle
    obtain ⟨exit, _, _⟩ := middle
    cases exit <;> simp
  | failed | panicked | aborted => rfl

theorem bind_pure (act : Act σ α β) : act >>= Pure.pure = act := by
  ext s
  simp only [run_bind, bind]
  rcases act.run s with ⟨exit, state, journal⟩
  cases exit <;> simp

instance : LawfulMonad (Act σ α) := LawfulMonad.mk' _ bind_pure pure_bind bind_assoc

end Act

end BufferRental
