import BufferRental.Proofs.Filling
import BufferRental.Proofs.Stages
import BufferRental.Session

/-! Two pools in step. If they lend the same buffers and panic at the same calls, then a population
over one of them ends as over the other and makes the same calls, although one may refuse what the
other takes back, and log what the other does not. -/
namespace BufferRental

/-- What an event does, whatever is said about it: a return counts as accepted if it was refused, and
an entry of the log is nothing. -/
def Event.deed? : Event α → Option (Event α)
  | .noted _ => none
  | .returned slots clear (.refused _) => some (.returned slots clear .accepted)
  | event => some event

namespace Journal

def deeds (journal : Journal α) : Journal α := journal.filterMap Event.deed?

@[simp] theorem deeds_append (first second : Journal α) :
    deeds (first ++ second) = deeds first ++ deeds second := List.filterMap_append

@[simp] theorem deeds_cons (event : Event α) (rest : Journal α) :
    deeds (event :: rest) = event.deed?.toList ++ deeds rest := filterMap_cons_toList ..

@[simp] theorem deeds_nil : deeds ([] : Journal α) = [] := rfl

@[simp] theorem deeds_notes (notes : List Note) : deeds (notes.map Event.noted : Journal α) = [] :=
  filterMap_notes (fun _ => rfl) notes

end Journal

structure Outcome.InStep (rel : σ → τ → Prop) (first : Outcome σ α β) (second : Outcome τ α β) :
    Prop where
  exit : first.exit = second.exit
  state : rel first.state second.state
  deeds : first.journal.deeds = second.journal.deeds

def Act.InStep (rel : σ → τ → Prop) (act : Act σ α β) (twin : Act τ α β) : Prop :=
  ∀ s t, rel s t → (act.run s).InStep rel (twin.run t)

/-- In states that are in step two pools lend the same and panic alike, and stay in step. What they
answer to a return, and what they log, is up to each of them. -/
structure Pool.InStep (rel : σ → τ → Prop) (pool : Pool σ α) (twin : Pool τ α) : Prop where
  rent : ∀ minLen s t, rel s t → (pool.rent minLen s).result = (twin.rent minLen t).result ∧
    rel (pool.rent minLen s).state (twin.rent minLen t).state
  takeBack : ∀ slots clear s t, rel s t →
    (pool.takeBack slots clear s).result.map (fun _ => ()) =
      (twin.takeBack slots clear t).result.map (fun _ => ()) ∧
    rel (pool.takeBack slots clear s).state (twin.takeBack slots clear t).state

namespace Act

variable {rel : σ → τ → Prop}

theorem inStep_leave (exit : Exit β) : InStep rel (leave exit : Act σ α β) (leave exit) :=
  fun _ _ related => ⟨rfl, related, rfl⟩

theorem inStep_pure (value : β) :
    InStep rel (return value : Act σ α β) (return value : Act τ α β) := inStep_leave (.done value)

theorem inStep_record (events : Journal α) : InStep rel (record events) (record events) :=
  fun _ _ related => ⟨rfl, related, rfl⟩

theorem InStep.bind {act : Act σ α β} {twin : Act τ α β} {next : β → Act σ α γ}
    {next' : β → Act τ α γ} (first : InStep rel act twin)
    (rest : ∀ value, InStep rel (next value) (next' value)) :
    InStep rel (act >>= next) (twin >>= next') := by
  intro s t related
  have middle := first s t related
  rcases ran : act.run s with ⟨exit, state, journal⟩
  rcases ran' : twin.run t with ⟨exit', state', journal'⟩
  rw [ran, ran'] at middle
  obtain ⟨same, related', deeds⟩ := middle
  dsimp only at same related' deeds
  subst same
  simp only [run_bind, Act.bind, ran, ran']
  cases exit with
  | done value =>
    have after := rest value state state' related'
    exact ⟨after.exit, after.state, by simp only [Journal.deeds_append, deeds, after.deeds]⟩
  | failed | panicked | aborted => exact ⟨rfl, related', deeds⟩

theorem InStep.attempt {act : Act σ α β} {twin : Act τ α β} (first : InStep rel act twin) :
    InStep rel act.attempt twin.attempt := by
  intro s t related
  obtain ⟨exit, state, deeds⟩ := first s t related
  exact ⟨congrArg Exit.done exit, state, deeds⟩

theorem InStep.whileUnwinding {panic : Panic} {cleanUp : Act σ α Unit} {cleanUp' : Act τ α Unit}
    (cleaned : InStep rel cleanUp cleanUp') :
    InStep rel (whileUnwinding panic cleanUp : Act σ α β) (whileUnwinding panic cleanUp') := by
  refine cleaned.attempt.bind fun exit => ?_
  cases exit <;> exact inStep_leave _

theorem InStep.expect {act : Act σ α β} {twin : Act τ α β} (first : InStep rel act twin) :
    InStep rel act.expect twin.expect := by
  refine first.attempt.bind fun exit => ?_
  cases exit <;> exact inStep_leave _

end Act

open Act

namespace Pool

/-- How a return ends, and what was done, follows from whether the pool panics. -/
theorem run_giveBack (pool : Pool σ α) (slots : List α) (clear : Bool) (s : σ) :
    let answered := (pool.takeBack slots clear s).result.map fun _ => ()
    let outcome := (pool.giveBack slots clear).run s
    outcome.exit = (match answered with
      | .ok _ => .done ()
      | .error panic => .panicked panic) ∧
    outcome.state = (pool.takeBack slots clear s).state ∧
    outcome.journal.deeds = [.returned slots clear (match answered with
      | .ok _ => .accepted
      | .error _ => .panicked)] := by
  rcases reply : pool.takeBack slots clear s with ⟨result, next, notes⟩
  rcases result with panic | (_ | error) <;>
    simp [giveBack, handBack, reply, run_bind, Act.bind, note, Event.deed?, Except.map]

namespace InStep

variable {rel : σ → τ → Prop} {pool : Pool σ α} {twin : Pool τ α} {clear : Bool}

theorem rentChecked (inStep : pool.InStep rel twin) (minLen : Nat) :
    Act.InStep rel (pool.rentChecked minLen) (twin.rentChecked minLen) := by
  have asked : Act.InStep rel (pool.rentAny minLen) (twin.rentAny minLen) := by
    intro s t related
    obtain ⟨result, state⟩ := inStep.rent minLen s t related
    rcases reply : pool.rent minLen s with ⟨lent, next, notes⟩
    rcases reply' : twin.rent minLen t with ⟨lent', next', notes'⟩
    rw [reply, reply'] at result state
    dsimp only at result state
    subst result
    simp only [rentAny, reply, reply']
    cases lent <;> exact ⟨rfl, state, by simp⟩
  refine asked.bind fun granted => ?_
  split
  · exact inStep_leave _
  · exact (inStep_record _).bind fun _ => inStep_pure granted

theorem giveBack (inStep : pool.InStep rel twin) (slots : List α) (clear : Bool) :
    Act.InStep rel (pool.giveBack slots clear) (twin.giveBack slots clear) := by
  intro s t related
  obtain ⟨result, state⟩ := inStep.takeBack slots clear s t related
  obtain ⟨exit, left, deeds⟩ := pool.run_giveBack slots clear s
  obtain ⟨exit', left', deeds'⟩ := twin.run_giveBack slots clear t
  rw [result] at exit deeds
  exact ⟨exit.trans exit'.symm, left.symm ▸ left'.symm ▸ state, deeds.trans deeds'.symm⟩

theorem settle (inStep : pool.InStep rel twin) (slots : List α) (exit : Exit β) :
    Act.InStep rel (pool.settle clear slots exit) (twin.settle clear slots exit) := by
  cases exit with
  | done value => exact inStep_pure value
  | failed error => exact (inStep.giveBack slots clear).bind fun _ => inStep_leave _
  | panicked panic => exact (inStep.giveBack slots clear).whileUnwinding
  | aborted => exact inStep_leave _

theorem fillAtOnce (inStep : pool.InStep rel twin) (length : Nat) (slots : List α)
    (copy : List α → Copy α) : Act.InStep rel (pool.fillAtOnce clear length slots copy)
      (twin.fillAtOnce clear length slots copy) := by
  unfold Pool.fillAtOnce
  split
  · exact inStep.settle _ _
  · exact (inStep_record _).bind fun _ => inStep.settle _ _

theorem grow (inStep : pool.InStep rel twin) (limit : Nat) (filling : Filling α) :
    Act.InStep rel (pool.grow clear limit filling) (twin.grow clear limit filling) := by
  unfold Pool.grow
  dsimp only
  split
  · exact inStep_pure _
  · refine (inStep_record _).bind fun _ => (inStep.rentChecked _).attempt.bind fun exit => ?_
    cases exit with
    | failed | panicked | aborted => exact inStep_pure _
    | done slots =>
      dsimp only
      split
      · exact inStep_pure _
      · exact (inStep.giveBack _ _).attempt.bind fun _ => inStep_pure _

theorem appendItems (inStep : pool.InStep rel twin) (limit : Nat)
    (items : List (Yield (Except String α))) (filling : Filling α) :
    Act.InStep rel (pool.appendItems clear limit items filling)
      (twin.appendItems clear limit items filling) := by
  induction items generalizing filling with
  | nil => exact inStep_pure _
  | cons turn rest ih =>
    rcases turn with (text | value) | text
    · exact (inStep_record _).bind fun _ => inStep_pure _
    · rw [appendItems_value, appendItems_value]
      have room : Act.InStep rel (pool.makeRoom clear limit filling)
          (twin.makeRoom clear limit filling) := by
        unfold makeRoom
        split
        · exact inStep.grow limit filling
        · exact inStep_pure _
      refine (inStep_record _).bind fun _ => room.bind fun made => ?_
      obtain ⟨made, ending⟩ := made
      cases ending with
      | failed | panicked | aborted => exact inStep_pure _
      | done _ =>
        simp only [putNext]
        split
        · exact inStep_pure _
        · exact ih _
    · exact (inStep_record _).bind fun _ => inStep_pure _

theorem assignItems (rel : σ → τ → Prop) (room : Nat) (items : List (Yield α))
    (filling : Filling α) : Act.InStep rel (Pool.assignItems room items filling)
      (Pool.assignItems room items filling) := by
  induction items generalizing filling with
  | nil => exact inStep_pure _
  | cons turn rest ih =>
    unfold Pool.assignItems
    split
    · exact inStep_pure _
    · refine (inStep_record _).bind fun _ => ?_
      cases turn with
      | panic text => exact inStep_pure _
      | item value => exact ih _

variable [Element α]

theorem fill (inStep : pool.InStep rel twin) (method : Method α) (slots : List α) :
    Act.InStep rel (pool.fill clear method slots) (twin.fill clear method slots) := by
  cases method with
  | withCount count => exact inStep_pure _
  | copySlice source => exact inStep.fillAtOnce _ _ _
  | copyFrom source => exact inStep.fillAtOnce _ _ _
  | collectExact reported items =>
    exact (assignItems rel _ _ _).bind fun _ => inStep.settle _ _
  | collect items => exact (inStep.appendItems _ _ _).bind fun _ => inStep.settle _ _
  | tryCollect items => exact (inStep.appendItems _ _ _).bind fun _ => inStep.settle _ _

theorem rentAndFill (inStep : pool.InStep rel twin) (capacity : Nat) (method : Method α) :
    Act.InStep rel (pool.rentAndFill clear capacity method)
      (twin.rentAndFill clear capacity method) := by
  unfold Pool.rentAndFill
  split
  · exact inStep_pure _
  · exact (inStep.rentChecked _).bind fun slots => inStep.fill method slots

end InStep

end Pool

variable {rel : σ → τ → Prop} {pools : ι → Pool σ α} {twins : ι → Pool τ α}

theorem Settings.build_inStep [Element α] {settings : Settings ι}
    (inStep : (pools settings.handle).InStep rel (twins settings.handle)) (method : Method α) :
    InStep rel (settings.build pools method) (settings.build twins method) := by
  have checked (given : Option (String × Nat)) :
      InStep rel (Pool.checkGiven α given) (Pool.checkGiven α given) := by
    rcases given with _ | ⟨parameter, length⟩
    · exact inStep_pure _
    · rcases Nat.lt_or_ge (Element.maxLen α) length with long | within
      · simp only [Pool.checkGiven, Pool.checkLen_of_long parameter long]
        exact inStep_leave _
      · simp only [Pool.checkGiven, Pool.checkLen_of_within parameter within]
        exact inStep_pure ()
  rw [build_eq_populate, build_eq_populate, populate_stages, populate_stages]
  refine InStep.bind ?_ fun populated => ?_
  · exact (inStep_record _).bind fun _ => (checked _).bind fun _ => inStep.rentAndFill _ _
  · unfold Buffer.ofPopulated
    split <;> exact inStep_leave _

theorem Buffer.giveUp_inStep {buffer : Buffer ι α}
    (inStep : (pools buffer.handle).InStep rel (twins buffer.handle)) :
    InStep rel (buffer.giveUp pools) (buffer.giveUp twins) := by
  cases held : buffer.slots with
  | none =>
    rw [giveUp_of_none pools held, giveUp_of_none twins held]
    exact inStep_pure _
  | some slots =>
    rw [giveUp_of_some pools held, giveUp_of_some twins held]
    exact inStep.giveBack slots _

theorem Construction.run_inStep [Element α] {pools : Handle → Pool σ α} {twins : Handle → Pool τ α}
    {construction : Construction α}
    (inStep : (pools construction.handle).InStep rel (twins construction.handle)) :
    InStep rel (construction.run pools) (construction.run twins) := by
  cases construction with
  | populate settings method => exact Settings.build_inStep inStep method
  | new => exact inStep_pure _
  | fromIterator hint items =>
    apply InStep.expect
    split <;> exact Settings.build_inStep inStep _

end BufferRental
