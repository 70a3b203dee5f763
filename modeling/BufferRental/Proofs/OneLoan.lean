import BufferRental.Element.Kind
import BufferRental.Pool.Planned
import BufferRental.Proofs.Blame
import BufferRental.Proofs.Relay

/-! The calls in the life of a buffer whose length is known before it is filled. Its pool lends one
buffer and gets it back once: at the end of its life, or before the population stops, if it does not
succeed. Where nothing is needed, the pool is left alone from the beginning to the end. -/
namespace BufferRental

open Act

/-- Whoever ends the life of this buffer, at any time and after any operations on its elements,
makes these calls and no others. -/
def Buffer.EndsIn [Element α] (pools : ι → Pool σ α) (calls : List Call) (buffer : Buffer ι α) :
    Prop :=
  ∀ (operations : List (ViewOp α)) (s : σ),
    let last := (inTurn Buffer.perform buffer operations).2
    ((last.giveUp pools).run s).journal.calls = calls ∧
      ((last.release pools).run s).journal.calls = calls

namespace Pool

variable {pool : Pool σ α}

theorem takesIn_any (pool : Pool σ α) : pool.TakesIn fun _ => True := fun _ _ _ _ => trivial

theorem rentChecked_first (minLen : Nat) :
    Ensures (After (fun _ => True) []) (pool.rentChecked minLen)
      (fun slots s j => minLen ≤ slots.length ∧
        After (fun _ => True) [.rent minLen (some slots.length)] s j)
      (fun _ _ j => ¬ j.Served) := by
  apply (rentChecked_added (fun j => j.calls = []) minLen).imp (fun _ _ start => start.2)
  · rintro slots s j ⟨enough, past, new, rfl, none, _, _, _, called⟩
    exact ⟨enough, trivial, by rw [Journal.calls_append, none, called, List.nil_append]⟩
  · exact fun _ _ _ => id

end Pool

namespace Buffer

variable (pools : ι → Pool σ α) (buffer : Buffer ι α)

theorem giveUp_calls (s : σ) :
    ((buffer.giveUp pools).run s).journal.calls = buffer.held.map (.hand · buffer.clear) := by
  cases slots : buffer.slots with
  | none =>
    rw [giveUp_of_none pools slots, held, slots]
    rfl
  | some own =>
    rw [giveUp_of_some pools slots, held, slots]
    have handed : Ensures
        (Owing (fun _ => True) buffer.clear [own.length] [.hand own.length buffer.clear])
        ((pools buffer.handle).giveBack own buffer.clear) _ _ :=
      (Pool.takesIn_any _).giveBack own
    exact (handed.ended s [] ⟨trivial, rfl⟩).2

theorem endsIn_held [Element α] :
    buffer.EndsIn pools (buffer.held.map (.hand · buffer.clear)) := by
  intro operations s last
  have kept : Kept buffer last := (inTurn_agrees buffer operations).2.2
  have same : last.held.map (Call.hand · last.clear) = buffer.held.map (.hand · buffer.clear) := by
    rw [held, held, kept.lengths, kept.clear]
  rw [release_eq_giveUp, giveUp_calls, same]
  exact ⟨rfl, rfl⟩

end Buffer

namespace Settings

variable [Element α] (pools : ι → Pool σ α) (settings : Settings ι) (method : Method α)

/-- One buffer of at least this length was lent, and it is kept, or it went back. -/
theorem populate_lends_once (fixed : method.heedsCapacity = false)
    (needed : 0 < method.firstLen settings.suggestedCapacity)
    (admitted : method.Admitted settings.suggestedCapacity) :
    let length := method.firstLen settings.suggestedCapacity
    let whole (granted : Nat) : List Call :=
      [.rent length (some granted), .hand granted (settings.clear α)]
    Ensures (After (fun _ => True) []) (settings.populate pools method)
      (fun populated s j => ∃ granted, length ≤ granted ∧
        Holding (fun _ => True) (settings.clear α) (whole granted) populated s j)
      (fun _ _ j => j.Served → ∃ granted, length ≤ granted ∧ j.calls = whole granted) := by
  intro length whole
  apply ensures_populate (After.record (by cases method <;> rfl))
  · intro parameter length checked long
    exact absurd (admitted parameter length checked) (Nat.not_le.mpr long)
  · exact fun zero => absurd zero (Nat.ne_of_gt needed)
  · intro _ _
    exact (Pool.rentChecked_first length).stops fun _ _ _ troubled served => absurd served troubled
  · intro _ slots
    refine ensures_given (fun _ _ start => start.1) fun enough => ?_
    have filled : Ensures
        (Owing (fun _ => True) (settings.clear α) [slots.length] (whole slots.length))
        ((pools settings.handle).fill (settings.clear α) method slots) _ _ :=
      (Pool.takesIn_any _).fill fixed enough
    refine filled.imp ?_ ?_ ?_
    · exact fun _ _ start => start.2.owing rfl
    · exact fun _ _ _ holding => ⟨slots.length, enough, holding⟩
    · exact fun _ _ _ after _ => ⟨slots.length, enough, after.2⟩

theorem build_of_nothing (nothing : method.firstLen settings.suggestedCapacity = 0)
    (admitted : method.Admitted settings.suggestedCapacity) (s : σ) :
    (settings.build pools method).run s =
      ⟨.done (.empty (settings.clear α) settings.handle), s, method.measurement⟩ := by
  have left : (Buffer.ofPopulated (settings.clear α) settings.handle ⟨none, 0⟩ : Act σ α _) =
      return .empty (settings.clear α) settings.handle := rfl
  rw [build_eq_populate, populate_stages, Pool.checkGiven_of_admitted admitted]
  simp only [Pool.rentAndFill, nothing, if_true, bind_assoc, Act.pure_bind, left]
  simp [run_bind, Act.bind, -bind_pure_comp]

theorem build_lends_once (fixed : method.heedsCapacity = false)
    (needed : 0 < method.firstLen settings.suggestedCapacity)
    (admitted : method.Admitted settings.suggestedCapacity) :
    let length := method.firstLen settings.suggestedCapacity
    let clear := settings.clear α
    Ensures (fun _ j => j = []) (settings.build pools method)
      (fun buffer _ j => ∃ granted, length ≤ granted ∧ j.calls = [.rent length (some granted)] ∧
        buffer.EndsIn pools [.hand granted clear])
      (fun _ _ j => j.Served → ∃ granted, length ≤ granted ∧
        j.calls = [.rent length (some granted), .hand granted clear]) := by
  intro length clear
  rw [build_eq_populate]
  have populated := (populate_lends_once pools settings method fixed needed admitted).and
    (populate_books pools settings method)
  apply ensures_bind (populated.imp ?_ (fun _ _ _ => id) fun _ _ _ => And.left)
  · intro populated
    refine ensures_given (fun _ _ start => start.2.1.bound) fun fits => ?_
    unfold Buffer.ofPopulated
    rw [dif_pos fits]
    apply ensures_pure
    rintro s j ⟨⟨granted, enough, slots, kept, _, whole⟩, _⟩
    obtain ⟨made, last⟩ : j.calls = [.rent length (some granted)] ∧
        [Call.hand slots.length clear] = [.hand granted clear] :=
      List.append_inj' (whole : _ = [_] ++ [_]) rfl
    have same : populated.slots.map List.length = some granted := by
      simpa [kept] using last
    have ends := Buffer.endsIn_held pools
      ⟨populated.slots, populated.count, clear, settings.handle, fits⟩
    rw [Buffer.held, same] at ends
    exact ⟨granted, enough, made, ends⟩
  · rintro _ _ rfl
    exact ⟨⟨trivial, rfl⟩, rfl⟩

/-- The life of a buffer of known length, as its pool sees it. If nothing is needed it sees nothing
from the beginning to the end. Otherwise it lends one buffer, if it serves what it is asked, and gets
that buffer back once, cleared or not as was decided: before the population stops, if it fails or
panics, and otherwise when its owner ends its life. -/
theorem fixed_length_one_loan (fixed : method.heedsCapacity = false)
    (within : method.firstLen settings.suggestedCapacity ≤ Element.maxLen α) (s : σ)
    (served : ((settings.build pools method).run s).journal.Served) :
    let length := method.firstLen settings.suggestedCapacity
    let clear := settings.clear α
    let outcome := (settings.build pools method).run s
    let nothing : Buffer ι α := .empty clear settings.handle
    (length = 0 → outcome = ⟨.done nothing, s, method.measurement⟩ ∧ nothing.EndsIn pools []) ∧
      (0 < length → outcome.exit.Satisfies
        (fun buffer => ∃ granted, length ≤ granted ∧
          outcome.journal.calls = [.rent length (some granted)] ∧
          buffer.EndsIn pools [.hand granted clear])
        (fun ending => ending ≠ .aborted ∧ ∃ granted, length ≤ granted ∧
          outcome.journal.calls = [.rent length (some granted), .hand granted clear])) := by
  intro length clear outcome nothing
  have admitted := method.admitted_of_firstLen_le fixed within
  constructor
  · intro none
    exact ⟨build_of_nothing pools settings method none admitted s, Buffer.endsIn_held pools nothing⟩
  · intro needed
    have lent := build_lends_once pools settings method fixed needed admitted
    have both := lent.and (build_accounts pools settings method) s [] ⟨rfl, rfl⟩
    apply both.imp
    · exact fun buffer => And.left
    · rintro ending ⟨once, accounts⟩
      exact ⟨accounts.unaborted served, once served⟩

/-- An iterator that reports three items and has none leaves a buffer that goes back at its end; one
that panics at its second item has the buffer go back before that. -/
theorem fixed_length_one_loan_early :
    let pools : Unit → Pool (PlannedPool UInt8) UInt8 := fun _ => PlannedPool.asPool UInt8
    let outcome (items : List (Yield UInt8)) := ((⟨.always, 4, ()⟩ : Settings Unit).build pools
      (.collectExact 3 items)).run (.start ⟨[1], 4096, 7, [], [], []⟩)
    (∃ buffer : Buffer Unit UInt8, (outcome []).exit = .done buffer ∧ buffer.count = 0 ∧
        buffer.EndsIn pools [.hand 4 true]) ∧
      (outcome [.item 1, .panic "broken"]).exit = .panicked (.raised "broken") ∧
      (outcome [.item 1, .panic "broken"]).journal.calls = [.rent 3 (some 4), .hand 4 true] := by
  intro pools outcome
  refine ⟨?_, rfl, by decide⟩
  have life := fixed_length_one_loan pools ⟨.always, 4, ()⟩ (.collectExact 3 []) rfl (by decide)
    (.start ⟨[1], 4096, 7, [], [], []⟩) (by decide)
  have ended : (outcome []).exit = .done ⟨some [7, 7, 7, 7], 0, true, (), by decide⟩ := rfl
  have lent := life.2 (by decide)
  obtain ⟨granted, _, made, ends⟩ := ended ▸ lent
  have four : granted = 4 := by
    have called : (outcome []).journal.calls = [.rent 3 (some 4)] := by decide
    have same := made.symm.trans called
    simp only [List.cons.injEq, Call.rent.injEq, Option.some.injEq] at same
    exact same.1.2
  exact ⟨_, ended, rfl, four ▸ ends⟩

end Settings

end BufferRental
