import BufferRental.Element.Kind
import BufferRental.Pool.Planned
import BufferRental.Proofs.Blame
import BufferRental.Proofs.Preservation
import Mathlib.Algebra.Group.Nat.Defs

/-! Which lengths get through. A length that the caller gives is checked before anything else is
done; if no buffer can have it, the population is refused and neither pool nor source is touched.
So every length that a pool is asked for, at first or in growing, is one that a buffer can have. -/
namespace BufferRental

namespace Method

variable [Element α] {method : Method α} {capacity : Nat} {parameter problem : String}

theorem checked_of_invalidArgument
    (own : (method.cause capacity).fails (.invalidArgument parameter problem)) :
    ∃ length, method.checked? capacity = some (parameter, length) ∧ Element.maxLen α < length := by
  have tooLong {name : String} {length : Nat}
      (long : Element.TooLong α name length (.invalidArgument parameter problem)) :
      ∃ checked, some (name, length) = some (parameter, checked) ∧ Element.maxLen α < checked := by
    obtain ⟨long, same⟩ := long
    cases same
    exact ⟨length, rfl, long⟩
  cases method with
  | withCount | collectExact => exact tooLong own
  | copySlice => exact own.elim
  | copyFrom source =>
    rcases own with long | ⟨_, _, _, same⟩
    · exact tooLong long
    · cases same
  | collect items =>
    rcases own with long | ⟨_, _, _, same⟩
    · exact tooLong long
    · cases same
  | tryCollect items =>
    rcases own with long | ⟨_, _, _, same⟩ | ⟨_, _, same⟩
    · exact tooLong long
    · cases same
    · cases same

end Method

/-- If this asks a pool for a buffer, then for a length between one and the limit. -/
def Event.AsksWithin (limit : Nat) : Event α → Prop
  | .rented request _ => 1 ≤ request ∧ request ≤ limit
  | _ => True

def Journal.AsksWithin (limit : Nat) (journal : Journal α) : Prop :=
  ∀ event ∈ journal, event.AsksWithin limit

open Act

namespace Pool

theorem upholds_asksWithin (pool : Pool σ α) (limit : Nat) (clear : Bool) :
    pool.UpholdsFor (fun length => 1 ≤ length ∧ length ≤ limit) clear
      fun _ journal => journal.AsksWithin limit := by
  apply upholdsFor_seen
  · exact fun _ _ within => within
  · exact fun _ _ => trivial
  · intro event still
    cases event with
    | rented | returned => cases still
    | noted | pulled | cloned | measured | offered => trivial

end Pool

theorem Element.one_le_maxLen (α : Type) [Element α] (small : size α < 2 ^ 63) : 1 ≤ maxLen α := by
  unfold maxLen maxBufferLen
  split
  · decide
  · rename_i sized
    exact (Nat.one_le_div_iff (Nat.pos_of_ne_zero sized)).mpr (by omega)

namespace Settings

variable [Element α] (pools : ι → Pool σ α) (settings : Settings ι) (method : Method α)

/-- Nothing comes before the check but the question for the length. -/
theorem build_of_long {parameter : String} {length : Nat}
    (checked : method.checked? settings.suggestedCapacity = some (parameter, length))
    (long : Element.maxLen α < length) :
    settings.build pools method = record method.measurement >>= fun _ =>
      leave (.failed (.tooLong parameter length (Element.maxLen α))) := by
  have refused : (Pool.checkGiven α (method.checked? settings.suggestedCapacity) : Act σ α Unit) =
      leave (.failed (.tooLong parameter length (Element.maxLen α))) := by
    rw [checked]
    exact Pool.checkLen_of_long parameter long
  rw [build_eq_populate, populate_stages, refused]
  simp only [bind_assoc, leave_bind_failed]

theorem build_asksWithin (small : Element.size α < 2 ^ 63)
    (slice : ∀ source, method = .copySlice source → source.length ≤ Element.maxLen α) (s : σ) :
    ((settings.build pools method).run s).journal.AsksWithin (Element.maxLen α) := by
  have one := Element.one_le_maxLen α small
  have upholds := (pools settings.handle).upholds_asksWithin (Element.maxLen α) (settings.clear α)
  refine (build_keeps_for upholds ?_ method ?_).seen s
  · intro n positive within
    exact ⟨positive, by omega⟩
  · intro source same nonempty
    exact ⟨List.length_pos_iff.mpr nonempty, slice source same⟩

/-- A population is refused for an argument just if the length that it checks is too long for any
buffer, and then it has touched nothing. Otherwise it asks its pool for lengths that buffers can
have, however it ends. An element takes less than half the address space, and so does a slice. -/
theorem lengths_checked_first (settings : Settings ι) (method : Method α) (s : σ) :
    let outcome := (settings.build pools method).run s
    let checked? := method.checked? settings.suggestedCapacity
    (∀ parameter, (∃ problem, outcome.exit = .failed (.invalidArgument parameter problem)) ↔
        ∃ length, checked? = some (parameter, length) ∧ Element.maxLen α < length) ∧
      (∀ parameter length, checked? = some (parameter, length) → Element.maxLen α < length →
        outcome = ⟨.failed (.tooLong parameter length (Element.maxLen α)), s, method.measurement⟩) ∧
      (method.heedsCapacity = false → ∀ capacity,
        (settings.apply (.suggestedCapacity capacity)).build pools method =
          settings.build pools method) ∧
      (Element.size α < 2 ^ 63 →
        (∀ source, method = .copySlice source → source.length ≤ Element.maxLen α) →
          outcome.journal.AsksWithin (Element.maxLen α)) := by
  intro outcome checked?
  have refused (parameter : String) (length : Nat) (checked : checked? = some (parameter, length))
      (long : Element.maxLen α < length) : outcome =
        ⟨.failed (.tooLong parameter length (Element.maxLen α)), s, method.measurement⟩ := by
    have early := build_of_long pools settings method checked long
    show (settings.build pools method).run s = _
    rw [early]
    simp [run_bind, Act.bind]
  refine ⟨fun parameter => ⟨?_, ?_⟩, refused, ?_, fun small slice => ?_⟩
  · rintro ⟨problem, failed⟩
    have accounts := build_accounts pools settings method s [] rfl
    rw [failed] at accounts
    cases accounts with
    | failed own => exact Method.checked_of_invalidArgument own
  · rintro ⟨length, checked, long⟩
    exact ⟨_, congrArg Outcome.exit (refused parameter length checked long)⟩
  · intro fixed capacity
    cases method with
    | collect | tryCollect => cases fixed
    | withCount | copySlice | copyFrom | collectExact => rfl
  · exact build_asksWithin pools settings method small slice s

/-- A capacity of zero is too small to rent and becomes one; half the address space is one byte too
much, and not even the first item is taken. -/
theorem lengths_checked_first_bytes :
    let pools : Unit → Pool (PlannedPool UInt8) UInt8 := fun _ => PlannedPool.asPool UInt8
    let start : PlannedPool UInt8 := .start ⟨[], 4096, 7, [], [], []⟩
    let items : Method UInt8 := .tryCollect [.item (.ok 1), .item (.ok 2), .item (.error "broken")]
    let grown := ((⟨.auto, 0, ()⟩ : Settings Unit).build pools items).run start
    let refused := ((⟨.auto, 2 ^ 63, ()⟩ : Settings Unit).build pools items).run start
    grown.journal.calls =
        [.rent 1 (some 1), .rent 2 (some 2), .hand 1 false, .hand 2 false] ∧
      grown.journal.AsksWithin (2 ^ 63 - 1) ∧
      refused = ⟨.failed (.tooLong "capacity" (2 ^ 63) (2 ^ 63 - 1)), start, []⟩ := by
  intro pools start items grown refused
  obtain ⟨_, _, _, within⟩ := lengths_checked_first pools ⟨.auto, 0, ()⟩ items start
  obtain ⟨_, untouched, _⟩ := lengths_checked_first pools ⟨.auto, 2 ^ 63, ()⟩ items start
  exact ⟨by decide, within (by decide) nofun, untouched _ _ rfl (by decide)⟩

end Settings

end BufferRental
