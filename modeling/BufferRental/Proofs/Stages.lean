import BufferRental.Proofs.Filling
import BufferRental.Proofs.Traffic

/-! The stages of a population. All methods go the same way: the source may be asked its length, a
length is checked, a buffer is rented unless nothing is needed, and what was rented is filled. They
differ in the lengths they check and rent, and in how they fill. -/
namespace BufferRental

namespace Method

/-- What is asked of a source before its length can be checked. -/
def measurement : Method α → Journal α
  | copyFrom source => [.measured (source.lengthAt 0)]
  | _ => []

/-- The length that is checked, and the name that it goes by. -/
def checked? (capacity : Nat) : Method α → Option (String × Nat)
  | withCount count => some ("count", count)
  | copySlice _ => none
  | copyFrom source => some ("count", source.lengthAt 0)
  | collectExact reported _ => some ("count", reported)
  | collect _ | tryCollect _ => some ("capacity", capacity)

/-- The length that is rented first; nothing is rented for a length of zero. -/
def firstLen (capacity : Nat) : Method α → Nat
  | withCount count => count
  | copySlice source => source.length
  | copyFrom source => source.lengthAt 0
  | collectExact reported _ => reported
  | collect _ | tryCollect _ => max capacity 1

def heedsCapacity : Method α → Bool
  | collect _ | tryCollect _ => true
  | _ => false

def Admitted [Element α] (capacity : Nat) (method : Method α) : Prop :=
  ∀ parameter length, method.checked? capacity = some (parameter, length) →
    length ≤ Element.maxLen α

theorem admitted_or_long [Element α] (capacity : Nat) (method : Method α) :
    method.Admitted capacity ∨ ∃ parameter length,
      method.checked? capacity = some (parameter, length) ∧ Element.maxLen α < length := by
  unfold Admitted
  cases method.checked? capacity with
  | none => exact .inl nofun
  | some argument =>
    obtain ⟨parameter, length⟩ := argument
    rcases Nat.lt_or_ge (Element.maxLen α) length with long | within
    · exact .inr ⟨parameter, length, rfl, long⟩
    · left
      rintro _ _ ⟨⟩
      exact within

/-- Populations that do not grow check what they rent, if they check anything. -/
theorem admitted_of_firstLen_le [Element α] {capacity : Nat} {method : Method α}
    (fixed : method.heedsCapacity = false) (within : method.firstLen capacity ≤ Element.maxLen α) :
    method.Admitted capacity := by
  rintro parameter length checked
  cases method with
  | collect | tryCollect => cases fixed
  | copySlice => cases checked
  | withCount | copyFrom | collectExact =>
    cases checked
    exact within

/-- A slice is as long as it is; all other methods rent what they checked, and one slot at least if
they grow. -/
theorem Admitted.firstLen_le [Element α] {capacity : Nat} {method : Method α}
    (admitted : method.Admitted capacity) (noSlice : ∀ source, method ≠ .copySlice source) :
    method.firstLen capacity ≤ max 1 (Element.maxLen α) := by
  cases method with
  | copySlice source => exact absurd rfl (noSlice source)
  | withCount | copyFrom | collectExact =>
    exact Nat.le_trans (admitted _ _ rfl) (Nat.le_max_right ..)
  | collect | tryCollect =>
    have checked := admitted _ _ rfl
    show max capacity 1 ≤ _
    omega

end Method

namespace Pool

open Act

variable [Element α]

def checkGiven (α : Type) [Element α] : Option (String × Nat) → Act σ α Unit
  | none => return ()
  | some (parameter, length) => checkLen α parameter length

def fill (pool : Pool σ α) (clear : Bool) : Method α → List α → Act σ α (Populated α)
  | .withCount count, slots => return ⟨some slots, count⟩
  | .copySlice source, slots => pool.fillAtOnce clear source.length slots (cloneRun source)
  | .copyFrom source, slots => pool.fillAtOnce clear (source.lengthAt 0) slots source.copyTo
  | .collectExact reported items, slots => do
    let (filling, ending) ← assignItems reported items (.start slots)
    pool.settle clear filling.slots (ending.map fun _ => filling.populated)
  | .collect items, slots => do
    let (filling, ending) ← pool.appendItems clear (Element.maxLen α)
      (items.map (Yield.map Except.ok)) (.start slots)
    pool.settle clear filling.slots (ending.map fun _ => filling.populated)
  | .tryCollect items, slots => do
    let (filling, ending) ← pool.appendItems clear (Element.maxLen α) items (.start slots)
    pool.settle clear filling.slots (ending.map fun _ => filling.populated)

def rentAndFill (pool : Pool σ α) (clear : Bool) (capacity : Nat) (method : Method α) :
    Act σ α (Populated α) :=
  if method.firstLen capacity = 0 then return ⟨none, 0⟩
  else pool.rentChecked (method.firstLen capacity) >>= pool.fill clear method

theorem checkLen_of_within {length : Nat} (parameter : String)
    (within : length ≤ Element.maxLen α) :
    (checkLen α parameter length : Act σ α Unit) = return () :=
  if_neg (Nat.not_lt.mpr within)

theorem checkLen_of_long {length : Nat} (parameter : String) (long : Element.maxLen α < length) :
    (checkLen α parameter length : Act σ α Unit) =
      leave (.failed (.tooLong parameter length (Element.maxLen α))) :=
  if_pos long

theorem checkGiven_of_admitted {capacity : Nat} {method : Method α}
    (admitted : method.Admitted capacity) :
    (checkGiven α (method.checked? capacity) : Act σ α Unit) = return () := by
  cases checked : method.checked? capacity with
  | none => rfl
  | some argument => exact checkLen_of_within _ (admitted _ _ checked)

end Pool

open Act

theorem Act.record_nil_bind (next : Unit → Act σ α β) : record [] >>= next = next () := by
  ext s
  simp [run_bind, Act.bind]

theorem Settings.populate_stages [Element α] (pools : ι → Pool σ α) (settings : Settings ι)
    (method : Method α) : settings.populate pools method =
      record method.measurement >>= fun _ =>
        Pool.checkGiven α (method.checked? settings.suggestedCapacity) >>= fun _ =>
          (pools settings.handle).rentAndFill (settings.clear α) settings.suggestedCapacity method := by
  cases method with
  | withCount count =>
    rw [Method.measurement, record_nil_bind]
    · rfl
    · intro _ same
      cases same
  | copySlice source =>
    rw [Method.measurement, record_nil_bind]
    · simp only [populate, Pool.copySlice, List.isEmpty_iff_length_eq_zero]
      rfl
    · intro _ same
      cases same
  | copyFrom source =>
    by_cases nothing : source.lengthAt 0 = 0
    · simp only [populate, Pool.copyFrom, Pool.checkGiven, Method.checked?, Pool.rentAndFill,
        Method.firstLen, Method.measurement, nothing, Pool.checkLen_of_within _ (Nat.zero_le _),
        Act.pure_bind, if_true]
    · simp only [populate, Pool.copyFrom, Pool.checkGiven, Method.checked?, Pool.rentAndFill,
        Method.firstLen, Method.measurement, nothing, if_false]
      rfl
  | collectExact reported items =>
    rw [Method.measurement, record_nil_bind]
    · by_cases nothing : reported = 0
      · simp only [populate, Pool.collectExact, Pool.checkGiven, Method.checked?, Pool.rentAndFill,
          Method.firstLen, nothing, Pool.checkLen_of_within _ (Nat.zero_le _), Act.pure_bind, if_true]
      · simp only [populate, Pool.collectExact, Pool.checkGiven, Method.checked?, Pool.rentAndFill,
          Method.firstLen, nothing, if_false]
        rfl
    · intro _ same
      cases same
  | collect | tryCollect =>
    have one : max settings.suggestedCapacity 1 ≠ 0 := by omega
    rw [Method.measurement, record_nil_bind]
    · simp only [Pool.rentAndFill, Method.firstLen, one, if_false]
      rfl
    · intro _ same
      cases same

/-- One rule for all methods: what holds after each stage carries the population through the next
one, and a population stops at a length that is too long, in renting or in filling. -/
theorem Settings.ensures_populate [Element α] {pools : ι → Pool σ α} {settings : Settings ι}
    {method : Method α} {pre asked : σ → Journal α → Prop} {lent : List α → σ → Journal α → Prop}
    {post : Populated α → σ → Journal α → Prop} {stop : Exit Empty → σ → Journal α → Prop}
    (measured : Ensures pre (record method.measurement) (fun _ => asked) stop)
    (refused : ∀ parameter length,
      method.checked? settings.suggestedCapacity = some (parameter, length) →
      Element.maxLen α < length → ∀ s j, asked s j →
        stop (.failed (.tooLong parameter length (Element.maxLen α))) s j)
    (nothing : method.firstLen settings.suggestedCapacity = 0 → ∀ s j, asked s j →
      post ⟨none, 0⟩ s j)
    (rented : method.Admitted settings.suggestedCapacity →
      0 < method.firstLen settings.suggestedCapacity → Ensures asked
        ((pools settings.handle).rentChecked (method.firstLen settings.suggestedCapacity)) lent stop)
    (filled : 0 < method.firstLen settings.suggestedCapacity → ∀ slots,
      Ensures (lent slots) ((pools settings.handle).fill (settings.clear α) method slots) post stop) :
    Ensures pre (settings.populate pools method) post stop := by
  rw [populate_stages]
  refine ensures_bind measured fun _ => ?_
  rcases method.admitted_or_long settings.suggestedCapacity with
    admitted | ⟨parameter, length, checked, long⟩
  · rw [Pool.checkGiven_of_admitted admitted, Act.pure_bind]
    unfold Pool.rentAndFill
    split
    · rename_i zero
      exact ensures_pure (nothing zero)
    · rename_i nonzero
      have positive := Nat.pos_of_ne_zero nonzero
      exact ensures_bind (rented admitted positive) (filled positive)
  · simp only [checked, Pool.checkGiven, Pool.checkLen_of_long parameter long, leave_bind_failed]
    exact ensures_fail (refused parameter length checked long)

end BufferRental
