import BufferRental.Element.Kind
import BufferRental.Pool.Planned
import BufferRental.Proofs.Custody
import BufferRental.Proofs.Growth
import Mathlib.Algebra.GroupWithZero.Nat
import Mathlib.Data.List.Chain

/-! What growing costs. The length that replaces a full buffer is twice its own, unless that is more
than the longest buffer has, and the longest one is not outgrown any more. So from every length up to
it the longest one is reached in a few steps, and the slots of all outgrown buffers, which are the
elements that were moved, are less than twice the items. -/
namespace BufferRental

theorem nextLen_larger {current limit next : Nat} (word : limit ≤ maxWord)
    (grows : nextLen current limit = some next) :
    current < next ∧ next ≤ limit ∧ (current = 0 → next = 1) ∧
      (0 < current → next = min (2 * current) limit) := by
  obtain ⟨below, doubled⟩ := (nextLen_eq_some_iff word).mp grows
  omega

/-- The lengths that follow `current` if it grows again and again, until there is none to ask for. -/
structure GrowthChain (limit current : Nat) (lens : List Nat) : Prop where
  grows : (current :: lens).IsChain fun length next => nextLen length limit = some next
  ends : nextLen (lens.getLastD current) limit = none

namespace GrowthChain

variable {limit current next : Nat} {lens : List Nat}

theorem cons_iff : GrowthChain limit current (next :: lens) ↔
    nextLen current limit = some next ∧ GrowthChain limit next lens := by
  constructor
  · intro chain
    obtain ⟨first, rest⟩ := List.isChain_cons_cons.mp chain.grows
    exact ⟨first, rest, by simpa only [List.getLastD_cons] using chain.ends⟩
  · intro ⟨first, rest⟩
    exact ⟨List.isChain_cons_cons.mpr ⟨first, rest.grows⟩,
      by simpa only [List.getLastD_cons] using rest.ends⟩

theorem exists_lens (word : limit ≤ maxWord) (current : Nat) :
    ∃ lens, GrowthChain limit current lens := by
  cases asked : nextLen current limit with
  | none => exact ⟨[], List.isChain_singleton _, asked⟩
  | some next =>
    -- what is left to the limit gets less with every step
    have larger := nextLen_larger word asked
    have less : limit - next < limit - current := by omega
    obtain ⟨lens, chain⟩ := exists_lens word next
    exact ⟨next :: lens, cons_iff.mpr ⟨asked, chain⟩⟩
termination_by limit - current

theorem increasing (word : limit ≤ maxWord) (chain : GrowthChain limit current lens) :
    (current :: lens).Pairwise (· < ·) := by
  rw [← List.isChain_iff_pairwise]
  exact chain.grows.imp fun _ _ grows => (nextLen_larger word grows).1

/-- A length beyond the limit does not grow at all. -/
theorem last_eq (word : limit ≤ maxWord) (chain : GrowthChain limit current lens) :
    lens.getLastD current = max current limit := by
  induction lens generalizing current with
  | nil =>
    have reached : limit ≤ current := nextLen_eq_none_iff.mp chain.ends
    exact (Nat.max_eq_left reached).symm
  | cons next lens ih =>
    obtain ⟨first, rest⟩ := cons_iff.mp chain
    have larger := nextLen_larger word first
    rw [List.getLastD_cons, ih rest]
    omega

theorem length_le (word : limit ≤ maxWord) (chain : GrowthChain limit current lens)
    (positive : 0 < current) {steps : Nat} (reach : limit ≤ current * 2 ^ steps) :
    lens.length ≤ steps := by
  induction lens generalizing current steps with
  | nil => exact Nat.zero_le _
  | cons next lens ih =>
    obtain ⟨first, rest⟩ := cons_iff.mp chain
    obtain ⟨larger, within, _, doubled⟩ := nextLen_larger word first
    cases steps with
    | zero => omega
    | succ steps =>
      have room : 0 < 2 ^ steps := Nat.two_pow_pos steps
      have later : limit ≤ next * 2 ^ steps := by
        rcases Nat.le_total (2 * current) limit with twice | capped
        · rw [doubled positive, Nat.min_eq_left twice, Nat.mul_assoc, Nat.mul_left_comm,
            ← Nat.pow_succ']
          exact reach
        · rw [doubled positive, Nat.min_eq_right capped]
          exact Nat.le_mul_of_pos_right limit room
      exact Nat.succ_le_succ (ih rest (Nat.zero_lt_of_lt larger) later)

theorem length_le_bits (word : limit ≤ maxWord) (chain : GrowthChain limit current lens) :
    lens.length ≤ 65 := by
  have reach (length : Nat) (positive : 0 < length) : limit ≤ length * 2 ^ 64 := by
    have bits : maxWord < 2 ^ 64 := by decide
    omega
  rcases Nat.eq_zero_or_pos current with rfl | positive
  · cases lens with
    | nil => exact Nat.zero_le _
    | cons next lens =>
      -- nothing becomes one slot first, and that is doubled like any other length
      obtain ⟨first, rest⟩ := cons_iff.mp chain
      have larger := (nextLen_larger word first).1
      exact Nat.succ_le_succ (rest.length_le word larger (reach next larger))
  · exact Nat.le_succ_of_le (chain.length_le word positive (reach current positive))

end GrowthChain

/-- How lengths grow. There is no next length just if the limit is reached. Otherwise it is larger, and
it is exactly twice the length within the limit, although twice the length may be more than a word
holds; what is empty gets one slot. Growing again and again rises with every step and takes no more
than 65 steps. It ends at the limit; a length that is beyond the limit stays what it is. -/
theorem growing_ends_at_limit (current : Nat) {limit : Nat} (word : limit ≤ maxWord) :
    (nextLen current limit = none ↔ limit ≤ current) ∧
      (current < limit → ∃ next, nextLen current limit = some next ∧ current < next ∧ next ≤ limit ∧
        (current = 0 → next = 1) ∧ (0 < current → next = min (2 * current) limit)) ∧
      (∃ lens, GrowthChain limit current lens) ∧
      ∀ lens, GrowthChain limit current lens → (current :: lens).Pairwise (· < ·) ∧
        lens.getLastD current = max current limit ∧ lens.length ≤ 65 := by
  refine ⟨nextLen_eq_none_iff, ?_, GrowthChain.exists_lens word current, ?_⟩
  · intro below
    have grows := (nextLen_eq_some_iff word).mpr ⟨below, rfl⟩
    exact ⟨_, grows, nextLen_larger word grows⟩
  · intro lens chain
    exact ⟨chain.increasing word, chain.last_eq word, chain.length_le_bits word⟩

/-- Twice the length is more than a word holds, and it is cut to the limit in one step. -/
theorem growing_ends_at_limit_saturated :
    maxWord ≤ maxWord ∧ nextLen (2 ^ 63 + 1) maxWord = some maxWord ∧
      ∀ lens, GrowthChain maxWord 0 lens → lens.getLastD 0 = maxWord ∧ lens.length ≤ 65 := by
  have word : maxWord ≤ maxWord := Nat.le_refl _
  obtain ⟨_, doubled, _, _⟩ := growing_ends_at_limit (2 ^ 63 + 1) word
  obtain ⟨_, _, _, chains⟩ := growing_ends_at_limit 0 word
  refine ⟨word, ?_, fun lens chain => ?_⟩
  · obtain ⟨next, grows, _, _, _, exact⟩ := doubled (by decide)
    rw [grows, exact (by decide)]
    rfl
  · obtain ⟨_, last, few⟩ := chains lens chain
    exact ⟨last.trans (Nat.zero_max _), few⟩

/-- A length beyond the limit does not come back to it. -/
theorem growing_ends_at_limit_beyond :
    5 ≤ maxWord ∧ 3 ≤ maxWord ∧ nextLen 5 3 = none ∧
      ¬ ∃ lens, GrowthChain 3 5 lens ∧ lens.getLastD 5 = 3 := by
  have word : 3 ≤ maxWord := by decide
  refine ⟨by decide, word, rfl, ?_⟩
  rintro ⟨lens, chain, reached⟩
  have stays : lens.getLastD 5 = 5 := chain.last_eq word
  omega

theorem sum_add_head_le_of_doubles {first : Nat} {lens : List Nat}
    (doubles : (first :: lens).IsChain fun length next => 2 * length ≤ next) :
    (first :: lens).sum + first ≤ 2 * lens.getLastD first := by
  induction lens generalizing first with
  | nil =>
    rw [List.sum_cons, List.sum_nil, List.getLastD_nil]
    omega
  | cons next lens ih =>
    obtain ⟨twice, rest⟩ := List.isChain_cons_cons.mp doubles
    have bound := ih rest
    rw [List.sum_cons, List.getLastD_cons]
    omega

theorem two_pow_mul_head_le_of_doubles {first : Nat} {lens : List Nat}
    (doubles : (first :: lens).IsChain fun length next => 2 * length ≤ next) :
    2 ^ lens.length * first ≤ lens.getLastD first := by
  induction lens generalizing first with
  | nil => simp
  | cons next lens ih =>
    obtain ⟨twice, rest⟩ := List.isChain_cons_cons.mp doubles
    rw [List.getLastD_cons, List.length_cons, Nat.pow_succ, Nat.mul_assoc]
    exact Nat.le_trans (Nat.mul_le_mul_left _ twice) (ih rest)

def Call.request? : Call → Option Nat
  | rent request _ => some request
  | hand .. => none

def Journal.requests (journal : Journal α) : List Nat := journal.calls.filterMap Call.request?

theorem Journal.Served.le_granted {journal : Journal α} (served : journal.Served)
    {request granted : Nat} (call : .rent request (some granted) ∈ journal.calls) :
    request ≤ granted := by
  obtain ⟨event, member, same⟩ := List.mem_filterMap.mp call
  have fine := served event member
  cases event with
  | rented asked lent =>
    cases lent with
    | none => cases same
    | some slots =>
      cases same
      simpa [Event.served] using fine
  | returned | noted | pulled | cloned | measured | offered => cases same

/-- The lengths that are outgrown before the final one. None of them was asked for at the limit, so each
is twice the one before or more. -/
theorem growthCalls_doubles {clear : Bool} {limit first final : Nat} {middle : List Nat}
    (ample : ∀ request granted, .rent request (some granted) ∈
      growthCalls clear limit first (middle ++ [final]) → request ≤ granted)
    (below : ∀ length ∈ middle, length < limit) :
    (first :: middle).IsChain fun length next => 2 * length ≤ next := by
  induction middle generalizing first with
  | nil => exact List.isChain_singleton _
  | cons next middle ih =>
    have granted : min (2 * first) limit ≤ next := ample _ _ (by simp [growthCalls])
    have outgrown : next < limit := below next List.mem_cons_self
    refine List.isChain_cons_cons.mpr ⟨by omega, ih ?_ ?_⟩
    · intro request granted call
      exact ample request granted (by simp [growthCalls, call])
    · intro length member
      exact below length (List.mem_cons_of_mem _ member)

theorem growthCalls_cost {clear : Bool} {limit first final count : Nat} {middle : List Nat}
    (ample : ∀ request granted, .rent request (some granted) ∈
      growthCalls clear limit first (middle ++ [final]) → request ≤ granted)
    (positive : 0 < first) (shorter : ∀ length ∈ first :: middle, length < count)
    (within : count ≤ limit) :
    (first :: middle).sum ≤ 2 * middle.getLastD first - first ∧
      middle.getLastD first < count ∧ 2 ^ middle.length < count := by
  have doubles : (first :: middle).IsChain fun length next => 2 * length ≤ next := by
    apply growthCalls_doubles ample
    intro length member
    exact Nat.lt_of_lt_of_le (shorter length (List.mem_cons_of_mem _ member)) within
  have sum := sum_add_head_le_of_doubles doubles
  have steps := two_pow_mul_head_le_of_doubles doubles
  have one : 2 ^ middle.length ≤ 2 ^ middle.length * first := Nat.le_mul_of_pos_right _ positive
  have last : middle.getLastD first < count := by
    apply shorter
    rw [← List.getLast_eq_getLastD (List.cons_ne_nil first middle)]
    exact List.getLast_mem _
  exact ⟨by omega, last, by omega⟩

theorem getLast?_requests_growthCalls (clear : Bool) (limit first final : Nat) (middle : List Nat) :
    ((growthCalls clear limit first (middle ++ [final])).filterMap Call.request?).getLast? =
      some (min (2 * middle.getLastD first) limit) := by
  rw [growthCalls_concat, List.filterMap_append]
  exact List.getLast?_concat

namespace Settings

open Act

variable [Element α] (pools : ι → Pool σ α) (settings : Settings ι) (items : List α)

/-- The cost of growing, for a population that took all its items. Each outgrown buffer got the first
slots of its successor in exchange for its own, so the lengths of the outgrown buffers count the
elements that were moved. If there are any, they add up to no more than twice the last one less the
first, which is less than twice the items; the buffer grew by doubling, so the steps are few; and the
last request is for less than twice the items as well. -/
theorem growing_moves_few {method : Method α} {buffer : Buffer ι α} (s : σ)
    (grows : method = .collect (items.map .item) ∨
      method = .tryCollect (items.map fun item => .item (.ok item)))
    (few : items.length ≤ Element.maxLen α)
    (ended : ((settings.build pools method).run s).exit = .done buffer) :
    let journal := ((settings.build pools method).run s).journal
    let moved := journal.handed.map List.length
    ∃ first later, journal.lent = first :: later ∧ journal.handed = outgrown first later ∧
      moved = ((first :: later).map List.length).dropLast ∧
      (0 < moved.length → ∃ last request, moved.getLast? = some last ∧
        journal.requests.getLast? = some request ∧ moved.sum ≤ 2 * last - first.length ∧
        2 * last - first.length < 2 * items.length ∧ 2 ^ (moved.length - 1) < items.length ∧
        request ≤ 2 * (items.length - 1)) := by
  intro journal moved
  have after := ((build_grown pools settings items grows).and (build_builds pools settings method))
    s [] ⟨rfl, rfl⟩
  rw [ended] at after
  obtain ⟨⟨first, later, grew, short, _, _, slots⟩, _, _, owes⟩ := after
  replace grew : journal.Grew (settings.clear α) (Element.maxLen α)
    (max settings.suggestedCapacity 1) first later := grew
  have settled : moved = ((first :: later).map List.length).dropLast := by
    have books : journal.lent.map List.length = moved ++ buffer.held := owes.settled
    rw [Buffer.held, slots] at books
    rw [← grew.lent, books]
    exact List.dropLast_concat.symm
  refine ⟨first, later, grew.lent, grew.handed, settled, fun any => ?_⟩
  rcases List.eq_nil_or_concat' later with rfl | ⟨middle, final, rfl⟩
  · rw [settled] at any
    cases any
  -- all buffers but the final one are outgrown
  have lens : moved = first.length :: middle.map List.length := by
    rw [settled, ← List.cons_append, List.map_append]
    exact List.dropLast_concat
  have calls : journal.calls = _ := grew.calls
  rw [List.map_append, List.map_singleton] at calls
  have ample {request granted : Nat} (call : .rent request (some granted) ∈ journal.calls) :
      request ≤ granted := grew.served.le_granted call
  have positive : max settings.suggestedCapacity 1 ≤ first.length :=
    ample (by rw [calls]; exact List.mem_cons_self)
  have shorter (length : Nat) (member : length ∈ moved) : length < items.length := by
    rw [settled, ← List.map_dropLast] at member
    obtain ⟨lent, early, rfl⟩ := List.mem_map.mp member
    exact short lent early
  rw [lens] at shorter ⊢
  obtain ⟨sum, last, steps⟩ := growthCalls_cost
    (fun request granted call => ample (calls ▸ List.mem_cons_of_mem _ call))
    (show 0 < first.length by omega) shorter few
  refine ⟨(middle.map List.length).getLastD first.length,
    min (2 * (middle.map List.length).getLastD first.length) (Element.maxLen α), ?_, ?_, sum,
    by omega, steps, by omega⟩
  · rw [List.getLast?_cons, List.getLastD_eq_getLast?]
  · simp only [Journal.requests, calls, List.filterMap_cons, Call.request?, List.getLast?_cons,
      getLast?_requests_growthCalls, Option.getD_some]

/-- Three buffers for five items; the pool lends one slot more than asked at first. -/
theorem growing_moves_few_five :
    let built := ((⟨.auto, 1, ()⟩ : Settings Unit).build (fun _ => PlannedPool.asPool UInt8)
      (.collect ([1, 2, 3, 4, 5].map .item))).run (.start ⟨[1], 4096, 7, [], [], []⟩)
    built.journal.lent.map List.length = [2, 4, 8] ∧
      built.journal.handed.map List.length = [2, 4] ∧ built.journal.requests = [1, 4, 8] ∧
      ∃ last request, [2, 4].getLast? = some last ∧
        built.journal.requests.getLast? = some request ∧
        6 ≤ 2 * last - 2 ∧ 2 * last - 2 < 10 ∧ request ≤ 8 := by
  intro built
  have lengths : built.journal.lent.map List.length = [2, 4, 8] := by decide
  have moved : built.journal.handed.map List.length = [2, 4] := by decide
  obtain ⟨first, later, lent, _, _, bounds⟩ :=
    growing_moves_few (fun _ => PlannedPool.asPool UInt8) ⟨.auto, 1, ()⟩ [1, 2, 3, 4, 5]
      (.start ⟨[1], 4096, 7, [], [], []⟩) (.inl rfl) (by decide) rfl
  have two : first.length = 2 := by
    have shape := lengths
    rw [show built.journal.lent = first :: later from lent, List.map_cons] at shape
    exact (List.cons.inj shape).1
  obtain ⟨last, request, final, asked, sum, less, _, tight⟩ := bounds (by decide)
  rw [two] at sum less
  rw [show _ = [2, 4] from moved] at final
  exact ⟨lengths, moved, by decide, last, request, final, asked, sum, less, tight⟩

end Settings

end BufferRental
