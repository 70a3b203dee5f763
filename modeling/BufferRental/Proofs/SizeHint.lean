import BufferRental.Element.Kind
import BufferRental.Proofs.Consumption
import BufferRental.Proofs.GrowthCost
import BufferRental.Proofs.KindsApart
import BufferRental.Proofs.Reuse

/-! An iterator may promise any number of items. The promise decides how long the first buffer is, and
so which lengths are asked for later; a pool that lends by a rule serves them all, so that nothing else
depends on it. The shared pool lends by such a rule, whatever it holds. -/
namespace BufferRental

open Act

theorem Pool.Steady.within {pool : Pool σ α} {grant : Nat → Nat} {good : σ → Prop} {part : τ → σ}
    {replace : σ → τ → τ} (steady : pool.Steady grant good)
    (replaced : ∀ next s, part (replace next s) = next) :
    (pool.within part replace).Steady grant fun s => good (part s) := by
  constructor
  · exact steady.enough
  · intro minLen s fine
    obtain ⟨slots, next, notes, reply, length, kept⟩ := steady.rent minLen (part s) fine
    refine ⟨slots, replace next s, notes, ?_, length, (replaced next s).symm ▸ kept⟩
    simp only [Pool.within, reply]
  · intro slots clear s fine
    obtain ⟨answer, next, notes, reply, kept⟩ := steady.takeBack slots clear (part s) fine
    refine ⟨answer, replace next s, notes, ?_, (replaced next s).symm ▸ kept⟩
    simp only [Pool.within, reply]

namespace Registry

variable {κ : Type} {carrier : κ → Type} [DecidableEq κ] [∀ kind, Element (carrier kind)]

def Standard (kind : κ) (registry : Registry κ carrier) : Prop :=
  (registry.pool kind).Sound ∧ (registry.pool kind).limits = .standard

theorem asPool_steady (kind : κ) :
    (asPool kind : Pool (Registry κ carrier) _).Steady BucketLimits.standard.grantLen
      (Standard kind) :=
  (BucketPool.asPool_steady .standard).within fun _ _ => pool_update_same _ _ _

theorem serveAll_standard (errands : List (Errand carrier)) (kind : κ) :
    (serveAll errands (empty : Registry κ carrier)).1.Standard kind := by
  obtain ⟨_, pools⟩ := serveAll_apart errands (empty : Registry κ carrier) kind
  by_cases none : requests kind errands = []
  · rw [if_pos none] at pools
    rw [Standard, Registry.pool, pools]
    exact ⟨BucketPool.empty_sound _, rfl⟩
  · rw [if_neg none] at pools
    rw [Standard, pool_of_pools pools, pool_empty]
    exact (BucketPool.serveAll_sound .standard (requests kind errands)).symm

end Registry

def Journal.GrantedBy (grant : Nat → Nat) (journal : Journal α) : Prop :=
  ∀ request granted, .rent request granted ∈ journal.calls → granted = some (grant request)

theorem Journal.GrantedBy.append {grant : Nat → Nat} {journal new : Journal α}
    (before : journal.GrantedBy grant) (after : new.GrantedBy grant) :
    (journal ++ new).GrantedBy grant := by
  intro request granted call
  rw [calls_append] at call
  rcases List.mem_append.mp call with old | young
  · exact before request granted old
  · exact after request granted young

theorem Journal.grantedBy_of_calls {grant : Nat → Nat} {journal : Journal α}
    (none : ∀ request granted, .rent request granted ∉ journal.calls) : journal.GrantedBy grant :=
  fun request granted call => absurd call (none request granted)

namespace Pool.Steady

variable {pool : Pool σ α} {grant : Nat → Nat} {good : σ → Prop}

theorem upholds (steady : pool.Steady grant good) (clear : Bool) :
    pool.Upholds clear fun s j => good s ∧ j.Served ∧ j.GrantedBy grant := by
  constructor
  · intro minLen
    apply Pool.ensures_rentChecked_of_lends
    intro s past ⟨fine, served, granted⟩
    obtain ⟨slots, next, notes, reply, length, kept⟩ := steady.rent minLen s fine
    have enough : minLen ≤ slots.length := length ▸ steady.enough minLen
    refine ⟨slots, next, notes, reply, enough, kept, ?_, granted.append ?_⟩
    · simp [served, Event.served, enough]
    · intro request lent call
      obtain ⟨rfl, rfl⟩ : request = minLen ∧ lent = some slots.length := by
        simpa [Event.call?] using call
      rw [length]
  · intro slots
    apply Pool.ensures_giveBack_of_answers
    intro s past ⟨fine, served, granted⟩
    obtain ⟨answer, next, notes, reply, kept⟩ := steady.takeBack slots clear s fine
    refine ⟨answer, next, notes, reply, fun _ => ⟨kept, ?_, ?_⟩, fun error _ => ⟨kept, ?_, ?_⟩⟩
    · simp [served, Event.served]
    · exact granted.append (Journal.grantedBy_of_calls (by simp [Event.call?]))
    · simp [served, Event.served]
    · exact granted.append (Journal.grantedBy_of_calls (by simp [Event.call?]))
  · intro s past event aside ⟨fine, served, granted⟩
    refine ⟨fine, ?_, granted.append (Journal.grantedBy_of_calls ?_)⟩ <;>
      cases event <;> simp_all [Event.isAside, Event.served, Event.call?]

end Pool.Steady

/-- What comes of collecting items from a pool that lends by this rule, starting with this request. -/
structure Buffer.Collected [Element α] (grant : Nat → Nat) (settings : Settings ι) (items : List α)
    (buffer : Buffer ι α) (journal : Journal α) : Prop where
  elements : buffer.elements = items
  count : buffer.count = items.length
  handle : buffer.handle = settings.handle
  clear : buffer.clear = settings.clear α
  pulls : journal.pulls = items.length
  granted : journal.GrantedBy grant
  calls : ∃ first later, journal.calls = .rent (max settings.suggestedCapacity 1) (some first) ::
      growthCalls (settings.clear α) (Element.maxLen α) first later ∧
    (∀ length ∈ (first :: later).dropLast, length < items.length) ∧
    items.length ≤ later.getLastD first

/-- A pool that lends by a rule serves a population of any items that a buffer can have. -/
theorem Pool.Steady.collects [Element α] {pools : ι → Pool σ α} (settings : Settings ι)
    {grant : Nat → Nat} {good : σ → Prop} (steady : (pools settings.handle).Steady grant good)
    (capacity : settings.suggestedCapacity ≤ Element.maxLen α) {items : List α}
    (few : items.length ≤ Element.maxLen α) {method : Method α}
    (collects : method = .collect (items.map .item)) {s : σ} (fine : good s) :
    ∃ buffer state journal, (settings.build pools method).run s = ⟨.done buffer, state, journal⟩ ∧
      buffer.Collected grant settings items journal := by
  have iterates : method.iterates = true := by rw [collects]; rfl
  have grown := Settings.build_grown pools settings items (.inl collects) s [] rfl
  have belongs := Settings.build_belongs pools settings method s [] trivial
  have takes : settings.Takes pools method _ _ :=
    (Settings.build_takes pools settings iterates).run s [] rfl
  have keeps := Settings.build_keeps (steady.upholds (settings.clear α)) method
  obtain ⟨_, served, granted⟩ := keeps.ended s [] ⟨fine, Journal.served_nil, nofun⟩
  rcases ran : (settings.build pools method).run s with ⟨exit, state, journal⟩
  simp only [ran, List.nil_append] at grown belongs takes served granted
  cases exit with
  | failed | panicked | aborted => exact absurd served (grown capacity few)
  | done buffer =>
    obtain ⟨first, later, grew, short, room, count, slots⟩ := grown
    refine ⟨buffer, state, journal, rfl, ?_, count, belongs.1, belongs.2, ?_, granted,
      first.length, later.map List.length, grew.calls, ?_, ?_⟩
    · rw [Buffer.elements, slots, count, Option.getD_some]
      exact List.take_left' rfl
    · have pulls := (takes.of_done iterates rfl).1
      simpa [collects, Method.ready] using pulls
    · rw [← List.map_cons, ← List.map_dropLast]
      intro length member
      obtain ⟨lent, early, rfl⟩ := List.mem_map.mp member
      exact short lent early
    · rw [List.getLastD_map]
      exact room

theorem Act.run_expect_done {act : Act σ α β} {s state : σ} {value : β} {journal : Journal α}
    (ran : act.run s = ⟨.done value, state, journal⟩) :
    act.expect.run s = ⟨.done value, state, journal⟩ := by
  simp [expect, run_bind, bind, ran]

/-- An element that takes less than a quarter of memory has buffers as long as they are at first. -/
theorem Element.standardCapacity_le_maxLen (α : Type) [Element α] (small : size α < 2 ^ 61) :
    standardCapacity ≤ maxLen α := by
  unfold maxLen maxBufferLen standardCapacity
  split
  · decide
  · rename_i sized
    rw [Nat.le_div_iff_mul_le (Nat.pos_of_ne_zero sized)]
    omega

namespace Buffer

/-- The first request of one who collects an iterator with this promise. -/
def hintedLen (α : Type) [Element α] (hint : Nat) : Nat :=
  if hint = 0 then standardCapacity else min hint (Element.maxLen α)

theorem fromIterator_eq [Element α] (pools : ι → Pool σ α) (handle : ι) (hint : Nat)
    (items : List (Yield α)) : fromIterator pools handle hint items =
      (Settings.build pools ⟨.standard, hintedLen α hint, handle⟩ (.collect items)).expect := by
  unfold fromIterator hintedLen
  rcases Nat.eq_zero_or_pos hint with rfl | promised
  · rfl
  · simp only [if_pos promised, if_neg (Nat.ne_of_gt promised)]
    rfl

theorem hintedLen_within (α : Type) [Element α] (small : Element.size α < 2 ^ 61) (hint : Nat) :
    1 ≤ hintedLen α hint ∧ hintedLen α hint ≤ Element.maxLen α := by
  have four := Element.standardCapacity_le_maxLen α small
  unfold standardCapacity at four
  unfold hintedLen standardCapacity
  split <;> omega

variable {κ : Type} {carrier : κ → Type} [DecidableEq κ] [∀ kind, Element (carrier kind)]

theorem fromIterator_collected {kind : κ} (small : Element.size (carrier kind) < 2 ^ 61)
    {items : List (carrier kind)} (few : items.length ≤ Element.maxLen (carrier kind)) (hint : Nat)
    (errands : List (Errand carrier)) :
    let pools := fun handle : SharedHandle => handle.asPool kind
    ∃ buffer state journal, (fromIterator pools ⟨⟩ hint (items.map .item)).run
        (Registry.serveAll errands .empty).1 = ⟨.done buffer, state, journal⟩ ∧
      buffer.Collected BucketLimits.standard.grantLen ⟨.standard, hintedLen (carrier kind) hint, ⟨⟩⟩
        items journal := by
  intro pools
  obtain ⟨_, within⟩ := hintedLen_within (carrier kind) small hint
  have steady : (pools ⟨⟩).Steady _ _ := Registry.asPool_steady kind
  let settings : Settings SharedHandle := ⟨.standard, hintedLen (carrier kind) hint, ⟨⟩⟩
  obtain ⟨buffer, state, journal, ran, collected⟩ := Pool.Steady.collects settings steady within few
    rfl (Registry.serveAll_standard errands kind)
  rw [fromIterator_eq]
  exact ⟨buffer, state, journal, run_expect_done ran, collected⟩

/-- Whatever an iterator promises, and whatever the shared pool went through before, collecting the
items succeeds, takes all of them and shows them in order. The promise decides the first request, and
so the lengths of all that are lent: it is never more than a buffer can have, and no promise counts as
one of four. Two promises give equal buffers, in any two states of the pool. An element takes less than
a quarter of memory. -/
theorem promised_items_only_size (kind : κ) (small : Element.size (carrier kind) < 2 ^ 61)
    (items : List (carrier kind)) (few : items.length ≤ Element.maxLen (carrier kind)) :
    let limit := Element.maxLen (carrier kind)
    let clear := (Settings.standard (⟨⟩ : SharedHandle)).clear (carrier kind)
    let collected := fun (hint : Nat) (errands : List (Errand carrier)) =>
      (fromIterator (fun handle : SharedHandle => handle.asPool kind) ⟨⟩ hint (items.map .item)).run
        (Registry.serveAll errands .empty).1
    (∀ hint errands, ∃ buffer, (collected hint errands).exit = .done buffer ∧
      buffer.count = items.length ∧ buffer.elements = items ∧ buffer.clear = clear ∧
      (collected hint errands).journal.pulls = items.length ∧
      (collected hint errands).journal.requests.head? = some (if hint = 0 then 4 else min hint limit) ∧
      (∀ request granted, .rent request granted ∈ (collected hint errands).journal.calls →
        granted = some (BucketLimits.standard.grantLen request)) ∧
      ∃ request first later, (collected hint errands).journal.calls =
          .rent request (some first) :: growthCalls clear limit first later ∧
        (∀ length ∈ (first :: later).dropLast, length < items.length) ∧
        items.length ≤ later.getLastD first) ∧
    ∀ hint errands hint' errands' buffer twin, (collected hint errands).exit = .done buffer →
      (collected hint' errands').exit = .done twin →
      buffer.same twin = Element.sameAll items items ∧ buffer.elements = twin.elements ∧
        buffer.count = twin.count ∧ buffer.clear = twin.clear ∧
        (collected hint errands).journal.pulls = (collected hint' errands').journal.pulls := by
  intro limit clear collected
  constructor
  · intro hint errands
    obtain ⟨buffer, state, journal, ran, result⟩ := fromIterator_collected small few hint errands
    obtain ⟨first, later, calls, short, room⟩ := result.calls
    have ran : collected hint errands = _ := ran
    have request : max (hintedLen (carrier kind) hint) 1 = if hint = 0 then 4 else min hint limit :=
      Nat.max_eq_left (hintedLen_within (carrier kind) small hint).1
    rw [ran]
    refine ⟨buffer, rfl, result.count, result.elements, result.clear, result.pulls, ?_,
      result.granted, _, first, later, calls, short, room⟩
    rw [Journal.requests, calls]
    exact congrArg some request
  · intro hint errands hint' errands' buffer twin done done'
    obtain ⟨_, state, journal, ran, result⟩ := fromIterator_collected small few hint errands
    obtain ⟨_, state', journal', ran', result'⟩ := fromIterator_collected small few hint' errands'
    have ran : collected hint errands = _ := ran
    have ran' : collected hint' errands' = _ := ran'
    rw [ran] at done ⊢
    rw [ran'] at done' ⊢
    cases done
    cases done'
    refine ⟨?_, ?_, ?_, ?_, ?_⟩
    · rw [Buffer.same, result.elements, result'.elements]
    · rw [result.elements, result'.elements]
    · rw [result.count, result'.count]
    · rw [result.clear, result'.clear]
      rfl
    · exact result.pulls.trans result'.pulls.symm

/-- Twenty items, from an iterator that promises none and from one that promises more than there can
be. A buffer with other contents lies in the pool at first. -/
theorem promised_items_only_size_twenty :
    let items : List UInt8 := List.replicate 20 9
    let errands : List (Errand fun _ : Bool => UInt8) := [⟨⟨⟩, true, .hand (List.replicate 16 7) false⟩]
    let collected := fun hint =>
      (fromIterator (fun handle : SharedHandle => handle.asPool true) ⟨⟩ hint (items.map .item)).run
        (Registry.serveAll errands .empty).1
    Element.size UInt8 < 2 ^ 61 ∧ items.length ≤ Element.maxLen UInt8 ∧
      (collected 0).journal.calls = [.rent 4 (some 16), .rent 32 (some 32), .hand 16 false] ∧
      (collected maxWord).journal.requests.head? = some (2 ^ 63 - 1) ∧
      ∃ buffer twin, (collected 0).exit = .done buffer ∧ (collected maxWord).exit = .done twin ∧
        buffer.elements = items ∧ buffer.same twin = true := by
  intro items errands collected
  have small : Element.size UInt8 < 2 ^ 61 := by decide
  have few : items.length ≤ Element.maxLen UInt8 := by decide
  obtain ⟨collects, equal⟩ :=
    @promised_items_only_size Bool (fun _ => UInt8) _ _ true small items few
  obtain ⟨buffer, done, _, shown, _⟩ := collects 0 errands
  obtain ⟨twin, done', _, _, _, _, request, _⟩ := collects maxWord errands
  refine ⟨small, few, by decide, request, buffer, twin, done, done', shown, ?_⟩
  exact (equal 0 errands maxWord errands buffer twin done done').1

end Buffer

end BufferRental
