import BufferRental.Proofs.Preservation
import Mathlib.Data.List.Induction

/-! One decision on clearing for all that a builder brings about. Of each setting the last value
counts, and the clear mode among them is settled once for the elements; that decision goes along
with every buffer that is handed back, during the population and at the end of the buffer built. -/
namespace BufferRental

namespace Setting

def mode? : Setting ι → Option ClearMode
  | clearMode mode => some mode
  | _ => none

def capacity? : Setting ι → Option Nat
  | suggestedCapacity capacity => some capacity
  | _ => none

def handle? : Setting ι → Option ι
  | pool handle => some handle
  | _ => none

def last (read : Setting ι → Option β) (changes : List (Setting ι)) : Option β :=
  (changes.filterMap read).getLast?

/-- Each setting that was made, once and with its last value. -/
def latest (changes : List (Setting ι)) : List (Setting ι) :=
  (last mode? changes).toList.map clearMode ++
    (last capacity? changes).toList.map suggestedCapacity ++
    (last handle? changes).toList.map pool

theorem last_append (read : Setting ι → Option β) (changes : List (Setting ι))
    (change : Setting ι) :
    last read (changes ++ [change]) = (read change).or (last read changes) := by
  cases found : read change <;> simp [last, List.filterMap_append, found]

end Setting

open Setting

namespace Settings

/-- The last value of each setting counts, and the standard one if there is none. -/
theorem ofList_eq_last (handle : ι) (changes : List (Setting ι)) :
    ofList handle changes = ⟨(last mode? changes).getD .auto,
      (last capacity? changes).getD standardCapacity, (last handle? changes).getD handle⟩ := by
  induction changes using List.reverseRecOn with
  | nil => rfl
  | append_singleton changes change ih =>
    rw [ofList, List.foldl_append, List.foldl_cons, List.foldl_nil, ← ofList, ih]
    simp only [last_append]
    cases change <;> rfl

example : ofList 1 [.clearMode .never, .pool 2, .suggestedCapacity 9, .clearMode .always] =
    ⟨.always, 9, 2⟩ := rfl

theorem ofList_latest (handle : ι) (changes : List (Setting ι)) :
    ofList handle (latest changes) = ofList handle changes := by
  rw [ofList_eq_last handle changes, latest]
  cases last mode? changes <;> cases last capacity? changes <;> cases last handle? changes <;> rfl

end Settings

def Event.ReturnsWith (clear : Bool) : Event α → Prop
  | .returned _ flag _ => flag = clear
  | _ => True

/-- Whatever was handed back went back with this decision. -/
def Journal.ReturnsWith (clear : Bool) (journal : Journal α) : Prop :=
  ∀ event ∈ journal, event.ReturnsWith clear

open Act

theorem Pool.upholds_returnsWith (pool : Pool σ α) (clear : Bool) :
    pool.Upholds clear fun _ journal => journal.ReturnsWith clear := by
  apply UpholdsFor.upholds
  apply upholdsFor_seen
  · exact fun _ _ _ => trivial
  · exact fun _ _ => rfl
  · intro event still
    cases event with
    | rented | returned => cases still
    | noted | pulled | cloned | measured | offered => trivial

/-- The end of a buffer that was built under a decision: whoever brings it about and whenever, the
slots go back with that decision, which is also the one that the buffer reports. -/
structure Buffer.EndsWith (pools : ι → Pool σ α) (clear : Bool) (buffer : Buffer ι α) : Prop where
  mode : buffer.clearMode = if clear then .always else .never
  hands : ∀ s, ((buffer.giveUp pools).run s).journal.OnlyHands buffer.slots.toList
  flag : ∀ s, ((buffer.giveUp pools).run s).journal.ReturnsWith clear
  release : buffer.release pools = buffer.giveUp pools

theorem Buffer.endsWith (pools : ι → Pool σ α) (buffer : Buffer ι α) :
    buffer.EndsWith pools buffer.clear := by
  constructor
  · rfl
  · exact (buffer.giveUp_onlyHands pools).onlyHands
  · exact (Buffer.giveUp_keeps ((pools buffer.handle).upholds_returnsWith buffer.clear)).seen
  · exact buffer.release_eq_giveUp pools

/-- One decision on clearing goes through a whole life: the last clear mode, settled for the
elements, is what every return of the population carries, however it ends, and every end of the
buffer it builds. The population is the one of a builder on which only the last value of each
setting was set. -/
theorem Settings.one_clear_decision [Element α] (pools : ι → Pool σ α) (shared : ι)
    (changes : List (Setting ι)) (method : Method α) (s : σ) :
    let settings := ofList shared changes
    let clear := ((last mode? changes).getD .auto).decision (Element.owns α)
    let outcome := (settings.build pools method).run s
    settings = ⟨(last mode? changes).getD .auto, (last capacity? changes).getD 4,
        (last handle? changes).getD shared⟩ ∧
      settings.build pools method = (ofList shared (latest changes)).build pools method ∧
      outcome.journal.ReturnsWith clear ∧
      outcome.exit.Satisfies
        (fun buffer => outcome.journal.Owes buffer.held ∧ ∀ operations : List (ViewOp α),
          (inTurn Buffer.perform buffer operations).2.EndsWith pools clear)
        (fun _ => outcome.journal.Owes []) := by
  intro settings clear outcome
  have values : settings = ⟨_, _, _⟩ := ofList_eq_last shared changes
  have same : settings.clear α = clear := by
    rw [Settings.clear, values]
  have keeps := build_keeps ((pools settings.handle).upholds_returnsWith (settings.clear α)) method
  have built : Ensures (fun _ j => j = []) (settings.build pools method)
      (fun buffer _ j => j.Owes buffer.held ∧ ∀ operations : List (ViewOp α),
        (inTurn Buffer.perform buffer operations).2.EndsWith pools clear)
      (fun _ _ j => j.Owes []) := by
    apply ((build_builds pools settings method).and (build_belongs pools settings method)).imp
    · rintro s past rfl
      exact ⟨rfl, trivial⟩
    · rintro buffer s journal ⟨⟨_, _, owes⟩, _, decision⟩
      refine ⟨owes, fun operations => ?_⟩
      have kept := (Buffer.inTurn_agrees buffer operations).2.2
      rw [← same, ← decision, ← kept.clear]
      exact Buffer.endsWith pools _
    · exact fun _ _ _ => And.left
  refine ⟨values, ?_, same ▸ keeps.seen s, built s [] rfl⟩
  rw [ofList_latest]

end BufferRental
