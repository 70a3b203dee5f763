import BufferRental.Element.Kind
import BufferRental.Pool.Registry
import BufferRental.Proofs.Shelves

/-! Many kinds of elements behind one handle. However the requests for buffers of different kinds
follow each other, those of one kind meet a bucket pool of their own, which starts empty with the
standard limits. -/
namespace BufferRental

theorem Pool.serve_within (pool : Pool σ α) (part : τ → σ) (replace : σ → τ → τ)
    (request : Request α) (s : τ) :
    ((pool.within part replace).serve request).run s =
      ⟨((pool.serve request).run (part s)).exit,
        replace ((pool.serve request).run (part s)).state s,
        ((pool.serve request).run (part s)).journal⟩ := by
  cases request with
  | rent minLen =>
    rcases reply : pool.rent minLen (part s) with ⟨result, next, notes⟩
    cases result <;> simp [serve, rentAny, within, reply, Act.run_bind, Act.bind, -bind_pure_comp]
  | hand slots clear =>
    rcases reply : pool.takeBack slots clear (part s) with ⟨result, next, notes⟩
    rcases result with panic | (_ | error) <;>
      simp [serve, handBack, within, reply, Act.run_bind, Act.bind, -bind_pure_comp]

def ofKind [DecidableEq κ] {family : κ → Type} (kind : κ) (entries : List (Sigma family)) :
    List (family kind) :=
  entries.filterMap fun entry => if same : entry.1 = kind then some (same ▸ entry.2) else none

section

variable [DecidableEq κ] {family : κ → Type} {kind other : κ}

@[simp] theorem ofKind_nil : ofKind kind ([] : List (Sigma family)) = [] := rfl

@[simp] theorem ofKind_cons_same (entry : family kind) (rest : List (Sigma family)) :
    ofKind kind (⟨kind, entry⟩ :: rest) = entry :: ofKind kind rest := by
  simp [ofKind]

theorem ofKind_cons_other {entry : Sigma family} (apart : entry.1 ≠ kind)
    (rest : List (Sigma family)) : ofKind kind (entry :: rest) = ofKind kind rest := by
  simp [ofKind, apart]

@[simp] theorem ofKind_append (first second : List (Sigma family)) :
    ofKind kind (first ++ second) = ofKind kind first ++ ofKind kind second :=
  List.filterMap_append

@[simp] theorem ofKind_map_same (entries : List (family kind)) :
    ofKind kind (entries.map (Sigma.mk kind)) = entries := by
  induction entries with
  | nil => rfl
  | cons entry rest ih => rw [List.map_cons, ofKind_cons_same, ih]

theorem ofKind_map_other (apart : other ≠ kind) (entries : List (family other)) :
    ofKind kind (entries.map (Sigma.mk other)) = [] := by
  induction entries with
  | nil => rfl
  | cons entry rest ih =>
    rw [List.map_cons, ofKind_cons_other apart]
    exact ih

end

structure Errand {κ : Type} (carrier : κ → Type) where
  handle : SharedHandle
  kind : κ
  request : Request (carrier kind)

namespace Registry

variable {κ : Type} {carrier : κ → Type} [DecidableEq κ] [∀ kind, Element (carrier kind)]

def serve (registry : Registry κ carrier) (errand : Errand carrier) :
    Outcome (Registry κ carrier) (carrier errand.kind) Unit :=
  ((errand.handle.asPool errand.kind).serve errand.request).run registry

/-- Serves one errand after the other; tells what happened at each, with its kind. -/
def serveAll : List (Errand carrier) → Registry κ carrier →
    Registry κ carrier × List (Σ kind, Event (carrier kind))
  | [], registry => (registry, [])
  | errand :: rest, registry =>
    let outcome := registry.serve errand
    let (last, journal) := serveAll rest outcome.state
    (last, outcome.journal.map (Sigma.mk errand.kind) ++ journal)

def requests (kind : κ) (errands : List (Errand carrier)) : List (Request (carrier kind)) :=
  ofKind kind (errands.map fun errand =>
    (⟨errand.kind, errand.request⟩ : Σ kind, Request (carrier kind)))

/-- What the pool of its kind alone does at an errand. -/
def alone (registry : Registry κ carrier) (errand : Errand carrier) :
    Outcome (BucketPool (carrier errand.kind)) (carrier errand.kind) Unit :=
  ((BucketPool.asPool (carrier errand.kind)).serve errand.request).run (registry.pool errand.kind)

theorem serve_eq (registry : Registry κ carrier) (errand : Errand carrier) :
    registry.serve errand = ⟨(registry.alone errand).exit,
      registry.update errand.kind (registry.alone errand).state, (registry.alone errand).journal⟩ := by
  rw [serve, SharedHandle.asPool, asPool, Pool.serve_within]
  rfl

/-- An errand does to the pool of its kind what it would do alone, and the pool is there from then
on. -/
theorem serve_same (registry : Registry κ carrier) (errand : Errand carrier) :
    (registry.serve errand).journal = (registry.alone errand).journal ∧
      (registry.serve errand).state.pools errand.kind = some (registry.alone errand).state := by
  rw [serve_eq]
  exact ⟨rfl, by simp [update]⟩

/-- It leaves the pools of all other kinds as they are, also if they are not there yet. -/
theorem serve_other (registry : Registry κ carrier) (errand : Errand carrier) {kind : κ}
    (apart : errand.kind ≠ kind) :
    (registry.serve errand).state.pools kind = registry.pools kind := by
  rw [serve_eq]
  simp [update, apart]

omit [DecidableEq κ] [∀ kind, Element (carrier kind)] in
theorem pool_of_pools {registry : Registry κ carrier} {kind : κ} {pool : BucketPool (carrier kind)}
    (there : registry.pools kind = some pool) : registry.pool kind = pool := by
  rw [Registry.pool, there, Option.getD_some]

/-- Each errand finds the pool of its kind as the errands of that kind before it left it. The
registry is general: later errands start from one that earlier errands have changed. -/
theorem serveAll_apart (errands : List (Errand carrier)) (registry : Registry κ carrier)
    (kind : κ) :
    let run := serveAll errands registry
    let apart := (BucketPool.asPool (carrier kind)).serveAll (requests kind errands)
      (registry.pool kind)
    ofKind kind run.2 = apart.2 ∧ run.1.pools kind =
      if requests kind errands = [] then registry.pools kind else some apart.1 := by
  induction errands generalizing registry with
  | nil => exact ⟨rfl, rfl⟩
  | cons errand rest ih =>
    obtain ⟨journal, pools⟩ := ih (registry.serve errand).state
    by_cases same : errand.kind = kind
    · subst same
      obtain ⟨told, there⟩ := registry.serve_same errand
      have first : requests errand.kind (errand :: rest) =
          errand.request :: requests errand.kind rest := ofKind_cons_same _ _
      rw [pool_of_pools there] at journal pools
      rw [first]
      constructor
      · rw [serveAll, ofKind_append, ofKind_map_same, told]
        exact congrArg ((registry.alone errand).journal ++ ·) journal
      · rw [if_neg (List.cons_ne_nil _ _)]
        apply pools.trans
        split
        · rename_i none
          rw [there, none]
          rfl
        · rfl
    · have untouched := registry.serve_other errand same
      have skipped : requests kind (errand :: rest) = requests kind rest := ofKind_cons_other same _
      rw [pool, untouched] at journal pools
      rw [skipped]
      constructor
      · rw [serveAll, ofKind_append, ofKind_map_other same, List.nil_append]
        exact journal
      · exact pools

/-- For each kind of elements a registry that starts empty is a bucket pool with the standard
limits: it answered the requests for this kind as such a pool alone, holds the same idle buffers
after them, and will answer the next one alike. Requests for other kinds leave all this as it is. -/
theorem kinds_apart (errands : List (Errand carrier)) (kind : κ) :
    let run := serveAll errands (empty : Registry κ carrier)
    let apart := (BucketPool.asPool (carrier kind)).serveAll (requests kind errands)
      (BucketPool.empty .standard)
    ofKind kind run.2 = apart.2 ∧ run.1.pool kind = apart.1 ∧
      run.1.pools kind = (if requests kind errands = [] then none else some apart.1) ∧
      (∀ handle request,
        let next := run.1.serve ⟨handle, kind, request⟩
        let twin := ((BucketPool.asPool (carrier kind)).serve request).run apart.1
        next.exit = twin.exit ∧ next.journal = twin.journal ∧ next.state.pool kind = twin.state) ∧
      ∀ errand : Errand carrier, errand.kind ≠ kind →
        (run.1.serve errand).state.pools kind = run.1.pools kind := by
  intro run apart
  obtain ⟨journal, pools⟩ := serveAll_apart errands empty kind
  have pool : run.1.pool kind = apart.1 := by
    by_cases none : requests kind errands = []
    · rw [if_pos none] at pools
      rw [Registry.pool, pools]
      simp only [apart, none]
      rfl
    · rw [if_neg none] at pools
      exact pool_of_pools pools
  refine ⟨journal, pool, pools, fun handle request => ?_, fun errand => run.1.serve_other errand⟩
  have next := run.1.serve_eq ⟨handle, kind, request⟩
  rw [alone, pool] at next
  rw [next]
  exact ⟨rfl, rfl, pool_update_same _ _ _⟩

/-- A buffer that comes back for one kind is not lent for another one. -/
example :
    let slots : List UInt8 := List.replicate 16 7
    let errands : List (Errand fun _ : Bool => UInt8) :=
      [⟨⟨⟩, true, .hand slots false⟩, ⟨⟨⟩, false, .rent 3⟩, ⟨⟨⟩, true, .rent 9⟩]
    let journal := (serveAll errands empty).2
    ofKind true journal = [.returned slots false .accepted, .rented 9 (some slots)] ∧
      ofKind false journal =
        [.rented 3 (some (List.replicate 16 0)), .noted (.bucketEmpty 16)] := ⟨rfl, rfl⟩

end Registry

end BufferRental
