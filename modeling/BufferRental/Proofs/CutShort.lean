import BufferRental.Element.Kind
import BufferRental.Pool.Planned
import BufferRental.Proofs.Filling
import BufferRental.Proofs.Traffic

/-! Sources that stop in the middle. When an item fails, the buffer that is held at that moment
goes back as it is, so a pool sees the same calls as if the source had ended there and the buffer
had been given up at once. Only the turn that failed tells the two runs apart. -/
namespace BufferRental

namespace Journal

/-- The calls on pools and the entries of the log, in the order in which they happen. -/
def outward (journal : Journal α) : Journal α :=
  journal.filter fun
    | .rented .. | .returned .. | .noted _ => true
    | _ => false

@[simp] theorem outward_append (first second : Journal α) :
    outward (first ++ second) = outward first ++ outward second := List.filter_append ..

@[simp] theorem outward_notes (notes : List Note) :
    outward (notes.map Event.noted : Journal α) = notes.map .noted := by
  simp [outward, List.filter_eq_self]

@[simp] theorem outward_pulled (rest : Journal α) : outward (.pulled :: rest) = outward rest := rfl

end Journal

structure Outcome.Alike (first : Outcome σ α β) (second : Outcome σ α γ) : Prop where
  state : first.state = second.state
  outward : first.journal.outward = second.journal.outward

namespace Act

theorem run_bind_eq_done {act : Act σ α β} {next : β → Act σ α γ} {s last : σ} {value : γ}
    {journal : Journal α} : (act >>= next).run s = ⟨.done value, last, journal⟩ ↔
      ∃ mid state first rest, act.run s = ⟨.done mid, state, first⟩ ∧
        (next mid).run state = ⟨.done value, last, rest⟩ ∧ journal = first ++ rest := by
  constructor
  · intro whole
    rcases ran : act.run s with ⟨exit, state, first⟩
    cases exit with
    | failed | panicked | aborted => simp [run_bind, bind, ran] at whole
    | done mid =>
      rw [run_bind_done next ran] at whole
      rcases later : (next mid).run state with ⟨exit, _, rest⟩
      rw [later] at whole
      cases whole
      exact ⟨mid, state, first, rest, rfl, later, rfl⟩
  · rintro ⟨mid, state, first, rest, ran, later, rfl⟩
    rw [run_bind_done next ran, later]

theorem run_bind_raised {act : Act σ α β} (next : β → Act σ α γ) {s last : σ} {stop : Exit Empty}
    {journal : Journal α} (ran : act.run s = ⟨stop.raised, last, journal⟩) :
    (act >>= next).run s = ⟨stop.raised, last, journal⟩ := by
  cases stop with
  | done never => cases never
  | failed | panicked | aborted => simp [run_bind, bind, ran, Exit.raised, Exit.map]

end Act

open Act

theorem Buffer.run_ofPopulated_eq_done {clear : Bool} {handle : ι} {populated : Populated α}
    {s last : σ} {buffer : Buffer ι α} {journal : Journal α}
    (built : (ofPopulated clear handle populated).run s = ⟨.done buffer, last, journal⟩) :
    buffer.slots = populated.slots ∧ buffer.handle = handle ∧ buffer.clear = clear ∧
      last = s ∧ journal = [] := by
  unfold ofPopulated at built
  split at built
  · cases built
    exact ⟨rfl, rfl, rfl, rfl, rfl⟩
  · cases built

namespace Pool

variable {pool : Pool σ α} {clear : Bool}

theorem run_settle_eq_done {slots : List α} {exit : Exit β} {s last : σ} {value : β}
    {journal : Journal α} (ended : (pool.settle clear slots exit).run s = ⟨.done value, last, journal⟩) :
    exit = .done value ∧ last = s ∧ journal = [] := by
  by_cases success : ∃ result, exit = .done result
  · obtain ⟨result, rfl⟩ := success
    cases ended
    exact ⟨rfl, rfl, rfl⟩
  · have never : Ensures (fun _ _ => True) (pool.settle clear slots exit) (fun _ _ _ => False)
        fun _ _ _ => True :=
      settle_stopped (fun _ _ => id) slots fun result same => success ⟨result, same⟩
    have after := never s [] trivial
    rw [ended] at after
    exact after.elim

/-- A failure is settled by a return; it is reported if the pool does not panic. -/
theorem run_settle_stopped {slots : List α} {stop : Exit Empty} (ended : stop ≠ .aborted)
    {s last : σ} {journal : Journal α}
    (returned : (pool.giveBack slots clear).run s = ⟨.done (), last, journal⟩) :
    (pool.settle clear slots (stop.raised : Exit β)).run s = ⟨stop.raised, last, journal⟩ := by
  cases stop with
  | done never => cases never
  | aborted => exact absurd rfl ended
  | failed error =>
    show (pool.giveBack slots clear >>= fun _ => fail error).run s = _
    rw [run_bind_done _ returned]
    simp [fail, Exit.raised, Exit.map]
  | panicked panic =>
    show (whileUnwinding panic (pool.giveBack slots clear)).run s = _
    simp [whileUnwinding, run_bind, Act.bind, returned, raise, Exit.raised, Exit.map]

def finish (pool : Pool σ α) (clear : Bool) (taken : Filling α × Exit Unit) :
    Act σ α (Populated α) :=
  pool.settle clear taken.1.slots (taken.2.map fun _ => taken.1.populated)

variable [Element α]

/-- The first buffer of a population that grows, and what is taken into it and its successors. -/
def takeAll (pool : Pool σ α) (clear : Bool) (capacity : Nat)
    (items : List (Yield (Except String α))) : Act σ α (Filling α × Exit Unit) := do
  checkLen α "capacity" capacity
  let slots ← pool.rentChecked (max capacity 1)
  pool.appendItems clear (Element.maxLen α) items (.start slots)

def takeExact (pool : Pool σ α) (reported : Nat) (items : List (Yield α)) :
    Act σ α (Filling α × Exit Unit) := do
  checkLen α "count" reported
  let slots ← pool.rentChecked reported
  assignItems reported items (.start slots)

theorem tryCollect_eq_takeAll (capacity : Nat) (items : List (Yield (Except String α))) :
    pool.tryCollect clear capacity items =
      pool.takeAll clear capacity items >>= pool.finish clear := by
  simp only [tryCollect, takeAll, bind_assoc]
  rfl

theorem takeAll_append (pool : Pool σ α) (clear : Bool) (capacity : Nat)
    (first second : List (Yield (Except String α))) :
    pool.takeAll clear capacity (first ++ second) =
      pool.takeAll clear capacity first >>=
        andThen (pool.appendItems clear (Element.maxLen α) second) := by
  simp only [takeAll, appendItems_append, bind_assoc]

theorem collectExact_eq_takeExact {reported : Nat} (nonzero : reported ≠ 0) (items : List (Yield α)) :
    pool.collectExact clear reported items =
      pool.takeExact reported items >>= pool.finish clear := by
  simp only [collectExact, takeExact, if_neg nonzero, bind_assoc]
  rfl

theorem takeExact_append (pool : Pool σ α) (reported : Nat) (first second : List (Yield α)) :
    pool.takeExact reported (first ++ second) =
      pool.takeExact reported first >>= andThen (assignItems reported second) := by
  simp only [takeExact, assignItems_append, bind_assoc]

omit [Element α] in
theorem assignItems_room (room : Nat) (items : List (Yield α)) (filling : Filling α) :
    Ensures (fun (_ : σ) _ => True) (assignItems room items filling)
      (fun taken _ _ => taken.1.written ≤ filling.written + items.length ∧
        taken.1.slots.length = filling.slots.length)
      (fun _ _ _ => True) := by
  induction items generalizing filling with
  | nil => exact ensures_pure fun _ _ _ => ⟨Nat.le_refl _, rfl⟩
  | cons turn items ih =>
    have longer : filling.written ≤ filling.written + (turn :: items).length := Nat.le_add_right ..
    unfold assignItems
    by_cases reached : (room ≤ filling.written || filling.isFull) = true
    · rw [if_pos reached]
      exact ensures_pure fun _ _ _ => ⟨longer, rfl⟩
    · rw [if_neg reached]
      have pulled : Ensures (fun (_ : σ) _ => True) (record [.pulled])
          (fun _ _ (_ : Journal α) => True) (fun _ _ _ => True) := ensures_record fun _ _ => id
      refine ensures_bind pulled fun _ => ?_
      cases turn with
      | panic text => exact ensures_pure fun _ _ _ => ⟨longer, rfl⟩
      | item value =>
        refine (ih (filling.put value)).imp (fun _ _ => id) ?_ fun _ _ _ => id
        rintro taken _ _ ⟨written, length⟩
        rw [Filling.written_put] at written
        rw [Filling.length_put] at length
        refine ⟨?_, length⟩
        rw [List.length_cons]
        omega

theorem takeExact_room (pool : Pool σ α) (reported : Nat) (items : List (Yield α)) :
    Ensures (fun _ _ => True) (pool.takeExact reported items)
      (fun taken _ _ => taken.1.written ≤ items.length ∧ reported ≤ taken.1.slots.length)
      (fun _ _ _ => True) := by
  have checked : Ensures (fun (_ : σ) _ => True) (checkLen α "count" reported)
      (fun _ _ (_ : Journal α) => True) (fun _ _ _ => True) := ensures_kept (fun _ _ => id) _
  refine ensures_bind checked fun _ => ?_
  apply ensures_bind ((rentChecked_added (fun _ => True) reported).stops fun _ _ _ _ => trivial)
  intro slots
  refine ensures_given (fun _ _ start => start.1) fun enough => ?_
  refine (assignItems_room reported items (.start slots)).imp (fun _ _ _ => trivial) ?_
    fun _ _ _ => id
  rintro taken _ _ ⟨written, length⟩
  rw [Filling.slots_start] at length
  rw [Filling.written_start, Nat.zero_add] at written
  exact ⟨written, length ▸ enough⟩

end Pool

namespace Settings

variable [Element α] (pools : ι → Pool σ α) (settings : Settings ι)

def buildAndGiveUp (method : Method α) : Act σ α Unit := do
  let buffer ← settings.build pools method
  buffer.giveUp pools

theorem buildAndGiveUp_eq_populate (method : Method α) :
    settings.buildAndGiveUp pools method = settings.populate pools method >>= fun populated =>
      Buffer.ofPopulated (settings.clear α) settings.handle populated >>= Buffer.giveUp pools := by
  rw [buildAndGiveUp, build_eq_populate, bind_assoc]

variable {pools settings}

/-- If a population takes `first` and is then stopped by the turn that follows, a pool sees what it
sees of a population that takes just `first` and whose buffer is given up. -/
theorem build_cut {whole cut : Method α} {first : Act σ α (Filling α × Exit Unit)}
    {more : Filling α → Act σ α (Filling α × Exit Unit)} {s : σ} (stop : Exit Empty)
    (ended : stop ≠ .aborted)
    (taken : settings.populate pools whole =
      first >>= (pools settings.handle).finish (settings.clear α))
    (spliced : settings.populate pools cut =
      first >>= Pool.andThen more >>= (pools settings.handle).finish (settings.clear α))
    (turn : ∀ filling state early, first.run s = ⟨.done (filling, .done ()), state, early⟩ →
      more filling = record [.pulled] >>= fun _ => return (filling, stop.raised))
    (success : ((settings.buildAndGiveUp pools whole).run s).exit = .done ()) :
    ((settings.build pools cut).run s).exit = stop.raised ∧
      ((settings.build pools cut).run s).Alike ((settings.buildAndGiveUp pools whole).run s) := by
  rcases given : (settings.buildAndGiveUp pools whole).run s with ⟨exit, last, journal⟩
  rw [given] at success
  cases success
  rw [buildAndGiveUp_eq_populate, taken] at given
  -- the shorter run, part by part: taking, settling, owning, and the return
  obtain ⟨populated, _, _, _, filled, later, rfl⟩ := run_bind_eq_done.mp given
  obtain ⟨⟨filling, ending⟩, _, early, _, took, settled, rfl⟩ := run_bind_eq_done.mp filled
  obtain ⟨same, rfl, rfl⟩ := Pool.run_settle_eq_done settled
  obtain ⟨rfl, rfl⟩ : ending = .done () ∧ filling.populated = populated := by
    cases ending <;> simp_all [Exit.map]
  obtain ⟨buffer, state, _, late, built, returned, rfl⟩ := run_bind_eq_done.mp later
  obtain ⟨slots, owner, decision, rfl, rfl⟩ := Buffer.run_ofPopulated_eq_done built
  have gaveBack : ((pools settings.handle).giveBack filling.slots (settings.clear α)).run state =
      ⟨.done (), last, late⟩ := by
    rw [Buffer.giveUp_of_some pools slots, owner, decision] at returned
    exact returned
  -- the other run parts from it at the turn that fails, and then makes the same return
  have stopped : (first >>= Pool.andThen more).run s =
      ⟨.done (filling, stop.raised), state, early ++ [.pulled]⟩ := by
    have next : Pool.andThen more (filling, .done ()) =
        record [.pulled] >>= fun _ => return (filling, stop.raised) := turn filling state early took
    rw [run_bind_done _ took, next]
    rfl
  have failed : (settings.populate pools cut).run s =
      ⟨stop.raised, last, (early ++ [.pulled]) ++ late⟩ := by
    have failure : (stop.raised : Exit Unit).map (fun _ => filling.populated) = stop.raised := by
      cases stop with
      | done never => cases never
      | failed | panicked | aborted => rfl
    rw [spliced, run_bind_done _ stopped]
    simp only [Pool.finish, failure, Pool.run_settle_stopped ended gaveBack]
  rw [build_eq_populate, run_bind_raised _ failed]
  exact ⟨rfl, rfl, by simp⟩

variable (pools settings)

/-- A failing source looks to a pool, and in the log, like one that ends before the failure and
whose buffer is given up at once. What would have come later plays no part, and the last return
comes before the failure is reported. -/
theorem cut_short_as_given_up (s : σ) :
    (∀ (items later : List (Yield (Except String α))) (error : String),
      let given := (settings.buildAndGiveUp pools (.tryCollect items)).run s
      let cut := (settings.build pools (.tryCollect (items ++ .item (.error error) :: later))).run s
      given.exit = .done () → cut.exit = .failed (.copyFailed error) ∧ cut.Alike given) ∧
    (∀ (items later : List (Yield α)) (text : String),
      let given := (settings.buildAndGiveUp pools (.collect items)).run s
      let cut := (settings.build pools (.collect (items ++ .panic text :: later))).run s
      given.exit = .done () → cut.exit = .panicked (.raised text) ∧ cut.Alike given) ∧
    ∀ (items later : List (Yield α)) (text : String) (reported : Nat),
      let given := (settings.buildAndGiveUp pools (.collectExact reported items)).run s
      let cut :=
        (settings.build pools (.collectExact reported (items ++ .panic text :: later))).run s
      items.length < reported → given.exit = .done () →
        cut.exit = .panicked (.raised text) ∧ cut.Alike given := by
  refine ⟨?_, ?_, ?_⟩
  · intro items later error given cut
    have spliced : settings.populate pools (.tryCollect (items ++ .item (.error error) :: later)) =
        (pools settings.handle).takeAll (settings.clear α) settings.suggestedCapacity items >>=
          Pool.andThen ((pools settings.handle).appendItems (settings.clear α) (Element.maxLen α)
            (.item (.error error) :: later)) >>=
          (pools settings.handle).finish (settings.clear α) := by
      rw [← Pool.takeAll_append]
      exact Pool.tryCollect_eq_takeAll ..
    exact build_cut (.failed (.copyFailed error)) nofun (Pool.tryCollect_eq_takeAll ..) spliced
      fun _ _ _ _ => rfl
  · intro items later text given cut
    have spliced : settings.populate pools (.collect (items ++ .panic text :: later)) =
        (pools settings.handle).takeAll (settings.clear α) settings.suggestedCapacity
            (items.map (Yield.map Except.ok)) >>=
          Pool.andThen ((pools settings.handle).appendItems (settings.clear α) (Element.maxLen α)
            (.panic text :: later.map (Yield.map Except.ok))) >>=
          (pools settings.handle).finish (settings.clear α) := by
      rw [← Pool.takeAll_append, populate, Pool.collect, List.map_append]
      exact Pool.tryCollect_eq_takeAll ..
    exact build_cut (.panicked (.raised text)) nofun (Pool.tryCollect_eq_takeAll ..) spliced
      fun _ _ _ _ => rfl
  · intro items later text reported given cut fewer
    have nonzero : reported ≠ 0 := by omega
    have spliced : settings.populate pools (.collectExact reported (items ++ .panic text :: later)) =
        (pools settings.handle).takeExact reported items >>=
          Pool.andThen (Pool.assignItems reported (.panic text :: later)) >>=
          (pools settings.handle).finish (settings.clear α) := by
      rw [← Pool.takeExact_append]
      exact Pool.collectExact_eq_takeExact nonzero _
    refine build_cut (.panicked (.raised text)) nofun (Pool.collectExact_eq_takeExact nonzero _)
      spliced ?_
    intro filling state early taken
    have room := (pools settings.handle).takeExact_room reported items s [] trivial
    rw [taken] at room
    obtain ⟨written, length⟩ := room
    have notFull : filling.isFull = false := by
      rw [Filling.isFull_eq_false_iff]
      exact Nat.lt_of_le_of_lt written (Nat.lt_of_lt_of_le fewer length)
    have below : ¬ reported ≤ filling.written := by
      have bound : filling.written ≤ items.length := written
      omega
    simp only [Pool.assignItems, notFull, below]
    rfl

/-- Two items fill the first buffer, the third turn fails; the pool refuses the first return. -/
theorem cut_short_when_full :
    let pools : Unit → Pool (PlannedPool UInt8) UInt8 := fun _ => PlannedPool.asPool UInt8
    let world := PlannedPool.start ⟨[], 4096, 7, [], [], [0]⟩
    let given method := ((⟨.always, 2, ()⟩ : Settings Unit).buildAndGiveUp pools method).run world
    let cut method := ((⟨.always, 2, ()⟩ : Settings Unit).build pools method).run world
    let failing := cut (.tryCollect
      ([.item (.ok 1), .item (.ok 2)] ++ .item (.error "broken") :: [.panic "later"]))
    let panicking := cut (.collect ([.item 1, .item 2] ++ .panic "broken" :: [.item 3]))
    let counted := cut (.collectExact 3 ([.item 1, .item 2] ++ .panic "broken" :: []))
    ((given (.tryCollect [.item (.ok 1), .item (.ok 2)])).exit = .done () ∧
        failing.exit = .failed (.copyFailed "broken") ∧
        failing.Alike (given (.tryCollect [.item (.ok 1), .item (.ok 2)]))) ∧
      ((given (.collect [.item 1, .item 2])).exit = .done () ∧
        panicking.exit = .panicked (.raised "broken") ∧
        panicking.Alike (given (.collect [.item 1, .item 2]))) ∧
      (given (.collectExact 3 [.item 1, .item 2])).exit = .done () ∧
        counted.exit = .panicked (.raised "broken") ∧
        counted.Alike (given (.collectExact 3 [.item 1, .item 2])) := by
  intro pools world given cut failing panicking counted
  obtain ⟨fails, panics, counts⟩ := cut_short_as_given_up pools ⟨.always, 2, ()⟩ world
  refine ⟨⟨by decide, ?_⟩, ⟨by decide, ?_⟩, by decide, ?_⟩
  · exact fails [.item (.ok 1), .item (.ok 2)] [.panic "later"] "broken" (by decide)
  · exact panics [.item 1, .item 2] [.item 3] "broken" (by decide)
  · exact counts [.item 1, .item 2] [] "broken" 3 (by decide) (by decide)

end Settings

end BufferRental
