import BufferRental.Buffer

/-! Building buffers. Settings are collected one by one, in any order, and the last value of each
counts; they are read when a buffer is populated. -/
namespace BufferRental

def standardCapacity : Nat := 4

structure Settings (ι : Type) where
  clearMode : ClearMode
  suggestedCapacity : Nat
  handle : ι

inductive Setting (ι : Type) where
  | clearMode (mode : ClearMode)
  | suggestedCapacity (capacity : Nat)
  | pool (handle : ι)

inductive Method (α : Type) where
  | withCount (count : Nat)
  | copySlice (source : List α)
  | copyFrom (source : BulkSource α)
  | collectExact (reported : Nat) (items : List (Yield α))
  | collect (items : List (Yield α))
  | tryCollect (items : List (Yield (Except String α)))

namespace Settings

def standard (handle : ι) : Settings ι := ⟨.standard, standardCapacity, handle⟩

def apply (settings : Settings ι) : Setting ι → Settings ι
  | .clearMode mode => { settings with clearMode := mode }
  | .suggestedCapacity capacity => { settings with suggestedCapacity := capacity }
  | .pool handle => { settings with handle := handle }

def ofList (handle : ι) (changes : List (Setting ι)) : Settings ι :=
  changes.foldl apply (standard handle)

def shown (settings : Settings ι) : Text.Shown :=
  .partialRecord "PooledBufferBuilder"
    [("clear_mode", settings.clearMode.shown), ("suggested_capacity", .nat settings.suggestedCapacity)]

def clear (α : Type) [Element α] (settings : Settings ι) : Bool :=
  settings.clearMode.decision (Element.owns α)

/-- Populates a buffer, which holds on to its pool and its clear decision from then on. Only the
methods that grow heed the suggested capacity. -/
def build [Element α] (pools : ι → Pool σ α) (settings : Settings ι) (method : Method α) :
    Act σ α (Buffer ι α) := do
  let pool := pools settings.handle
  let clear := settings.clear α
  let populated ← match method with
    | .withCount count => pool.withCount count
    | .copySlice source => pool.copySlice clear source
    | .copyFrom source => pool.copyFrom clear source
    | .collectExact reported items => pool.collectExact clear reported items
    | .collect items => pool.collect clear settings.suggestedCapacity items
    | .tryCollect items => pool.tryCollect clear settings.suggestedCapacity items
  Buffer.ofPopulated clear settings.handle populated

end Settings

namespace Buffer

def new (α : Type) [Element α] (handle : ι) : Buffer ι α :=
  .empty ((Settings.standard handle).clear α) handle

/-- Collects an iterator that promises at least `hint` items. The promise is not relied on: it
only decides how much is rented at first. -/
def fromIterator [Element α] (pools : ι → Pool σ α) (handle : ι) (hint : Nat)
    (items : List (Yield α)) : Act σ α (Buffer ι α) :=
  let settings := Settings.standard handle
  let sized := if 0 < hint then settings.apply (.suggestedCapacity (min hint (Element.maxLen α)))
    else settings
  (sized.build pools (.collect items)).expect

end Buffer

end BufferRental
