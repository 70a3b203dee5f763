import BufferRental.Text.Shown

/-! Whether a buffer is reset when it goes back to its pool. The mode is settled into a plain
decision once, when a buffer is built; `ofDecision` reports that decision as a mode again. -/
namespace BufferRental

open Text

/-- `auto` resets a buffer exactly if its elements own something beyond their own bytes. -/
inductive ClearMode where
  | always
  | never
  | auto
  deriving DecidableEq

namespace ClearMode

def standard : ClearMode := auto

/-- The decision for elements that own something (`owns`) or do not. -/
def decision (mode : ClearMode) (owns : Bool) : Bool :=
  match mode with
  | always => true
  | never => false
  | auto => owns

def ofDecision (clear : Bool) : ClearMode := if clear then always else never

@[simp] theorem decision_ofDecision (clear owns : Bool) :
    (ofDecision clear).decision owns = clear := by cases clear <;> rfl

def name : ClearMode → String
  | always => "Always"
  | never => "Never"
  | auto => "Auto"

def shown (mode : ClearMode) : Shown := .atom mode.name

end ClearMode

end BufferRental
