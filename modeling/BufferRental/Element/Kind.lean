import BufferRental.Element
import BufferRental.Element.Footprint
import BufferRental.Number.Binary64

/-! The kinds of elements that buffers are used with: numbers, text, and small compound values,
with and without an order, with and without something of their own. -/
namespace BufferRental

open Text Number

structure Boxed (α : Type) where
  value : α
  deriving DecidableEq

structure Rgb where
  red : UInt8
  green : UInt8
  blue : UInt8
  deriving DecidableEq

structure Plain where
  a : UInt64
  b : UInt32
  deriving DecidableEq

structure WithRef where
  id : UInt64
  name : String
  deriving DecidableEq

/-- A value that cannot always be cloned. -/
structure Fragile where
  value : UInt8
  deriving DecidableEq

/-- A value whose existence is counted. -/
structure Tracked where
  value : UInt64
  deriving DecidableEq

def lexicographic (before : α → α → Bool) : List α → List α → Bool
  | [], _ => true
  | _ :: _, [] => false
  | x :: xs, y :: ys =>
    if before x y then (if before y x then lexicographic before xs ys else true) else false

def ascending [LE α] [DecidableLE α] (x y : α) : Bool := decide (x ≤ y)

def cloneUnless13 (value : Nat) (whole : α) : Except Panic α :=
  if value = 13 then .error (.raised "cannot clone 13") else .ok whole

namespace Element

/-- Elements that are the same if they are equal and that can always be cloned. -/
@[reducible] def ofEq [DecidableEq α] (footprint : Footprint) (blank : α) (order : Option (α → α → Bool))
    (shown : α → Shown) : Element α where
  size := footprint.size
  owns := footprint.owns
  blank := blank
  clone := .ok
  same x y := decide (x = y)
  order := order
  shown := shown

@[reducible] def ofNumber [DecidableEq α] [LE α] [DecidableLE α] [ToString α] (bytes : Nat)
    (blank : α) : Element α :=
  ofEq (.word bytes) blank (some ascending) fun x => .atom (toString x)

instance : Element UInt8 := ofNumber 1 0

instance : Element UInt16 := ofNumber 2 0

instance : Element UInt32 := ofNumber 4 0

instance : Element UInt64 := ofNumber 8 0

instance : Element Int8 := ofNumber 1 0

instance : Element Int32 := ofNumber 4 0

instance : Element Int64 := ofNumber 8 0

instance : Element Binary64 :=
  { ofEq (.word 8) .zero none fun x => .atom x.text with same := Binary64.same }

instance : Element Bool :=
  ofEq (.word 1) false (some fun x y => !x || y) fun x => .atom (if x then "true" else "false")

instance : Element Char := ofEq (.word 4) '\x00' (some ascending) fun c => .atom (quotedChar c)

instance : Element Unit := ofEq .nothing () none fun _ => .atom "()"

instance : Element String := ofEq (.handle 3) "" (some ascending) fun s => .atom (quotedString s)

instance : Element (List UInt8) :=
  ofEq (.handle 3) [] (some (lexicographic ascending)) fun xs => .list (xs.map shown)

/-- No text stands before every text. -/
def optionalBefore : Option String → Option String → Bool
  | none, _ => true
  | some _, none => false
  | some x, some y => ascending x y

instance : Element (Option String) :=
  ofEq (.squeezed (.handle 3) .nothing) none (some optionalBefore) fun
    | none => .atom "None"
    | some s => .wrapped "Some" [shown s]

instance : Element (Boxed UInt64) :=
  ofEq (.handle 1) ⟨0⟩ (some fun x y => ascending x.value y.value) fun x => shown x.value

def rgbParts (x : Rgb) : List UInt8 := [x.red, x.green, x.blue]

instance : Element Rgb :=
  ofEq (.array 3 (.word 1)) ⟨0, 0, 0⟩
    (some fun x y => lexicographic ascending (rgbParts x) (rgbParts y))
    fun x => .list ((rgbParts x).map shown)

instance : Element (UInt8 × String) :=
  ofEq (.record [.word 1, .handle 3]) (0, "")
    (some fun x y => x.1 < y.1 || (x.1 == y.1 && ascending x.2 y.2))
    fun x => .tuple [shown x.1, shown x.2]

instance : Element Plain :=
  ofEq (.record [.word 8, .word 4]) ⟨0, 0⟩ none
    fun x => .record "Plain" [("a", shown x.a), ("b", shown x.b)]

instance : Element WithRef :=
  ofEq (.record [.word 8, .handle 3]) ⟨0, ""⟩ none
    fun x => .record "WithRef" [("id", shown x.id), ("name", shown x.name)]

instance : Element Fragile :=
  { ofEq (.word 1) ⟨0⟩ none fun x : Fragile => .wrapped "Fragile" [shown x.value] with
    clone := fun x => cloneUnless13 x.value.toNat x }

instance : Element Tracked :=
  { ofEq (.handle 1) ⟨0⟩ none fun x : Tracked => .wrapped "Tracked" [shown x.value] with
    clone := fun x => cloneUnless13 x.value.toNat x }

end Element

inductive Kind where
  | word8
  | word16
  | word32
  | word64
  | signed8
  | signed32
  | signed64
  | binary64
  | truth
  | character
  | unit
  | text
  | bytes
  | optionalText
  | boxed
  | rgb
  | labelled
  | plain
  | withRef
  | fragile
  | tracked
  deriving DecidableEq

namespace Kind

abbrev Carrier : Kind → Type
  | word8 => UInt8
  | word16 => UInt16
  | word32 => UInt32
  | word64 => UInt64
  | signed8 => Int8
  | signed32 => Int32
  | signed64 => Int64
  | binary64 => Binary64
  | truth => Bool
  | character => Char
  | unit => Unit
  | text => String
  | bytes => List UInt8
  | optionalText => Option String
  | boxed => Boxed UInt64
  | rgb => Rgb
  | labelled => UInt8 × String
  | plain => Plain
  | withRef => WithRef
  | fragile => Fragile
  | tracked => Tracked

instance : (kind : Kind) → Element kind.Carrier
  | word8 => inferInstanceAs (Element UInt8)
  | word16 => inferInstanceAs (Element UInt16)
  | word32 => inferInstanceAs (Element UInt32)
  | word64 => inferInstanceAs (Element UInt64)
  | signed8 => inferInstanceAs (Element Int8)
  | signed32 => inferInstanceAs (Element Int32)
  | signed64 => inferInstanceAs (Element Int64)
  | binary64 => inferInstanceAs (Element Binary64)
  | truth => inferInstanceAs (Element Bool)
  | character => inferInstanceAs (Element Char)
  | unit => inferInstanceAs (Element Unit)
  | text => inferInstanceAs (Element String)
  | bytes => inferInstanceAs (Element (List UInt8))
  | optionalText => inferInstanceAs (Element (Option String))
  | boxed => inferInstanceAs (Element (Boxed UInt64))
  | rgb => inferInstanceAs (Element Rgb)
  | labelled => inferInstanceAs (Element (UInt8 × String))
  | plain => inferInstanceAs (Element Plain)
  | withRef => inferInstanceAs (Element WithRef)
  | fragile => inferInstanceAs (Element Fragile)
  | tracked => inferInstanceAs (Element Tracked)

/-- Item number `i` of the standard sequence of a kind. -/
def item (i : Nat) : (kind : Kind) → kind.Carrier
  | word8 => .ofNat i
  | word16 => .ofNat i
  | word32 => .ofNat i
  | word64 => .ofNat i
  | signed8 => .ofNat i
  | signed32 => .ofNat i
  | signed64 => .ofNat i
  | binary64 => .ofNat i
  | truth => i % 2 == 1
  | character => Char.ofNat ('a'.toNat + i % 26)
  | unit => ()
  | text => s!"s{i}"
  | bytes => List.replicate (i % 4) (.ofNat i)
  | optionalText => if i % 3 = 0 then none else some s!"o{i}"
  | boxed => ⟨.ofNat i⟩
  | rgb => ⟨.ofNat i, .ofNat (i / 256), 7⟩
  | labelled => (.ofNat i, s!"p{i}")
  | plain => ⟨.ofNat i, .ofNat (i % 10)⟩
  | withRef => ⟨.ofNat i, s!"n{i}"⟩
  | fragile => ⟨.ofNat i⟩
  | tracked => ⟨.ofNat i⟩

/-- For kinds whose values are counted: which of them count. -/
def counted? : (kind : Kind) → Option (kind.Carrier → Bool)
  | tracked => some fun x => x.value != 0
  | _ => none

end Kind

end BufferRental
