/-! Lengths of buffers, counted in elements: how long a buffer can be, how a full one grows, and
the powers of two that stand for classes of lengths. Lengths are natural numbers; where a machine
word bounds them, the bound is written out. -/
namespace BufferRental

def maxWord : Nat := (1 <<< 64) - 1

/-- The longest buffer of elements of `size` bytes each. Memory is limited to half of what a word
can address; elements without a size use none of it and are limited by the index alone. -/
def maxBufferLen (size : Nat) : Nat :=
  if size = 0 then maxWord else ((1 <<< 63) - 1) / size

/-- The length to ask for when a full buffer of length `current` has to grow: twice as much,
within a word and within `limit`, and at least one. At the limit there is none. -/
def nextLen (current limit : Nat) : Option Nat :=
  if limit ≤ current then none else some (max 1 (min (min (2 * current) maxWord) limit))

theorem nextLen_eq_none_iff {current limit : Nat} : nextLen current limit = none ↔ limit ≤ current := by
  unfold nextLen; split <;> simp_all

def isPowerOfTwo (n : Nat) : Bool := n == 1 <<< n.log2

/-- The least power of two that is not below `n`. -/
def roundUpToPowerOfTwo (n : Nat) : Nat :=
  if n ≤ 1 then 1 else 1 <<< ((n - 1).log2 + 1)

theorem isPowerOfTwo_iff {n : Nat} : isPowerOfTwo n = true ↔ n.isPowerOfTwo := by
  constructor
  · intro h; exact ⟨n.log2, by simpa [isPowerOfTwo, Nat.one_shiftLeft] using h⟩
  · rintro ⟨k, rfl⟩; simp [isPowerOfTwo, Nat.one_shiftLeft]

theorem isPowerOfTwo_roundUp (n : Nat) : isPowerOfTwo (roundUpToPowerOfTwo n) = true := by
  rw [isPowerOfTwo_iff]
  unfold roundUpToPowerOfTwo
  split
  · exact ⟨0, rfl⟩
  · exact ⟨_, Nat.one_shiftLeft _⟩

theorem le_roundUp (n : Nat) : n ≤ roundUpToPowerOfTwo n := by
  unfold roundUpToPowerOfTwo
  split
  · assumption
  · have := @Nat.lt_log2_self (n - 1)
    rw [Nat.one_shiftLeft]; omega

/-- No power of two lies between `n` and its rounding. -/
theorem roundUp_le {n m : Nat} (power : m.isPowerOfTwo) (h : n ≤ m) : roundUpToPowerOfTwo n ≤ m := by
  obtain ⟨k, rfl⟩ := power
  unfold roundUpToPowerOfTwo
  split
  · exact Nat.one_le_two_pow
  · rw [Nat.one_shiftLeft]
    apply Nat.pow_le_pow_right (by decide)
    have := (@Nat.log2_lt (n - 1) k (by omega)).2 (by omega)
    omega

end BufferRental
