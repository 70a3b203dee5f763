import BufferRental.Element.Kind
import BufferRental.Proofs.Refusal
import Mathlib.Order.Closure

/-! How long the buffers of a bucket pool are. The length granted to a request is the least one that
the pool can lend and that suffices, so it does not depend on what the pool has been through. Granting
is a closure operator on lengths; its closed lengths are those that can be lent. -/
namespace BufferRental

namespace BucketLimits

variable (limits : BucketLimits)

theorem shelved_maxBufferLen : limits.Shelved limits.maxBufferLen := by
  have kept := limits.hasBucket
  simp only [isBucketLen, Bool.and_eq_true, isPowerOfTwo_iff, decide_eq_true_eq] at kept
  exact ⟨kept.1, kept.2, Nat.le_refl _⟩

/-- The largest power of two in a word is half of what a word can count. -/
theorem maxBufferLen_le (word : limits.maxBufferLen ≤ maxWord) : limits.maxBufferLen ≤ 2 ^ 63 := by
  obtain ⟨power, same⟩ := limits.shelved_maxBufferLen.power
  have fits : 2 ^ power < 2 ^ 64 := by
    rw [← same]
    exact Nat.lt_of_le_of_lt word (by decide)
  have bits : power < 64 := (Nat.pow_lt_pow_iff_right (by decide)).mp fits
  rw [same]
  exact Nat.pow_le_pow_right (by decide) (Nat.le_of_lt_succ bits)

theorem grantLen_le {minLen length : Nat} (enough : minLen ≤ length) (lends : limits.Lends length) :
    limits.grantLen minLen ≤ length := by
  rcases Nat.lt_or_ge limits.maxBufferLen minLen with beyond | within
  · rw [grantLen_of_beyond beyond]
    exact enough
  · have rounded := grantLen_of_within within
    rcases lends with shelved | beyond
    · exact rounded.2 ⟨shelved.power, shelved.least, enough⟩
    · have top := limits.shelved_maxBufferLen
      have most := rounded.2 ⟨top.power, top.least, within⟩
      omega

def granting : ClosureOperator Nat :=
  .ofPred limits.grantLen limits.Lends limits.le_grantLen limits.lends_grantLen
    fun _ _ => limits.grantLen_le

theorem grantLen_le_maxBufferLen {minLen : Nat} (within : minLen ≤ limits.maxBufferLen) :
    limits.grantLen minLen ≤ limits.maxBufferLen :=
  limits.grantLen_le within (.inl limits.shelved_maxBufferLen)

theorem grantLen_isLeast {minLen : Nat} (within : minLen ≤ limits.maxBufferLen) :
    IsLeast {length | length.isPowerOfTwo ∧ max minLen minBucketLen ≤ length}
      (limits.grantLen minLen) := by
  have rounded := grantLen_of_within within
  constructor
  · exact ⟨rounded.1.1, Nat.max_le.mpr ⟨rounded.1.2.2, rounded.1.2.1⟩⟩
  · rintro length ⟨power, reaches⟩
    exact rounded.2 ⟨power, Nat.le_trans (Nat.le_max_right ..) reaches,
      Nat.le_trans (Nat.le_max_left ..) reaches⟩

/-- Half of what is granted would not do, unless less than the shortest buffer is asked for. -/
theorem grantLen_le_double (minLen : Nat) :
    limits.grantLen minLen ≤ max minBucketLen (2 * minLen - 1) := by
  have shortest : minBucketLen = 16 := rfl
  rcases Nat.lt_or_ge limits.maxBufferLen minLen with beyond | within
  · rw [grantLen_of_beyond beyond]
    omega
  obtain ⟨⟨⟨power, same⟩, reaches⟩, least⟩ := limits.grantLen_isLeast within
  rcases Nat.lt_or_ge minBucketLen minLen with long | short
  · cases power with
    | zero => omega
    | succ power =>
      have half : ¬ max minLen minBucketLen ≤ 2 ^ power := by
        intro enough
        have shorter := least ⟨⟨power, rfl⟩, enough⟩
        have positive := Nat.two_pow_pos power
        omega
      omega
  · have lowest := least ⟨⟨4, rfl⟩, Nat.max_le.mpr ⟨short, Nat.le_refl _⟩⟩
    exact Nat.le_trans lowest (Nat.le_max_left ..)

theorem grantLen_le_maxWord (word : limits.maxBufferLen ≤ maxWord) {minLen : Nat}
    (request : minLen ≤ maxWord) : limits.grantLen minLen ≤ maxWord := by
  rcases Nat.lt_or_ge limits.maxBufferLen minLen with beyond | within
  · rw [grantLen_of_beyond beyond]
    exact request
  · exact Nat.le_trans (limits.grantLen_le_maxBufferLen within) word

end BucketLimits

namespace BucketPool

variable {pool : BucketPool α}

theorem Sound.bucket_of_within (sound : pool.Sound) {minLen : Nat}
    (within : minLen ≤ pool.limits.maxBufferLen) :
    ∃ index idle, index < pool.buckets.length ∧
      pool.bucket? (pool.limits.grantLen minLen) = some (index, idle) ∧
      ∀ slots ∈ idle, slots.length = pool.limits.grantLen minLen := by
  have kept : pool.limits.Shelved (pool.limits.grantLen minLen) := by
    have rounded := BucketLimits.grantLen_of_within within
    exact ⟨rounded.1.1, rounded.1.2.1, pool.limits.grantLen_le_maxBufferLen within⟩
  obtain ⟨index, _, bound, found⟩ := bucket?_of_shelved sound.places kept
  exact ⟨index, _, bound, found, sound.fit.lengths _⟩

/-- There is a bucket for each power of two from 16 to half of what a word can count, at most. -/
theorem Sound.buckets_le (sound : pool.Sound) (word : pool.limits.maxBufferLen ≤ maxWord) :
    pool.buckets.length ≤ 60 := by
  have within := pool.limits.maxBufferLen_le word
  have beyond : ¬ minBucketLen * 2 ^ 60 ≤ pool.limits.maxBufferLen := by
    have shortest : minBucketLen = 16 := rfl
    omega
  exact Nat.not_lt.mp (mt (sound.places 60).mp beyond)

variable [Element α]

/-- Whatever a bucket pool was asked before, it finds a bucket for every request within its limit, and
grants every request that a word can hold a length that fits a word too. That length follows from the
request and the limit: it is the request itself beyond the limit, and otherwise the least power of two
that suffices and is not below the shortest. So it grows with the request, is granted again to one who
asks for it, stays within the limit, and is less than twice the request or the shortest. -/
theorem grants_least_lendable (limits : BucketLimits) (word : limits.maxBufferLen ≤ maxWord) :
    let top := limits.maxBufferLen
    let granted := limits.grantLen
    (top.isPowerOfTwo ∧ minBucketLen ≤ top ∧ top ≤ 2 ^ 63) ∧
      (∀ (requests : List (Request α)) (minLen : Nat), minLen ≤ maxWord →
        let pool := ((asPool α).serveAll requests (empty limits)).1
        pool.Grants minLen (granted minLen) ∧ granted minLen ≤ maxWord ∧
          (minLen ≤ top → pool.buckets.length ≤ 60 ∧ ∃ index idle, index < pool.buckets.length ∧
            pool.bucket? (granted minLen) = some (index, idle))) ∧
      (∀ minLen, (top < minLen → granted minLen = minLen) ∧ (minLen ≤ top →
        IsLeast {length | length.isPowerOfTwo ∧ max minLen minBucketLen ≤ length}
          (granted minLen))) ∧
      ∀ minLen other, minLen ≤ other → minLen ≤ granted minLen ∧ granted minLen ≤ granted other ∧
        granted (granted minLen) = granted minLen ∧ (minLen ≤ top → granted minLen ≤ top) ∧
        granted minLen ≤ max minBucketLen (2 * minLen - 1) := by
  intro top granted
  have shelved := limits.shelved_maxBufferLen
  refine ⟨⟨shelved.power, shelved.least, limits.maxBufferLen_le word⟩, ?_, ?_, ?_⟩
  · intro requests minLen request pool
    obtain ⟨same, sound⟩ : pool.limits = limits ∧ pool.Sound := serveAll_sound limits requests
    refine ⟨?_, limits.grantLen_le_maxWord word request, fun within => ?_⟩
    · rw [sound.grants_iff, same]
    · have inside : minLen ≤ pool.limits.maxBufferLen := by
        rw [same]
        exact within
      obtain ⟨index, idle, bound, found, _⟩ := sound.bucket_of_within inside
      rw [same] at found
      exact ⟨sound.buckets_le (same ▸ word), index, idle, bound, found⟩
  · intro minLen
    exact ⟨BucketLimits.grantLen_of_beyond, limits.grantLen_isLeast⟩
  · intro minLen other le
    exact ⟨limits.granting.le_closure minLen, limits.granting.monotone le,
      limits.granting.idempotent minLen, limits.grantLen_le_maxBufferLen,
      limits.grantLen_le_double minLen⟩

/-- The largest limit that a word allows: one more than half of it is rounded up to the limit, and one
more than the limit is granted as it is. -/
theorem grants_least_lendable_top :
    let limits : BucketLimits := ⟨2 ^ 63, 50, by decide⟩
    let pool := ((asPool UInt8).serveAll [.hand (List.replicate 16 7) false] (empty limits)).1
    limits.maxBufferLen ≤ maxWord ∧ pool.Grants (2 ^ 62 + 1) (2 ^ 63) ∧
      pool.Grants (2 ^ 63 + 1) (2 ^ 63 + 1) ∧
      limits.grantLen (2 ^ 62 + 1) ≤ limits.grantLen (2 ^ 63) := by
  intro limits pool
  have word : limits.maxBufferLen ≤ maxWord := by decide
  obtain ⟨_, answers, _, laws⟩ := grants_least_lendable (α := UInt8) limits word
  have rounded := (answers [.hand (List.replicate 16 7) false] (2 ^ 62 + 1) (by decide)).1
  have exact := (answers [.hand (List.replicate 16 7) false] (2 ^ 63 + 1) (by decide)).1
  have up : limits.grantLen (2 ^ 62 + 1) = 2 ^ 63 := by decide
  have same : limits.grantLen (2 ^ 63 + 1) = 2 ^ 63 + 1 := by decide
  rw [up] at rounded
  rw [same] at exact
  exact ⟨word, rounded, exact, (laws _ _ (by decide)).2.1⟩

end BucketPool

end BufferRental
