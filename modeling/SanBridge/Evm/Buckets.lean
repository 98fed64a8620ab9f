import Mathlib.Algebra.Order.Field.Rat
import Mathlib.Algebra.Order.Field.Basic
import Mathlib.Tactic.FieldSimp
import Mathlib.Tactic.Ring
import SanBridge.Evm.Contract
import SanBridge.Library.TokenBucket

namespace SanBridge.Evm.Buckets

open Library.Checked Library.TokenBucket Evm.Runtime Evm.Contract

structure Valid (b : TokenBucket) : Prop where
  refill_pos : 0 < b.refillAmount
  refill_le : b.refillAmount ≤ b.capacity
  capacity_le : b.capacity ≤ 2 ^ 64 - 1
  duration_pos : 0 < b.refillDuration
  duration_lt : b.refillDuration < 2 ^ 64
  available_le : b.available ≤ b.capacity
  remainder_lt : b.remainder < b.refillDuration
  full : b.available = b.capacity → b.remainder = 0

/-- What a bucket holds, counted in fractions of one refill duration. -/
def volume (b : TokenBucket) : Nat := b.available * b.refillDuration + b.remainder

/-- The ideal bucket: everything refilled since the last update, up to the capacity. -/
def volumeAt (now : Nat) (b : TokenBucket) : Nat :=
  min (b.capacity * b.refillDuration) (volume b + (now - b.lastUpdated) * b.refillAmount)

variable {now : Nat} {b b' : TokenBucket} {available remainder : Nat}

theorem volume_le (hv : Valid b) : volume b ≤ b.capacity * b.refillDuration := by
  rw [volume]
  by_cases hf : b.available = b.capacity
  · rw [hv.full hf, hf, Nat.add_zero]
  · have hlt : b.available + 1 ≤ b.capacity := by
      have := hv.available_le
      omega
    have hm := Nat.mul_le_mul_right b.refillDuration hlt
    have hr := hv.remainder_lt
    rw [Nat.add_mul, Nat.one_mul] at hm
    omega

theorem carryOver_spec {duration added combined added' combined' : Nat}
    (h : carryOver duration added combined = .ok (added', combined')) :
    added' * duration + combined' = added * duration + combined ∧
      (combined < 2 * duration → combined' < duration) := by
  unfold carryOver at h
  split at h
  · obtain ⟨_, ha, h⟩ := bind_eq_ok.mp h
    obtain ⟨_, hc, h⟩ := bind_eq_ok.mp h
    obtain ⟨_, rfl⟩ := add_eq_ok.mp ha
    obtain ⟨_, rfl⟩ := sub_eq_ok.mp hc
    obtain ⟨rfl, rfl⟩ := Prod.mk.inj (Except.ok.inj h)
    rw [Nat.add_mul, Nat.one_mul]
    omega
  · obtain ⟨rfl, rfl⟩ := Prod.mk.inj (Except.ok.inj h)
    omega

/-- What `_preview` returns when it returns: the ideal volume, split into whole
units and a proper fraction that is zero in a full bucket. -/
structure PreviewSpec (now : Nat) (b : TokenBucket) (available remainder : Nat) : Prop where
  volume_eq : available * b.refillDuration + remainder = volumeAt now b
  remainder_lt : remainder < b.refillDuration
  available_le : available ≤ b.capacity
  full : available = b.capacity → remainder = 0

theorem preview_spec (hv : Valid b) (h : preview now b = .ok (available, remainder)) :
    PreviewSpec now b available remainder := by
  unfold preview at h
  split at h
  · rename_i hs
    obtain ⟨rfl, rfl⟩ := Prod.mk.inj (Except.ok.inj h)
    refine ⟨?_, hv.remainder_lt, hv.available_le, hv.full⟩
    have hle := volume_le hv
    rcases hs with hs | hs
    · have hz : now - b.lastUpdated = 0 := by omega
      rw [volumeAt, hz, Nat.zero_mul, Nat.add_zero, min_eq_right hle]
      rfl
    · have hfull : volume b = b.capacity * b.refillDuration := by
        rw [volume, hv.full hs, hs, Nat.add_zero]
      rw [volumeAt, hfull, min_eq_left (Nat.le_add_right _ _), ← hfull]
      rfl
  · rename_i hs
    obtain ⟨elapsed, he, h⟩ := bind_eq_ok.mp h
    obtain ⟨quotient, hq, h⟩ := bind_eq_ok.mp h
    obtain ⟨fractional, hm, h⟩ := bind_eq_ok.mp h
    obtain ⟨combined, hc, h⟩ := bind_eq_ok.mp h
    obtain ⟨⟨added, carried⟩, ha, h⟩ := bind_eq_ok.mp h
    obtain ⟨room, hr, h⟩ := bind_eq_ok.mp h
    obtain ⟨hle, he⟩ := sub_eq_ok.mp he
    obtain ⟨hd, _, hq⟩ := mulDiv_eq_ok.mp hq
    obtain ⟨_, hm⟩ := mulmod_eq_ok.mp hm
    obtain ⟨_, hc⟩ := add_eq_ok.mp hc
    obtain ⟨hsum, hlt⟩ := carryOver_spec ha
    obtain ⟨_, hr⟩ := sub_eq_ok.mp hr
    have hfrac : fractional < b.refillDuration := hm ▸ Nat.mod_lt _ hd
    have hcarried : carried < b.refillDuration := hlt (by have := hv.remainder_lt; omega)
    -- the refill and the old remainder, as whole units and a proper fraction
    have hvolume : volume b + (now - b.lastUpdated) * b.refillAmount =
        (b.available + added) * b.refillDuration + carried := by
      have hdiv := Nat.div_add_mod' (elapsed * b.refillAmount) b.refillDuration
      rw [← hq, ← hm] at hdiv
      rw [← he, Nat.add_mul, volume]
      omega
    have hav := hv.available_le
    split at h
    · obtain ⟨rfl, rfl⟩ := Prod.mk.inj (Except.ok.inj h)
      have hcap := Nat.mul_le_mul_right b.refillDuration (show b.capacity ≤ b.available + added by omega)
      refine ⟨?_, hv.duration_pos, le_refl _, fun _ => rfl⟩
      rw [volumeAt, hvolume, min_eq_left (by omega), Nat.add_zero]
    · obtain ⟨total, ht, h⟩ := bind_eq_ok.mp h
      obtain ⟨rfl, rfl⟩ := Prod.mk.inj (Except.ok.inj h)
      obtain ⟨_, rfl⟩ := add_eq_ok.mp ht
      have hcap := Nat.mul_le_mul_right b.refillDuration
        (show b.available + added + 1 ≤ b.capacity by omega)
      rw [Nat.add_mul _ 1, Nat.one_mul] at hcap
      refine ⟨?_, hcarried, by omega, fun hf => by omega⟩
      rw [volumeAt, hvolume, min_eq_right (by omega)]

theorem carryOver_ok_iff {duration added combined : Nat} :
    (∃ r, carryOver duration added combined = .ok r) ↔ (duration ≤ combined → added + 1 < word) := by
  rw [carryOver]
  by_cases hc : duration ≤ combined
  · rw [if_pos hc]
    constructor
    · rintro ⟨r, h⟩ _
      obtain ⟨_, ha, _⟩ := bind_eq_ok.mp h
      exact (add_eq_ok.mp ha).1
    · intro h
      refine ⟨(added + 1, combined - duration), ?_⟩
      rw [add_eq_ok.mpr ⟨h hc, rfl⟩, sub_eq_ok.mpr ⟨hc, rfl⟩]
      rfl
  · rw [if_neg hc]
    exact iff_of_true ⟨_, rfl⟩ fun h => absurd h hc

def Idle (now : Nat) (b : TokenBucket) : Prop := now ≤ b.lastUpdated ∨ b.available = b.capacity

/-- The units earned since the last update fit into a word, the carried one included. -/
def Fits (now : Nat) (b : TokenBucket) : Prop :=
  ((now - b.lastUpdated) * b.refillAmount + b.remainder) / b.refillDuration < word

theorem fits_iff (hv : Valid b) : Fits now b ↔
    (now - b.lastUpdated) * b.refillAmount / b.refillDuration < word ∧
      (b.refillDuration ≤ (now - b.lastUpdated) * b.refillAmount % b.refillDuration + b.remainder →
        (now - b.lastUpdated) * b.refillAmount / b.refillDuration + 1 < word) := by
  rw [Fits, Nat.add_div hv.duration_pos, Nat.div_eq_of_lt hv.remainder_lt, Nat.mod_eq_of_lt hv.remainder_lt,
    Nat.add_zero]
  split_ifs with hc
  · constructor
    · intro h
      exact ⟨by omega, fun _ => h⟩
    · rintro ⟨_, h⟩
      exact h hc
  · constructor
    · intro h
      exact ⟨h, fun hc' => absurd hc' hc⟩
    · rintro ⟨h, _⟩
      exact h

theorem preview_ok_iff (hv : Valid b) : (∃ r, preview now b = .ok r) ↔ Idle now b ∨ Fits now b := by
  have hd := hv.duration_pos
  have hle := hv.available_le
  have hcap := hv.capacity_le
  have hrem := hv.remainder_lt
  have hdlt := hv.duration_lt
  have hmod := Nat.mod_lt ((now - b.lastUpdated) * b.refillAmount) hd
  have hw : (2 : Nat) ^ 66 < word := by decide
  rw [preview]
  by_cases hs : now ≤ b.lastUpdated ∨ b.available = b.capacity
  · exact iff_of_true ⟨_, if_pos hs⟩ (.inl hs)
  rw [if_neg hs, fits_iff hv]
  constructor
  · rintro ⟨r, h⟩
    obtain ⟨elapsed, he, h⟩ := bind_eq_ok.mp h
    obtain ⟨quotient, hq, h⟩ := bind_eq_ok.mp h
    obtain ⟨fractional, hm, h⟩ := bind_eq_ok.mp h
    obtain ⟨combined, hc, h⟩ := bind_eq_ok.mp h
    obtain ⟨carried, ha, _⟩ := bind_eq_ok.mp h
    obtain ⟨_, rfl⟩ := sub_eq_ok.mp he
    obtain ⟨_, hfit, rfl⟩ := mulDiv_eq_ok.mp hq
    obtain ⟨_, rfl⟩ := mulmod_eq_ok.mp hm
    obtain ⟨_, rfl⟩ := add_eq_ok.mp hc
    exact .inr ⟨hfit, carryOver_ok_iff.mp ⟨_, ha⟩⟩
  · rintro (h | ⟨hfit, hcarry⟩)
    · exact absurd h hs
    obtain ⟨⟨added, combined⟩, hc⟩ := carryOver_ok_iff.mpr hcarry
    rw [sub_eq_ok.mpr ⟨by omega, rfl⟩, ok_bind, mulDiv_eq_ok.mpr ⟨hd, hfit, rfl⟩, ok_bind,
      mulmod_eq_ok.mpr ⟨hd, rfl⟩, ok_bind, add_eq_ok.mpr ⟨by omega, rfl⟩, ok_bind, hc, ok_bind]
    dsimp only
    rw [sub_eq_ok.mpr ⟨hle, rfl⟩, ok_bind]
    by_cases hroom : b.capacity - b.available ≤ added
    · exact ⟨_, if_pos hroom⟩
    · refine ⟨(b.available + added, combined), ?_⟩
      rw [if_neg hroom, add_eq_ok.mpr ⟨by omega, rfl⟩]
      rfl

theorem fits_of_lt (hv : Valid b) (hn : now < 2 ^ 192) : Fits now b := by
  have hcap := hv.capacity_le
  have hrem := hv.remainder_lt
  have hdlt := hv.duration_lt
  have hprod : (now - b.lastUpdated) * b.refillAmount ≤ (2 ^ 192 - 1) * (2 ^ 64 - 1) :=
    Nat.mul_le_mul (by omega) (hv.refill_le.trans hcap)
  have hw : (2 ^ 192 - 1) * (2 ^ 64 - 1) + 2 ^ 64 < word := by decide
  exact (Nat.div_le_self _ _).trans_lt (by omega)

/-- `_refill` settles a bucket: it keeps the parameters and the ideal volume. -/
structure Settled (now : Nat) (b b' : TokenBucket) : Prop where
  capacity_eq : b'.capacity = b.capacity
  refillAmount_eq : b'.refillAmount = b.refillAmount
  refillDuration_eq : b'.refillDuration = b.refillDuration
  lastUpdated_eq : b'.lastUpdated = now
  valid : Valid b'
  volume_eq : volume b' = volumeAt now b

theorem refill_settled (hv : Valid b) (h : refill now b = .ok b') : Settled now b b' := by
  obtain ⟨⟨available, remainder⟩, hp, h⟩ := bind_eq_ok.mp h
  have hs := preview_spec hv hp
  cases h
  refine ⟨rfl, rfl, rfl, rfl, ?_, hs.volume_eq⟩
  exact ⟨hv.refill_pos, hv.refill_le, hv.capacity_le, hv.duration_pos, hv.duration_lt,
    hs.available_le, hs.remainder_lt, hs.full⟩

theorem refill_ok_iff (hv : Valid b) : (∃ b', refill now b = .ok b') ↔ Idle now b ∨ Fits now b := by
  rw [← preview_ok_iff hv]
  constructor
  · rintro ⟨b', h⟩
    obtain ⟨r, hp, _⟩ := bind_eq_ok.mp h
    exact ⟨r, hp⟩
  · rintro ⟨r, hp⟩
    exact ⟨_, bind_eq_ok.mpr ⟨r, hp, rfl⟩⟩

theorem refill_ok (hv : Valid b) (hn : now < 2 ^ 192) : ∃ b', refill now b = .ok b' :=
  (refill_ok_iff hv).mpr (.inr (fits_of_lt hv hn))

variable {inbound : Bool} {amount : Nat}

theorem consume_eq_ok : consume now inbound amount b = .ok b' ↔
    ∃ settled, refill now b = .ok settled ∧ amount ≤ settled.available ∧
      b' = { settled with available := settled.available - amount } := by
  constructor
  · intro h
    obtain ⟨settled, hs, h⟩ := bind_eq_ok.mp h
    obtain ⟨_, hr, h⟩ := bind_eq_ok.mp h
    cases h
    exact ⟨settled, hs, by simpa using hr, rfl⟩
  · rintro ⟨settled, hs, hle, rfl⟩
    refine bind_eq_ok.mpr ⟨settled, hs, bind_eq_ok.mpr ⟨(), ?_, rfl⟩⟩
    simpa using hle

/-- A debit or credit settles the bucket and takes its amount out of the volume. -/
theorem consume_spec (hv : Valid b) (h : consume now inbound amount b = .ok b') :
    Valid b' ∧ b'.lastUpdated = now ∧ b'.capacity = b.capacity ∧ b'.refillAmount = b.refillAmount ∧
      b'.refillDuration = b.refillDuration ∧
      amount * b.refillDuration + volume b' = volumeAt now b ∧ amount ≤ b.capacity := by
  obtain ⟨settled, hs, hle, rfl⟩ := consume_eq_ok.mp h
  have hset := refill_settled hv hs
  have hval := hset.valid
  have hav := hval.available_le
  have hcap := hset.capacity_eq
  refine ⟨?_, hset.lastUpdated_eq, hset.capacity_eq, hset.refillAmount_eq, hset.refillDuration_eq, ?_,
    by omega⟩
  · refine ⟨hval.refill_pos, hval.refill_le, hval.capacity_le, hval.duration_pos, hval.duration_lt,
      (Nat.sub_le _ _).trans hav, hval.remainder_lt, fun hf => ?_⟩
    have hf : settled.available - amount = settled.capacity := hf
    exact hval.full (by omega)
  · rw [← hset.volume_eq, ← hset.refillDuration_eq]
    simp only [volume]
    have hm : amount * settled.refillDuration +
        (settled.available - amount) * settled.refillDuration =
        settled.available * settled.refillDuration := by
      rw [← Nat.add_mul]
      congr 1
      omega
    omega

theorem le_available_iff (hv : Valid b) : amount ≤ b.available ↔ amount * b.refillDuration ≤ volume b := by
  have hr := hv.remainder_lt
  rw [volume]
  constructor
  · intro h
    exact (Nat.mul_le_mul_right _ h).trans (Nat.le_add_right _ _)
  · intro h
    by_contra hlt
    have hm := Nat.mul_le_mul_right b.refillDuration (show b.available + 1 ≤ amount by omega)
    rw [Nat.add_mul, Nat.one_mul] at hm
    omega

theorem consume_ok_iff (hv : Valid b) (hs : refill now b = .ok b') :
    (∃ b', consume now inbound amount b = .ok b') ↔ amount * b.refillDuration ≤ volumeAt now b := by
  have hset := refill_settled hv hs
  rw [← hset.volume_eq, ← hset.refillDuration_eq, ← le_available_iff hset.valid]
  constructor
  · rintro ⟨b₁, h⟩
    obtain ⟨settled, hs', hle, _⟩ := consume_eq_ok.mp h
    obtain rfl : b' = settled := Except.ok.inj (hs.symm.trans hs')
    exact hle
  · intro hle
    exact ⟨_, consume_eq_ok.mpr ⟨b', hs, hle, rfl⟩⟩

theorem consume_ok (hv : Valid b) (hn : now < 2 ^ 192)
    (ha : amount * b.refillDuration ≤ volumeAt now b) :
    ∃ b', consume now inbound amount b = .ok b' := by
  obtain ⟨settled, hs⟩ := refill_ok hv hn
  exact (consume_ok_iff hv hs).mpr ha

theorem volumeAt_full (h : b.capacity * b.refillDuration ≤ (now - b.lastUpdated) * b.refillAmount) :
    volumeAt now b = b.capacity * b.refillDuration :=
  min_eq_left (h.trans (Nat.le_add_left _ _))

section Configure

variable {capacity refillAmount : U256} {refillDuration : U64}

/-- A reconfiguration settles at the old parameters and keeps at most what is there. -/
theorem configureBucket_spec (hv : Valid b)
    (h : configureBucket now capacity refillAmount refillDuration b = .ok b') :
    Valid b' ∧ b'.lastUpdated = now ∧ volume b' = b'.available * b'.refillDuration ∧
      b'.available * b.refillDuration ≤ volumeAt now b := by
  obtain ⟨_, hr, h⟩ := bind_eq_ok.mp h
  obtain ⟨settled, hs, h⟩ := bind_eq_ok.mp h
  have hset := refill_settled hv hs
  cases h
  simp only [require_eq_ok, decide_eq_true_eq] at hr
  obtain ⟨hc, hcap, hrefill, hle, hd⟩ := hr
  have hlt := refillDuration.isLt
  refine ⟨⟨?_, hle, hcap, ?_, hlt, min_le_right _ _, ?_, fun _ => rfl⟩, rfl, rfl, ?_⟩
  · exact Nat.pos_of_ne_zero hrefill
  · exact Nat.pos_of_ne_zero hd
  · exact Nat.pos_of_ne_zero hd
  · rw [← hset.volume_eq, volume, ← hset.refillDuration_eq]
    have hm := Nat.mul_le_mul_right settled.refillDuration
      (min_le_left settled.available capacity.val)
    exact hm.trans (Nat.le_add_right _ _)

end Configure

theorem valid_initializeBucket : Valid (initializeBucket now) := by
  constructor <;> simp [initializeBucket, canaryCapacity, canaryRefillAmount, canaryRefillDuration]

section Rational

def stored (b : TokenBucket) : Bucket ℚ :=
  ⟨b.capacity, min b.capacity (volume b / b.refillDuration), min_le_left _ _⟩

def earned (seconds : Nat) (b : TokenBucket) : ℚ := seconds * b.refillAmount / b.refillDuration

/-- The bucket at a point in time, everything earned since its last update included. -/
def bucketAt (now : Nat) (b : TokenBucket) : Bucket ℚ :=
  (stored b).fill (earned (now - b.lastUpdated) b)

theorem earned_nonneg (seconds : Nat) (b : TokenBucket) : 0 ≤ earned seconds b := by
  rw [earned]
  positivity

theorem level_nonneg : 0 ≤ (bucketAt now b).level := by
  have he := earned_nonneg (now - b.lastUpdated) b
  have hs : 0 ≤ (stored b).level := le_min (by positivity) (by positivity)
  exact le_min (Nat.cast_nonneg b.capacity) (add_nonneg hs he)

theorem earned_add (seconds seconds' : Nat) (b : TokenBucket) :
    earned (seconds + seconds') b = earned seconds b + earned seconds' b := by
  unfold earned
  push_cast
  ring

theorem level_bucketAt (hv : Valid b) :
    (bucketAt now b).level = (volumeAt now b : ℚ) / b.refillDuration := by
  have hd : (0 : ℚ) < b.refillDuration := by exact_mod_cast hv.duration_pos
  have hcap : (volume b : ℚ) / b.refillDuration ≤ b.capacity := by
    rw [div_le_iff₀ hd]
    exact_mod_cast volume_le hv
  have hfill : (bucketAt now b).level =
      min (b.capacity : ℚ) (volume b / b.refillDuration + earned (now - b.lastUpdated) b) := by
    simp only [bucketAt, stored, Bucket.level_fill, min_eq_right hcap]
  rw [hfill, volumeAt]
  push_cast
  rw [← min_div_div_right hd.le, mul_div_cancel_right₀ _ hd.ne', add_div]
  rfl

/-- Time passing pours in exactly what the bucket earns meanwhile. -/
theorem bucketAt_later {later : Nat} (hl : b.lastUpdated ≤ now) (h : now ≤ later) :
    bucketAt later b = (bucketAt now b).fill (earned (later - now) b) := by
  have hsplit : later - b.lastUpdated = (now - b.lastUpdated) + (later - now) := by omega
  rw [bucketAt, bucketAt, hsplit, earned_add, Bucket.fill_fill _ _ (earned_nonneg _ _)]

theorem level_of_settled (hv : Valid b) (hl : b.lastUpdated = now) :
    (bucketAt now b).level = (volume b : ℚ) / b.refillDuration := by
  have hz : now - b.lastUpdated = 0 := by omega
  rw [level_bucketAt hv, volumeAt, hz, Nat.zero_mul, Nat.add_zero, min_eq_right (volume_le hv)]

theorem level_consume (hv : Valid b) (h : consume now inbound amount b = .ok b') :
    (amount : ℚ) + (bucketAt now b').level = (bucketAt now b).level := by
  obtain ⟨hv', hl, _, _, hd, hvol, _⟩ := consume_spec hv h
  have hpos : (b.refillDuration : ℚ) ≠ 0 := by exact_mod_cast hv.duration_pos.ne'
  rw [level_of_settled hv' hl, level_bucketAt hv, hd, ← hvol]
  push_cast
  field_simp

theorem level_configure {capacity refillAmount : U256} {refillDuration : U64} (hv : Valid b)
    (h : configureBucket now capacity refillAmount refillDuration b = .ok b') :
    (bucketAt now b').level ≤ (bucketAt now b).level := by
  obtain ⟨hv', hl, hvol, hle⟩ := configureBucket_spec hv h
  have hpos : (0 : ℚ) < b.refillDuration := by exact_mod_cast hv.duration_pos
  have hpos' : (b'.refillDuration : ℚ) ≠ 0 := by exact_mod_cast hv'.duration_pos.ne'
  rw [level_of_settled hv' hl, level_bucketAt hv, hvol, le_div_iff₀ hpos]
  push_cast
  rw [mul_div_cancel_right₀ _ hpos']
  exact_mod_cast hle

end Rational

end SanBridge.Evm.Buckets
