import SanBridge.Library.TokenBucket
import SanBridge.Solana.State

namespace SanBridge.Solana.Buckets

open Library.Checked Library.TokenBucket Solana.Runtime Solana.State

def elapsed (c c' : Clock) : Nat := (c'.unixTimestamp - c.unixTimestamp).toNat

def accrued (r : RateLimiter) (c : Clock) : Nat :=
  (c.unixTimestamp.toNat - r.lastRefillTime) * r.refillPerSecond

/-- The bucket a limiter stands for at a point in time: the stored tokens and
everything accrued since. -/
def bucket (r : RateLimiter) (c : Clock) : Bucket Nat :=
  (⟨r.capacity, min r.capacity r.tokens, min_le_left _ _⟩ : Bucket Nat).fill (accrued r c)

def settled (r : RateLimiter) (c : Clock) : Nat := (bucket r c).level

structure Valid (r : RateLimiter) : Prop where
  tokens_le : r.tokens ≤ r.capacity
  capacity_le : r.capacity ≤ u64Max

variable {r r' : RateLimiter} {c c' : Clock} {n : Nat}

theorem settled_eq (hv : Valid r) : settled r c = min r.capacity (r.tokens + accrued r c) := by
  have ht := hv.tokens_le
  simp only [settled, bucket, Bucket.level_fill]
  omega

theorem settled_le_capacity : settled r c ≤ r.capacity := (bucket r c).level_le

/-- The saturating operations never show: below a capacity that fits into 64
bits a refill computes over unbounded numbers. -/
theorem refill_eq_ok (hv : Valid r) : r.refill c n = .ok r' ↔ 0 ≤ c.unixTimestamp ∧
    r' = { r with tokens := min r.capacity (r.tokens + (n + accrued r c)),
                  lastRefillTime := c.unixTimestamp.toNat } := by
  have hc := hv.capacity_le
  have htokens : (min r.capacity (saturatingAdd u64Max r.tokens
      (if r.lastRefillTime < c.unixTimestamp.toNat then
        saturatingAdd u64Max n
          (saturatingMul u64Max (c.unixTimestamp.toNat - r.lastRefillTime) r.refillPerSecond)
      else n))) = min r.capacity (r.tokens + (n + accrued r c)) := by
    by_cases hlt : r.lastRefillTime < c.unixTimestamp.toNat
    · simp only [if_pos hlt, saturatingAdd, saturatingMul, accrued]
      omega
    · have hz : c.unixTimestamp.toNat - r.lastRefillTime = 0 := by omega
      simp only [if_neg hlt, saturatingAdd, accrued, hz]
      omega
  constructor
  · intro h
    obtain ⟨now, hn, h⟩ := bind_eq_ok.mp h
    obtain ⟨hpos, rfl⟩ := Clock.currentTime_eq_ok.mp hn
    refine ⟨hpos, ?_⟩
    rw [← Except.ok.inj h, htokens]
  · rintro ⟨hpos, rfl⟩
    refine bind_eq_ok.mpr ⟨_, Clock.currentTime_eq_ok.mpr ⟨hpos, rfl⟩, ?_⟩
    dsimp only
    rw [htokens]

theorem valid_refill (hv : Valid r) (h : r.refill c n = .ok r') : Valid r' := by
  obtain ⟨_, rfl⟩ := (refill_eq_ok hv).mp h
  exact ⟨min_le_left _ _, hv.capacity_le⟩

/-- Refilling at a point in time pours the extra tokens into the bucket of that time. -/
theorem bucket_refill (hv : Valid r) (h : r.refill c n = .ok r') :
    bucket r' c = (bucket r c).fill n := by
  obtain ⟨_, rfl⟩ := (refill_eq_ok hv).mp h
  have ht := hv.tokens_le
  apply Bucket.ext
  · rfl
  · simp only [bucket, Bucket.level_fill, Bucket.capacity_fill, accrued, Nat.sub_self, Nat.zero_mul]
    omega

theorem setRate_eq_ok {rate : Nat} (hv : Valid r) : r.setRate c rate = .ok r' ↔
    0 ≤ c.unixTimestamp ∧ r' = { r with tokens := settled r c, refillPerSecond := rate,
                                        lastRefillTime := c.unixTimestamp.toNat } := by
  rw [RateLimiter.setRate, bind_eq_ok, settled_eq hv]
  constructor
  · rintro ⟨r₁, hr, h⟩
    obtain ⟨hpos, rfl⟩ := (refill_eq_ok hv).mp hr
    rw [Nat.zero_add] at h
    exact ⟨hpos, (Except.ok.inj h).symm⟩
  · rintro ⟨hpos, rfl⟩
    refine ⟨_, (refill_eq_ok hv).mpr ⟨hpos, rfl⟩, ?_⟩
    rw [Nat.zero_add]

/-- The tokens accrued so far are settled at the old rate, so a new rate never
reaches into the past. -/
theorem settled_setRate {rate : Nat} (hv : Valid r) (h : r.setRate c rate = .ok r') :
    Valid r' ∧ settled r' c = settled r c := by
  have hle : settled r c ≤ r.capacity := settled_le_capacity
  obtain ⟨_, rfl⟩ := (setRate_eq_ok hv).mp h
  have hv' : Valid { r with tokens := settled r c, refillPerSecond := rate,
                            lastRefillTime := c.unixTimestamp.toNat } := ⟨hle, hv.capacity_le⟩
  refine ⟨hv', ?_⟩
  rw [settled_eq hv']
  simp only [accrued, Nat.sub_self, Nat.zero_mul]
  omega

theorem tryConsume_eq_ok (hv : Valid r) : r.tryConsume c n = .ok r' ↔
    0 ≤ c.unixTimestamp ∧ n ≤ settled r c ∧
      r' = { r with tokens := settled r c - n, lastRefillTime := c.unixTimestamp.toNat } := by
  rw [RateLimiter.tryConsume, bind_eq_ok, settled_eq hv]
  constructor
  · rintro ⟨r₁, hr, h⟩
    obtain ⟨hpos, rfl⟩ := (refill_eq_ok hv).mp hr
    split at h
    · rename_i hle
      simp only [Nat.zero_add] at hle h
      exact ⟨hpos, hle, (Except.ok.inj h).symm⟩
    · cases h
  · rintro ⟨hpos, hle, rfl⟩
    refine ⟨_, (refill_eq_ok hv).mpr ⟨hpos, rfl⟩, ?_⟩
    simp only [Nat.zero_add]
    rw [if_pos hle]

theorem settled_tryConsume (hv : Valid r) (h : r.tryConsume c n = .ok r') :
    Valid r' ∧ n + settled r' c = settled r c := by
  obtain ⟨_, hle, rfl⟩ := (tryConsume_eq_ok hv).mp h
  have hcap : settled r c ≤ r.capacity := settled_le_capacity
  have hv' : Valid { r with tokens := settled r c - n, lastRefillTime := c.unixTimestamp.toNat } :=
    ⟨(Nat.sub_le _ _).trans hcap, hv.capacity_le⟩
  refine ⟨hv', ?_⟩
  rw [settled_eq hv']
  simp only [accrued, Nat.sub_self, Nat.zero_mul]
  omega

theorem settled_clock_le (hv : Valid r) :
    settled r c' ≤ settled r c + elapsed c c' * r.refillPerSecond := by
  have hd : c'.unixTimestamp.toNat - r.lastRefillTime ≤
      (c.unixTimestamp.toNat - r.lastRefillTime) + elapsed c c' := by
    rw [elapsed]
    omega
  have hm := Nat.mul_le_mul_right r.refillPerSecond hd
  rw [Nat.add_mul] at hm
  rw [settled_eq hv, settled_eq hv]
  unfold accrued
  omega

theorem settled_full (hv : Valid r) {elapsed : Nat} (hr : r.capacity ≤ elapsed * r.refillPerSecond)
    (ht : r.lastRefillTime + elapsed ≤ c.unixTimestamp.toNat) : settled r c = r.capacity := by
  have hd : elapsed ≤ c.unixTimestamp.toNat - r.lastRefillTime := by omega
  have hm := Nat.mul_le_mul_right r.refillPerSecond hd
  rw [settled_eq hv]
  rw [accrued]
  omega

theorem valid_default : Valid .default := ⟨le_refl _, Nat.zero_le _⟩

end SanBridge.Solana.Buckets
