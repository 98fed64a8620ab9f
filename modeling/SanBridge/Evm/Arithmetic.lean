import SanBridge.Evm.Limits

namespace SanBridge.Evm.Arithmetic

open Library.Checked Library.Runs Library.TokenBucket
open Evm.Runtime Evm.Contract Evm.Program Evm.Buckets Evm.Limits

variable {t now : Nat} {b b' b₁ : TokenBucket} {amount : Nat} {inbound : Bool}

section Meter

/-- The meter a bucket stands for, in fractions of one refill duration. -/
def meter (hv : Valid b) : Meter ℕ :=
  ⟨⟨b.capacity * b.refillDuration, volume b, volume_le hv⟩, b.refillAmount, b.lastUpdated⟩

theorem level_meter (hv : Valid b) : (meter hv).level now = volumeAt now b := by
  rw [Meter.level, Meter.bucketAt, Bucket.level_fill, smul_eq_mul]
  rfl

theorem meter_refill (hv : Valid b) (hv' : Valid b') (h : refill now b = .ok b') :
    meter hv' = (meter hv).settle now := by
  have hs := refill_settled hv h
  apply Meter.ext
  · apply Bucket.ext
    · change b'.capacity * b'.refillDuration = b.capacity * b.refillDuration
      rw [hs.capacity_eq, hs.refillDuration_eq]
    · change volume b' = (meter hv).level now
      rw [level_meter, hs.volume_eq]
  · exact hs.refillAmount_eq
  · exact hs.lastUpdated_eq

theorem volumeAt_refill (hv : Valid b) (hl : b.lastUpdated ≤ t) (ht : t ≤ now) (h : refill t b = .ok b₁) :
    volumeAt now b₁ = volumeAt now b := by
  have hv₁ := (refill_settled hv h).valid
  have hm : (meter hv₁).settle now = (meter hv).settle now := by
    rw [meter_refill hv hv₁ h]
    exact Meter.settle_settle hl ht
  have hlevel := congrArg (fun m : Meter ℕ => m.bucket.level) hm
  rw [← level_meter hv, ← level_meter hv₁]
  exact hlevel

theorem parts_eq (hv : Valid b) :
    b.available = volume b / b.refillDuration ∧ b.remainder = volume b % b.refillDuration := by
  have hd := hv.duration_pos
  have hr := hv.remainder_lt
  have hvol : volume b = b.remainder + b.refillDuration * b.available := by
    rw [volume, Nat.mul_comm, Nat.add_comm]
  rw [hvol, Nat.add_mul_div_left _ _ hd, Nat.add_mul_mod_self_left, Nat.div_eq_of_lt hr, Nat.mod_eq_of_lt hr]
  exact ⟨(Nat.zero_add _).symm, rfl⟩

theorem Settled.eq_of_volume {b₂ b₂' : TokenBucket} (h : Settled now b b') (h₂ : Settled now b₂ b₂')
    (hc : b₂.capacity = b.capacity) (hr : b₂.refillAmount = b.refillAmount)
    (hd : b₂.refillDuration = b.refillDuration) (hvol : volumeAt now b₂ = volumeAt now b) : b₂' = b' := by
  have hparts := parts_eq h.valid
  have hparts₂ := parts_eq h₂.valid
  rw [h.volume_eq, h.refillDuration_eq] at hparts
  rw [h₂.volume_eq, h₂.refillDuration_eq, hvol, hd] at hparts₂
  obtain ⟨c, a, r, d, l, m⟩ := b'
  obtain ⟨c₂, a₂, r₂, d₂, l₂, m₂⟩ := b₂'
  simp only [TokenBucket.mk.injEq]
  exact ⟨h₂.capacity_eq.trans (hc.trans h.capacity_eq.symm), hparts₂.1.trans hparts.1.symm,
    h₂.refillAmount_eq.trans (hr.trans h.refillAmount_eq.symm),
    h₂.refillDuration_eq.trans (hd.trans h.refillDuration_eq.symm),
    h₂.lastUpdated_eq.trans h.lastUpdated_eq.symm, hparts₂.2.trans hparts.2.symm⟩

end Meter

section Polling

theorem available_of_full (hv : Valid b) (h : volume b = b.capacity * b.refillDuration) :
    b.available = b.capacity := by
  rw [(parts_eq hv).1, h, Nat.mul_div_cancel _ hv.duration_pos]

theorem refill_ok_of_later (hv : Valid b) (ht : t ≤ now) (h : refill now b = .ok b') :
    ∃ b₁, refill t b = .ok b₁ := by
  rw [refill_ok_iff hv]
  cases (refill_ok_iff hv).mp ⟨b', h⟩ with
  | inl h =>
    left
    cases h with
    | inl h => exact .inl (ht.trans h)
    | inr h => exact .inr h
  | inr h =>
    right
    have hm := Nat.mul_le_mul_right b.refillAmount (Nat.sub_le_sub_right ht b.lastUpdated)
    exact (Nat.div_le_div_right (Nat.add_le_add_right hm _)).trans_lt h

theorem refill_ok_of_earlier (hv : Valid b) (hl : b.lastUpdated ≤ t) (ht : t ≤ now)
    (h₁ : refill t b = .ok b₁) (h : refill now b = .ok b') : ∃ b₂, refill now b₁ = .ok b₂ := by
  have hs := refill_settled hv h₁
  have hvol := hs.volume_eq
  have hfull : volume b₁ = b.capacity * b.refillDuration → Idle now b₁ := by
    intro hf
    rw [← hs.capacity_eq, ← hs.refillDuration_eq] at hf
    exact .inr (available_of_full hs.valid hf)
  rw [refill_ok_iff hs.valid]
  by_cases hc : b.capacity * b.refillDuration ≤ volume b + (t - b.lastUpdated) * b.refillAmount
  · exact .inl (hfull (hvol.trans (min_eq_left hc)))
  rw [volumeAt, min_eq_right (by omega)] at hvol
  cases (refill_ok_iff hv).mp ⟨b', h⟩ with
  | inl h =>
    left
    cases h with
    | inl h =>
      left
      rw [hs.lastUpdated_eq]
      omega
    | inr h =>
      have hle : volume b = b.capacity * b.refillDuration := by rw [volume, hv.full h, h, Nat.add_zero]
      omega
  | inr h =>
    right
    -- the carried fraction is part of what has been earned in between
    have hrem : b₁.remainder ≤ (t - b.lastUpdated) * b.refillAmount + b.remainder := by
      have hsplit : volume b + (t - b.lastUpdated) * b.refillAmount =
          ((t - b.lastUpdated) * b.refillAmount + b.remainder) + b.available * b.refillDuration := by
        rw [volume]
        omega
      rw [(parts_eq hs.valid).2, hvol, hs.refillDuration_eq, hsplit, Nat.add_mul_mod_self_right]
      exact Nat.mod_le _ _
    have htime : (now - b.lastUpdated) * b.refillAmount =
        (now - t) * b.refillAmount + (t - b.lastUpdated) * b.refillAmount := by
      rw [← Nat.add_mul]
      congr 1
      omega
    rw [Fits, hs.lastUpdated_eq, hs.refillAmount_eq, hs.refillDuration_eq]
    refine (Nat.div_le_div_right ?_).trans_lt h
    omega

theorem refill_refill (hv : Valid b) (hl : b.lastUpdated ≤ t) (ht : t ≤ now) (h : refill now b = .ok b') :
    ∃ b₁, refill t b = .ok b₁ ∧ refill now b₁ = .ok b' := by
  obtain ⟨b₁, h₁⟩ := refill_ok_of_later hv ht h
  obtain ⟨b₂, h₂⟩ := refill_ok_of_earlier hv hl ht h₁ h
  have hs₁ := refill_settled hv h₁
  have heq : b₂ = b' := Settled.eq_of_volume (refill_settled hv h) (refill_settled hs₁.valid h₂) hs₁.capacity_eq
    hs₁.refillAmount_eq hs₁.refillDuration_eq (volumeAt_refill hv hl ht h₁)
  exact ⟨b₁, h₁, heq ▸ h₂⟩

theorem consume_zero : consume now inbound 0 b = refill now b := by
  cases h : refill now b with
  | error e => rw [consume, h, error_bind]
  | ok b₁ => exact consume_eq_ok.mpr ⟨b₁, h, Nat.zero_le _, rfl⟩

/-- Someone refills a bucket, or takes nothing out of it. -/
inductive Poll
  | look
  | takeNothing (inbound : Bool)

def Poll.exec (now : Nat) (b : TokenBucket) : Poll → Result TokenBucket
  | .look => refill now b
  | .takeNothing inbound => consume now inbound 0 b

theorem Poll.exec_eq (poll : Poll) : poll.exec now b = refill now b := by
  cases poll with
  | look => rfl
  | takeNothing inbound => exact consume_zero

def pollAll (b : TokenBucket) (polls : List (Nat × Poll)) : Result TokenBucket :=
  polls.foldlM (fun b p => p.2.exec p.1 b) b

theorem refill_pollAll (hv : Valid b) {polls : List (Nat × Poll)}
    (hp : (b.lastUpdated :: polls.map Prod.fst).Pairwise (· ≤ ·)) (hn : ∀ p ∈ polls, p.1 ≤ now)
    (h : refill now b = .ok b') : ∃ b₁, pollAll b polls = .ok b₁ ∧ refill now b₁ = .ok b' := by
  induction polls generalizing b with
  | nil => exact ⟨b, rfl, h⟩
  | cons p polls ih =>
    rw [List.map_cons, List.pairwise_cons] at hp
    obtain ⟨hle, hp⟩ := hp
    obtain ⟨b₁, h₁, h⟩ := refill_refill hv (hle p.1 List.mem_cons_self) (hn p List.mem_cons_self) h
    have hs := refill_settled hv h₁
    rw [← hs.lastUpdated_eq] at hp
    obtain ⟨b₂, h₂, h⟩ := ih hs.valid hp (fun q hq => hn q (List.mem_cons_of_mem _ hq)) h
    refine ⟨b₂, ?_, h⟩
    rw [pollAll, List.foldlM_cons, Poll.exec_eq, h₁, ok_bind]
    exact h₂

end Polling

section Runs

variable {s s' : Chain} {l : Event}

theorem step_now (h : BucketMove inbound s l s') : s.now ≤ s'.now := by
  cases h with
  | idle hn _ _ => exact hn.ge
  | consume hn _ => exact hn.ge
  | configure hn _ _ _ _ _ _ => exact hn.ge
  | time now _ hle hs =>
    subst hs
    exact hle

/-- No event but a reconfiguration or an amount shows in a later refill. -/
theorem refill_step (hv : BucketOk inbound s) (hm : BucketMove inbound s l s')
    (hl : reconfigures inbound l = false) (hf : flow inbound (s, l) = 0) (ht : s'.now ≤ now)
    (h : refill now (bucketOf inbound s) = .ok b') : refill now (bucketOf inbound s') = .ok b' := by
  cases hm with
  | idle _ hb _ => rwa [hb]
  | consume hn hb =>
    rw [hf, consume_zero] at hb
    obtain ⟨b₁, h₁, h⟩ := refill_refill hv.valid hv.updated (hn ▸ ht) h
    obtain rfl : b₁ = bucketOf inbound s' := Except.ok.inj (h₁.symm.trans hb)
    exact h
  | configure _ _ hl' _ _ _ _ =>
    rw [hl] at hl'
    cases hl'
  | time now' _ _ hs =>
    subst hs
    cases inbound <;> exact h

theorem refill_run {tr : List (Chain × Event)} (hr : Run Step s tr s') (hv : BucketOk inbound s)
    (hl : ∀ p ∈ tr, reconfigures inbound p.2 = false ∧ flow inbound p = 0) (ht : s'.now ≤ now)
    (h : refill now (bucketOf inbound s) = .ok b') : refill now (bucketOf inbound s') = .ok b' := by
  induction hr with
  | nil s => exact h
  | @cons s t u l tr hs hr ih =>
    have hm : BucketMove inbound s l t := bucket_step hs
    obtain ⟨hl₀, hf⟩ := hl _ List.mem_cons_self
    have hmono : t.now ≤ u.now := by
      refine hr.invariant (I := fun v => t.now ≤ v.now) ?_ (le_refl _)
      intro v l w hle hvw
      have hmove : BucketMove inbound v l w := bucket_step hvw
      exact hle.trans (step_now hmove)
    have hstep := refill_step hv hm hl₀ hf (hmono.trans ht) h
    exact ih (hm.bucketOk hv) (fun p hp => hl p (List.mem_cons_of_mem _ hp)) ht hstep

end Runs

section Exact

/-- The bucket the contract keeps is the ideal one: a refill adds exactly what the
time is worth, amounts are covered or not by the exact volume, and nobody who
looks at the bucket or takes nothing out of it changes what it will hold. -/
structure Exact (b : TokenBucket) : Prop where
  refills : ∀ now b', refill now b = .ok b' → b'.capacity = b.capacity ∧ b'.refillAmount = b.refillAmount ∧
    b'.refillDuration = b.refillDuration ∧
    volume b' = min (b.capacity * b.refillDuration) (volume b + (now - b.lastUpdated) * b.refillAmount)
  returns : ∀ now < 2 ^ 192, ∃ b', refill now b = .ok b'
  polls : ∀ polls now b', (b.lastUpdated :: polls.map Prod.fst).Pairwise (· ≤ ·) → (∀ p ∈ polls, p.1 ≤ now) →
    refill now b = .ok b' → ∃ b₁, pollAll b polls = .ok b₁ ∧ refill now b₁ = .ok b'
  consumes : ∀ now b' inbound amount, refill now b = .ok b' →
    ((∃ b₁, consume now inbound amount b = .ok b₁) ↔ amount * b.refillDuration ≤ volume b')

theorem exact_of_valid (hv : Valid b) : Exact b where
  refills now b' h := by
    have hs := refill_settled hv h
    exact ⟨hs.capacity_eq, hs.refillAmount_eq, hs.refillDuration_eq, hs.volume_eq⟩
  returns now hn := refill_ok hv hn
  polls polls now b' hp hn h := refill_pollAll hv hp hn h
  consumes now b' inbound amount h := by
    rw [consume_ok_iff hv h, (refill_settled hv h).volume_eq]

variable {s : Chain}

/-- Between two reconfigurations a bucket is the exact token bucket, whoever polls
it and however many amounts of zero are sent through it. -/
theorem bucket_exact (h : Reachable s) (inbound : Bool) :
    Exact (bucketOf inbound s) ∧
      ∀ tr t now b', Run Step s tr t → (∀ p ∈ tr, reconfigures inbound p.2 = false ∧ flow inbound p = 0) →
        t.now ≤ now → refill now (bucketOf inbound s) = .ok b' → refill now (bucketOf inbound t) = .ok b' := by
  have hv : BucketOk inbound s := bucketOk_reachable h
  refine ⟨exact_of_valid hv.valid, fun tr t now b' hr hl ht hb => ?_⟩
  exact refill_run hr hv hl ht hb

/-- The bucket that has been drawn on, with a fraction to carry on. -/
theorem bucket_exact_drawn : bucketOf true ⟨7, drawnToken⟩ = drawnBucket ∧ Exact (bucketOf true ⟨7, drawnToken⟩) :=
  ⟨rfl, (bucket_exact reachable_drawn true).1⟩

end Exact

section Sound

structure Sound (now : Nat) (b : TokenBucket) : Prop where
  preview : ∃ r, preview now b = .ok r
  refill : ∃ b', refill now b = .ok b'
  view : ∃ v, bucketView now b = .ok v
  consume : ∀ v inbound amount e, bucketView now b = .ok v →
    (consume now inbound amount b = .error e ↔
      v.available < amount ∧ e = .bridgeRateLimitExceeded inbound amount v.available)
  configure : ∀ capacity refillAmount refillDuration e,
    configureBucket now capacity refillAmount refillDuration b = .error e → e = .invalidRateLimitConfiguration
  admits : ∀ inbound amount b', Contract.consume now inbound amount b = .ok b' → amount < 2 ^ 64

theorem bucketView_available {v : BucketView} (hs : refill now b = .ok b') (h : bucketView now b = .ok v) :
    v.available = b'.available := by
  obtain ⟨⟨available, remainder⟩, hp, hs⟩ := bind_eq_ok.mp hs
  obtain ⟨_, hp', h⟩ := bind_eq_ok.mp h
  cases hp.symm.trans hp'
  cases hs
  cases h
  rfl

theorem consume_eq_error {e : EvmError} (hs : refill now b = .ok b') :
    consume now inbound amount b = .error e ↔
      b'.available < amount ∧ e = .bridgeRateLimitExceeded inbound amount b'.available := by
  rw [consume, hs, ok_bind]
  by_cases h : amount ≤ b'.available
  · simp [require, h, ok_bind]
  · have hlt : b'.available < amount := by omega
    simp [require, h, hlt, error_bind, eq_comm]

theorem configureBucket_error {capacity refillAmount : U256} {refillDuration : U64} {e : EvmError}
    (hs : refill now b = .ok b') (h : configureBucket now capacity refillAmount refillDuration b = .error e) :
    e = .invalidRateLimitConfiguration := by
  rw [configureBucket, hs, ok_bind, require] at h
  split at h
  · cases h
  · cases h
    rfl

theorem sound_of_valid (hv : Valid b) (hn : now < 2 ^ 192) : Sound now b := by
  obtain ⟨b', hs⟩ := refill_ok hv hn
  obtain ⟨r, hp⟩ := (preview_ok_iff hv).mpr (.inr (fits_of_lt hv hn))
  exact {
    preview := ⟨r, hp⟩
    refill := ⟨b', hs⟩
    view := ⟨_, bind_eq_ok.mpr ⟨r, hp, rfl⟩⟩
    consume := by
      intro v inbound amount e hview
      rw [bucketView_available hs hview]
      exact consume_eq_error hs
    configure := fun _ _ _ _ h => configureBucket_error hs h
    admits := by
      intro inbound amount b₁ h
      obtain ⟨_, _, _, _, _, _, hle⟩ := consume_spec hv h
      have hcap := hv.capacity_le
      omega }

variable {s₀ s : Chain} {tr : List (Chain × Event)}

/-- No bucket is ever in a state in which its arithmetic fails. -/
theorem bucket_never_bricked (hi : Initial s₀) (hr : Run Step s₀ tr s) (hn : s.now < 2 ^ 64) (inbound : Bool) :
    Valid (bucketOf inbound s) ∧ (bucketOf inbound s).lastUpdated ≤ s.now ∧
      Sound s.now (bucketOf inbound s) := by
  have hv : BucketOk inbound s := bucketOk_reachable ⟨s₀, hi, tr, hr⟩
  exact ⟨hv.valid, hv.updated, sound_of_valid hv.valid (hn.trans (by decide))⟩

theorem bucket_never_bricked_drawn : Sound 7 drawnBucket :=
  (bucket_never_bricked initial_deployed run_drawn (by decide) true).2.2

end Sound

end SanBridge.Evm.Arithmetic
