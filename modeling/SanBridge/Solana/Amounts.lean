import SanBridge.Solana.State

namespace SanBridge.Solana.Amounts

open Library.CeilFee Library.Checked Solana.Runtime Solana.State

def oneInBasisPoints : Nat := maxFeeBasisPoints

def checkedAdd (width a b : Nat) : Option Nat := if a + b < 2 ^ width then some (a + b) else none

def checkedSub (a b : Nat) : Option Nat := if b ≤ a then some (a - b) else none

def checkedMul (width a b : Nat) : Option Nat := if a * b < 2 ^ width then some (a * b) else none

def checkedDiv (a b : Nat) : Option Nat := if b = 0 then none else some (a / b)

/-- `ceil_div` on `u128` -/
def ceilDiv128 (numerator denominator : Nat) : Option Nat := do
  let sum ← checkedAdd 128 numerator denominator
  checkedDiv (← checkedSub sum 1) denominator

theorem ceilDiv128_eq_some {numerator denominator q : Nat}
    (h : ceilDiv128 numerator denominator = some q) : q = ceilDiv numerator denominator := by
  simp only [ceilDiv128, checkedAdd, checkedSub, checkedDiv, Option.bind_eq_bind,
    Option.bind_eq_some_iff, Option.ite_none_right_eq_some, Option.ite_none_left_eq_some,
    Option.some.injEq] at h
  obtain ⟨_, ⟨_, rfl⟩, _, ⟨_, rfl⟩, _, rfl⟩ := h
  rfl

/-- The copied fix of the token library: the gross amount that leaves the given
net amount after the transfer fee. -/
def calculatePreFeeAmount (fee : TransferFee) (postFeeAmount : Nat) : Option Nat :=
  if fee.transferFeeBasisPoints = 0 then some postFeeAmount
  else if postFeeAmount = 0 then some 0
  else if fee.transferFeeBasisPoints = oneInBasisPoints then
    checkedAdd 64 fee.maximumFee postFeeAmount
  else do
    let numerator ← checkedMul 128 postFeeAmount oneInBasisPoints
    let denominator ← checkedSub oneInBasisPoints fee.transferFeeBasisPoints
    let rawPreFeeAmount ← ceilDiv128 numerator denominator
    if fee.maximumFee ≤ (← checkedSub rawPreFeeAmount postFeeAmount) then
      checkedAdd 64 postFeeAmount fee.maximumFee
    else if rawPreFeeAmount < 2 ^ 64 then some rawPreFeeAmount
    else none

def calculateFee (preFeeAmount defaultFeeBps : Nat) (feeBps : Option Nat) : Nat :=
  let finalFeeBps := feeBps.getD defaultFeeBps
  if finalFeeBps = 0 ∨ preFeeAmount = 0 then 0
  else preFeeAmount * finalFeeBps / oneInBasisPoints % 2 ^ 64

def getPostFeeAmountLd (m : Mint) (epoch amountLd : Nat) : Result Nat :=
  match m.transferFeeConfig with
  | some cfg => ofOption .invalidArgument ((cfg.getEpochFee epoch).calculatePostFeeAmount amountLd)
  | none => .ok amountLd

def getPreFeeAmountLd (m : Mint) (epoch amountLd : Nat) : Result Nat :=
  match m.transferFeeConfig with
  | some cfg => ofOption .invalidArgument (calculatePreFeeAmount (cfg.getEpochFee epoch) amountLd)
  | none => .ok amountLd

/-- `(amount_sent_ld, amount_received_ld, oft_fee_ld)` -/
def computeFeeAndAdjustAmount (amountLd : Nat) (store : OFTStore) (m : Mint) (epoch : Nat)
    (feeBps : Option Nat) : Result (Nat × Nat × Nat) :=
  match store.oftType with
  | .adapter => do
    let postAmountLd ← getPostFeeAmountLd m epoch amountLd
    let amountReceivedLd := store.removeDust postAmountLd
    let amountSentLd ← getPreFeeAmountLd m epoch amountReceivedLd
    let oftFeeLd := store.removeDust (calculateFee amountReceivedLd store.defaultFeeBps feeBps)
    let amountReceivedLd ← sub .overflow amountReceivedLd oftFeeLd
    .ok (amountSentLd, amountReceivedLd, oftFeeLd)
  | .native => do
    let amountSentLd := store.removeDust amountLd
    let oftFeeLd := store.removeDust (calculateFee amountSentLd store.defaultFeeBps feeBps)
    let amountReceivedLd ← sub .overflow amountSentLd oftFeeLd
    .ok (amountSentLd, amountReceivedLd, oftFeeLd)

theorem getPostFeeAmountLd_eq (m : Mint) (epoch amountLd : Nat) :
    getPostFeeAmountLd m epoch amountLd = .ok (amountLd - m.epochFee epoch amountLd) := by
  rw [getPostFeeAmountLd, Mint.epochFee]
  cases m.transferFeeConfig with
  | none => rfl
  | some cfg => simp [TransferFee.calculatePostFeeAmount_eq, ofOption]

theorem calculateFee_of_ne_zero (fee : TransferFee) {amount : Nat}
    (hb : fee.transferFeeBasisPoints ≠ 0) (ha : amount ≠ 0) :
    fee.calculateFee amount =
      Library.CeilFee.fee maxFeeBasisPoints fee.transferFeeBasisPoints fee.maximumFee amount := by
  rw [TransferFee.calculateFee, if_neg (by simp [hb, ha])]

theorem calculatePreFeeAmount_post {fee : TransferFee} {net gross : Nat}
    (h : calculatePreFeeAmount fee net = some gross) : gross - fee.calculateFee gross = net := by
  unfold calculatePreFeeAmount at h
  have hle := fee.bps_le
  split_ifs at h with hb hn hfull
  · cases h
    simp [TransferFee.calculateFee, hb]
  · cases h
    simp [TransferFee.calculateFee, hn]
  · simp only [checkedAdd, Option.ite_none_right_eq_some, Option.some.injEq] at h
    obtain ⟨_, rfl⟩ := h
    rw [calculateFee_of_ne_zero fee hb (by omega), hfull]
    exact sub_fee_of_full (by decide) net
  · have hlt : fee.transferFeeBasisPoints < maxFeeBasisPoints := by
      unfold oneInBasisPoints at hfull
      omega
    simp only [checkedMul, checkedSub, Option.bind_eq_bind, Option.bind_eq_some_iff,
      Option.ite_none_right_eq_some, Option.some.injEq] at h
    obtain ⟨_, ⟨_, rfl⟩, _, ⟨_, rfl⟩, raw, hraw, _, ⟨hge, rfl⟩, h⟩ := h
    have hr := ceilDiv128_eq_some hraw
    unfold oneInBasisPoints at hr
    subst hr
    split_ifs at h with hcap hfits
    · -- the fee of the uncapped gross amount reaches the maximum fee
      simp only [checkedAdd, Option.ite_none_right_eq_some, Option.some.injEq] at h
      obtain ⟨_, rfl⟩ := h
      rw [calculateFee_of_ne_zero fee hb (by omega)]
      exact sub_fee_of_capped hlt (by omega)
    · cases h
      rw [calculateFee_of_ne_zero fee hb (by omega)]
      exact sub_fee_of_gross hlt (by omega)

theorem getPreFeeAmountLd_post {m : Mint} {epoch net gross : Nat}
    (h : getPreFeeAmountLd m epoch net = .ok gross) : gross - m.epochFee epoch gross = net := by
  unfold getPreFeeAmountLd at h
  rw [Mint.epochFee]
  cases hc : m.transferFeeConfig with
  | none =>
    rw [hc] at h
    cases h
    rfl
  | some cfg =>
    rw [hc] at h
    exact calculatePreFeeAmount_post (ofOption_eq_ok.mp h)

theorem ceilDiv128_of_lt {numerator denominator : Nat} (hd : 0 < denominator)
    (h : numerator + denominator < 2 ^ 128) :
    ceilDiv128 numerator denominator = some (ceilDiv numerator denominator) := by
  have hsub : 1 ≤ numerator + denominator := by omega
  have hne : denominator ≠ 0 := by omega
  simp only [ceilDiv128, checkedAdd, if_pos h, checkedSub, Option.bind_eq_bind, Option.bind_some, if_pos hsub,
    checkedDiv, if_neg hne]
  rfl

/-- What the token program leaves of an amount has a gross amount, and no larger one. -/
theorem calculatePreFeeAmount_ok {fee : TransferFee} {net amount : Nat} (ha : amount < 2 ^ 64)
    (hn : net + fee.calculateFee amount ≤ amount) :
    ∃ gross, calculatePreFeeAmount fee net = some gross ∧ gross ≤ amount := by
  have hle := fee.bps_le
  rw [calculatePreFeeAmount]
  split_ifs with hb hz hfull
  · exact ⟨net, rfl, by omega⟩
  · exact ⟨0, rfl, Nat.zero_le _⟩
  · have hpos : amount ≠ 0 := by omega
    rw [calculateFee_of_ne_zero fee hb hpos, hfull] at hn
    have hcap : fee.maximumFee.val + net ≤ amount := by
      have hceil := (le_ceilDiv_iff (n := amount * oneInBasisPoints) (d := oneInBasisPoints) (by decide)
        (k := amount)).mpr (by unfold oneInBasisPoints maxFeeBasisPoints; omega)
      change net + min (ceilDiv (amount * oneInBasisPoints) oneInBasisPoints) fee.maximumFee ≤ amount at hn
      omega
    exact ⟨_, if_pos (by omega), hcap⟩
  · have hpos : amount ≠ 0 := by omega
    have hlt : fee.transferFeeBasisPoints < oneInBasisPoints := by
      rw [oneInBasisPoints] at hfull ⊢
      omega
    rw [calculateFee_of_ne_zero fee hb hpos] at hn
    obtain ⟨hcapped, hgross⟩ := chosen_gross_le hlt hn
    have hraw := le_gross hlt net
    have hnet : net < 2 ^ 64 := by omega
    have hden : 0 < oneInBasisPoints - fee.transferFeeBasisPoints := by omega
    have hnum : net * oneInBasisPoints + oneInBasisPoints < 2 ^ 128 := by
      have hm := Nat.mul_le_mul_right oneInBasisPoints hnet.le
      have hone : oneInBasisPoints = 10000 := rfl
      omega
    rw [checkedMul, if_pos (by omega), checkedSub, if_pos hlt.le]
    simp only [Option.bind_eq_bind, Option.bind_some]
    rw [ceilDiv128_of_lt hden (by omega), Option.bind_some, checkedSub, if_pos hraw, Option.bind_some]
    by_cases hcap : fee.maximumFee ≤ ceilDiv (net * oneInBasisPoints)
        (oneInBasisPoints - fee.transferFeeBasisPoints) - net
    · rw [if_pos hcap]
      have hfits := hcapped hcap
      exact ⟨_, if_pos (by omega), hfits⟩
    · rw [if_neg hcap]
      have hfits := hgross (by omega)
      exact ⟨_, if_pos (by omega), hfits⟩

theorem getPreFeeAmountLd_ok {m : Mint} {epoch net amount : Nat} (ha : amount < 2 ^ 64)
    (hn : net + m.epochFee epoch amount ≤ amount) :
    ∃ gross, getPreFeeAmountLd m epoch net = .ok gross ∧ gross ≤ amount := by
  unfold Mint.epochFee at hn
  rw [getPreFeeAmountLd]
  cases hc : m.transferFeeConfig with
  | none => exact ⟨net, rfl, by omega⟩
  | some cfg =>
    rw [hc] at hn
    obtain ⟨gross, hg, hle⟩ := calculatePreFeeAmount_ok ha hn
    exact ⟨gross, ofOption_eq_ok.mpr hg, hle⟩

theorem calculateFee_eq {amount defaultFeeBps : Nat} {feeBps : Option Nat} (ha : amount < 2 ^ 64)
    (hf : feeBps.getD defaultFeeBps < maxFeeBasisPoints) :
    calculateFee amount defaultFeeBps feeBps = amount * feeBps.getD defaultFeeBps / oneInBasisPoints ∧
      (0 < amount → calculateFee amount defaultFeeBps feeBps < amount) := by
  have hlt : 0 < amount → amount * feeBps.getD defaultFeeBps / oneInBasisPoints < amount := by
    intro hpos
    exact Nat.div_lt_of_lt_mul (by rw [Nat.mul_comm oneInBasisPoints]; exact Nat.mul_lt_mul_of_pos_left hf hpos)
  unfold calculateFee
  dsimp only
  split_ifs with hz
  · refine ⟨?_, fun h => h⟩
    cases hz with
    | inl hz => rw [hz, Nat.mul_zero, Nat.zero_div]
    | inr hz => rw [hz, Nat.zero_mul, Nat.zero_div]
  · have hpos : 0 < amount := by omega
    have hfit := hlt hpos
    rw [Nat.mod_eq_of_lt (by omega)]
    exact ⟨rfl, fun _ => hfit⟩

variable {amountLd epoch sent received oftFee : Nat} {store : OFTStore} {m : Mint} {feeBps : Option Nat}

/-- In Adapter mode the escrow receives the credited amount and the application
fee, whatever the token program withholds from the transfer. -/
theorem computeFee_adapter (ht : store.oftType = .adapter)
    (h : computeFeeAndAdjustAmount amountLd store m epoch feeBps = .ok (sent, received, oftFee)) :
    sent - m.epochFee epoch sent = received + oftFee ∧ store.ld2sdRate ∣ received := by
  rw [computeFeeAndAdjustAmount, ht] at h
  obtain ⟨post, _, h⟩ := bind_eq_ok.mp h
  obtain ⟨gross, hg, h⟩ := bind_eq_ok.mp h
  obtain ⟨net, hn, h⟩ := bind_eq_ok.mp h
  obtain ⟨hle, rfl⟩ := sub_eq_ok.mp hn
  cases h
  have hp := getPreFeeAmountLd_post hg
  refine ⟨by omega, Nat.dvd_sub (store.dvd_removeDust _) (store.dvd_removeDust _)⟩

section Exact

/-- What the token program leaves of an amount; Native stores do not ask it. -/
def netAmount (store : OFTStore) (m : Mint) (epoch amountLd : Nat) : Nat :=
  match store.oftType with
  | .adapter => amountLd - m.epochFee epoch amountLd
  | .native => amountLd

/-- The amounts of a transfer, to the unit. -/
structure ExactAmounts (amountLd : Nat) (store : OFTStore) (m : Mint) (epoch bps sent received oftFee : Nat) :
    Prop where
  sent_le : sent ≤ amountLd
  net_eq : received + oftFee = store.removeDust (netAmount store m epoch amountLd)
  adapter : store.oftType = .adapter → getPostFeeAmountLd m epoch sent = .ok (received + oftFee)
  native : store.oftType = .native → sent = received + oftFee
  fee_eq : oftFee = store.removeDust ((received + oftFee) * bps / oneInBasisPoints)
  dvd_received : store.ld2sdRate ∣ received
  dvd_fee : store.ld2sdRate ∣ oftFee
  ld2sd_eq : store.ld2sd received * store.ld2sdRate = received
  zero : received = 0 → store.removeDust (netAmount store m epoch amountLd) = 0

variable {bps net gross : Nat}

theorem ExactAmounts.credited_le (e : ExactAmounts amountLd store m epoch bps sent received oftFee) :
    received + oftFee ≤ sent := by
  cases ht : store.oftType with
  | adapter =>
    have hpost := e.adapter ht
    rw [getPostFeeAmountLd_eq, Except.ok.injEq] at hpost
    omega
  | native => rw [e.native ht]

theorem ExactAmounts.received_eq_zero_iff (e : ExactAmounts amountLd store m epoch bps sent received oftFee) :
    received = 0 ↔ netAmount store m epoch amountLd < store.ld2sdRate := by
  have hzero : store.removeDust (netAmount store m epoch amountLd) = 0 ↔
      netAmount store m epoch amountLd < store.ld2sdRate := store.removeDust_eq_zero_iff
  constructor
  · intro h
    exact hzero.mp (e.zero h)
  · intro h
    have hnet := e.net_eq
    rw [hzero.mpr h] at hnet
    omega

theorem oftFee_exact (hn : net < 2 ^ 64) (hd : store.ld2sdRate ∣ net)
    (hf : feeBps.getD store.defaultFeeBps < maxFeeBasisPoints) :
    ∃ received, sub (ε := ProgramError) .overflow net
        (store.removeDust (calculateFee net store.defaultFeeBps feeBps)) = .ok received ∧
      received + store.removeDust (calculateFee net store.defaultFeeBps feeBps) = net ∧
      store.ld2sdRate ∣ received ∧ (received = 0 → net = 0) := by
  obtain ⟨_, hlt⟩ := calculateFee_eq hn hf
  have hdust := store.removeDust_le (calculateFee net store.defaultFeeBps feeBps)
  have hdvd := store.dvd_removeDust (calculateFee net store.defaultFeeBps feeBps)
  have hle : store.removeDust (calculateFee net store.defaultFeeBps feeBps) ≤ net := by
    by_cases hz : net = 0
    · have hfee : calculateFee net store.defaultFeeBps feeBps = 0 := if_pos (.inr hz)
      omega
    · have := hlt (by omega)
      omega
  refine ⟨_, sub_eq_ok.mpr ⟨hle, rfl⟩, by omega, Nat.dvd_sub hd hdvd, fun hz => ?_⟩
  by_contra hne
  have := hlt (by omega)
  omega

theorem computeFee_exact (m : Mint) (epoch : Nat) (ha : amountLd < 2 ^ 64)
    (hf : feeBps.getD store.defaultFeeBps < maxFeeBasisPoints) :
    ∃ sent received oftFee,
      computeFeeAndAdjustAmount amountLd store m epoch feeBps = .ok (sent, received, oftFee) ∧
      ExactAmounts amountLd store m epoch (feeBps.getD store.defaultFeeBps) sent received oftFee := by
  have hdust := store.removeDust_le (netAmount store m epoch amountLd)
  have hdvd := store.dvd_removeDust (netAmount store m epoch amountLd)
  have hnet : netAmount store m epoch amountLd ≤ amountLd := by
    rw [netAmount]
    split
    · exact Nat.sub_le _ _
    · exact le_rfl
  have hlt : store.removeDust (netAmount store m epoch amountLd) < 2 ^ 64 := by omega
  obtain ⟨received, hsub, hsum, hreceived, hzero⟩ := oftFee_exact hlt hdvd hf
  obtain ⟨hfee, _⟩ := calculateFee_eq hlt hf
  -- the gross amount of the de-dusted amount, in either mode
  obtain ⟨sent, hcompute, hle, hadapter, hnative⟩ : ∃ sent,
      computeFeeAndAdjustAmount amountLd store m epoch feeBps = .ok (sent, received,
        store.removeDust (calculateFee (store.removeDust (netAmount store m epoch amountLd))
          store.defaultFeeBps feeBps)) ∧ sent ≤ amountLd ∧
      (store.oftType = .adapter →
        getPostFeeAmountLd m epoch sent = .ok (store.removeDust (netAmount store m epoch amountLd))) ∧
      (store.oftType = .native → sent = store.removeDust (netAmount store m epoch amountLd)) := by
    cases ht : store.oftType with
    | adapter =>
      have hn : netAmount store m epoch amountLd = amountLd - m.epochFee epoch amountLd := by rw [netAmount, ht]
      have hfits := m.epochFee_le epoch amountLd
      have hgross : store.removeDust (netAmount store m epoch amountLd) + m.epochFee epoch amountLd ≤ amountLd := by
        omega
      obtain ⟨sent, hg, hle⟩ := getPreFeeAmountLd_ok ha hgross
      refine ⟨sent, ?_, hle, fun _ => ?_, nofun⟩
      · rw [computeFeeAndAdjustAmount, ht]
        dsimp only
        rw [getPostFeeAmountLd_eq, ok_bind, ← hn, hg, ok_bind, hsub, ok_bind]
      · rw [getPostFeeAmountLd_eq, getPreFeeAmountLd_post hg]
    | native =>
      have hn : netAmount store m epoch amountLd = amountLd := by rw [netAmount, ht]
      refine ⟨store.removeDust amountLd, ?_, store.removeDust_le amountLd, nofun, fun _ => by rw [hn]⟩
      rw [computeFeeAndAdjustAmount, ht]
      dsimp only
      rw [hn] at hsub ⊢
      rw [hsub, ok_bind]
  refine ⟨sent, received, _, hcompute, hle, hsum, fun ht => ?_, fun ht => ?_, ?_, hreceived,
    store.dvd_removeDust _, ?_, hzero⟩
  · rw [hadapter ht, hsum]
  · rw [hnative ht, hsum]
  · rw [hsum, hfee]
  · exact Nat.div_mul_cancel hreceived

end Exact

end SanBridge.Solana.Amounts
