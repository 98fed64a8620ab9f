import Mathlib.Order.Bounds.Defs
import SanBridge.Solana.Amounts

namespace SanBridge.Solana.Inversion

open Library.CeilFee Solana.Runtime Solana.Amounts

variable {fee : TransferFee} {net gross amount : Nat}

def post (fee : TransferFee) (amount : Nat) : Nat := amount - fee.calculateFee amount

section Steps

/-- The steps of the general case on `u128`. -/
structure Fits (fee : TransferFee) (net : Nat) : Prop where
  numerator : checkedMul 128 net oneInBasisPoints = some (net * oneInBasisPoints)
  denominator : checkedSub oneInBasisPoints fee.transferFeeBasisPoints =
    some (oneInBasisPoints - fee.transferFeeBasisPoints)
  sum : checkedAdd 128 (net * oneInBasisPoints) (oneInBasisPoints - fee.transferFeeBasisPoints) =
    some (net * oneInBasisPoints + (oneInBasisPoints - fee.transferFeeBasisPoints))
  pred : checkedSub (net * oneInBasisPoints + (oneInBasisPoints - fee.transferFeeBasisPoints)) 1 =
    some (net * oneInBasisPoints + (oneInBasisPoints - fee.transferFeeBasisPoints) - 1)
  quotient : checkedDiv (net * oneInBasisPoints + (oneInBasisPoints - fee.transferFeeBasisPoints) - 1)
      (oneInBasisPoints - fee.transferFeeBasisPoints) =
    some (ceilDiv (net * oneInBasisPoints) (oneInBasisPoints - fee.transferFeeBasisPoints))
  difference : checkedSub (ceilDiv (net * oneInBasisPoints) (oneInBasisPoints - fee.transferFeeBasisPoints)) net =
    some (ceilDiv (net * oneInBasisPoints) (oneInBasisPoints - fee.transferFeeBasisPoints) - net)

theorem fits (hn : net < 2 ^ 64) (hb : fee.transferFeeBasisPoints < oneInBasisPoints) : Fits fee net := by
  have hden : 0 < oneInBasisPoints - fee.transferFeeBasisPoints := Nat.sub_pos_of_lt hb
  have hbound : net * oneInBasisPoints + oneInBasisPoints < 2 ^ 128 := by
    have hm := Nat.mul_le_mul_right oneInBasisPoints hn.le
    have hone : oneInBasisPoints = 10000 := rfl
    omega
  exact ⟨if_pos (by omega), if_pos hb.le, if_pos (by omega), if_pos (by omega), if_neg (by omega),
    if_pos (le_gross hb net)⟩

theorem Fits.raw (h : Fits fee net) :
    ceilDiv128 (net * oneInBasisPoints) (oneInBasisPoints - fee.transferFeeBasisPoints) =
      some (ceilDiv (net * oneInBasisPoints) (oneInBasisPoints - fee.transferFeeBasisPoints)) := by
  simp only [ceilDiv128, h.sum, h.pred, h.quotient, Option.bind_eq_bind, Option.bind_some]

theorem calculatePreFeeAmount_lt (hn : net < 2 ^ 64) (h : calculatePreFeeAmount fee net = some gross) :
    gross < 2 ^ 64 := by
  have hchecked {a b : Nat} (hadd : checkedAdd 64 a b = some gross) : gross < 2 ^ 64 := by
    unfold checkedAdd at hadd
    split_ifs at hadd with hfit
    exact Option.some.inj hadd ▸ hfit
  unfold calculatePreFeeAmount at h
  split_ifs at h with hb hz hfull
  · exact Option.some.inj h ▸ hn
  · exact Option.some.inj h ▸ Nat.two_pow_pos 64
  · exact hchecked h
  · have hle := fee.bps_le
    have hfits : Fits fee net := fits hn (by unfold oneInBasisPoints at hfull ⊢; omega)
    simp only [hfits.numerator, hfits.denominator, hfits.raw, hfits.difference, Option.bind_eq_bind,
      Option.bind_some] at h
    split_ifs at h with hcap hfit
    · exact hchecked h
    · exact Option.some.inj h ▸ hfit

end Steps

/-- `calculate_pre_fee_amount` is the least inverse of the fee of the token program. It
fails only where no amount of 64 bits has an inverse, never inside its 128 bits. -/
theorem calculatePreFeeAmount_least (fee : TransferFee) (net : U64) :
    (∀ gross, calculatePreFeeAmount fee net = some gross →
      gross < 2 ^ 64 ∧ post fee gross = net ∧ IsLeast {amount | net ≤ post fee amount} gross) ∧
    (calculatePreFeeAmount fee net = none → ∀ amount < 2 ^ 64, post fee amount < net) ∧
    (fee.transferFeeBasisPoints < oneInBasisPoints → Fits fee net) := by
  have hcover {amount : Nat} (h : net ≤ post fee amount) : net + fee.calculateFee amount ≤ amount := by
    have hle := fee.calculateFee_le amount
    unfold post at h
    omega
  refine ⟨fun gross h => ?_, fun h amount hlt => ?_, fun hb => fits net.isLt hb⟩
  · have hgross := calculatePreFeeAmount_lt net.isLt h
    have hpost : post fee gross = net := calculatePreFeeAmount_post h
    refine ⟨hgross, hpost, hpost.ge, fun amount hpost => ?_⟩
    by_cases hlt : amount < 2 ^ 64
    · obtain ⟨gross', h', hle⟩ := calculatePreFeeAmount_ok hlt (hcover hpost)
      rw [h, Option.some.injEq] at h'
      exact h' ▸ hle
    · omega
  · by_contra hpost
    obtain ⟨gross, hsome, _⟩ := calculatePreFeeAmount_ok hlt (hcover (Nat.le_of_not_lt hpost))
    rw [h] at hsome
    cases hsome

end SanBridge.Solana.Inversion
