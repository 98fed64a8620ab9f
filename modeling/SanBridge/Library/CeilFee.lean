import Mathlib.Data.Nat.Basic
import Mathlib.Tactic.Linarith

namespace SanBridge.Library.CeilFee

/-- Division rounded up, as `(n + d - 1) / d`. -/
def ceilDiv (n d : Nat) : Nat := (n + d - 1) / d

variable {n d : Nat}

theorem le_ceilDiv_mul (hd : 0 < d) : n ≤ ceilDiv n d * d := by
  have h := Nat.lt_div_mul_add (a := n + d - 1) hd
  rw [ceilDiv]
  omega

theorem ceilDiv_mul_lt (hd : 0 < d) : ceilDiv n d * d < n + d := by
  have h := Nat.div_mul_le_self (n + d - 1) d
  rw [ceilDiv]
  omega

theorem ceilDiv_le_iff (hd : 0 < d) {k : Nat} : ceilDiv n d ≤ k ↔ n ≤ k * d := by
  constructor
  · intro h
    exact (le_ceilDiv_mul hd).trans (Nat.mul_le_mul_right d h)
  · intro h
    have hlt : ceilDiv n d * d < (k + 1) * d := by
      have := ceilDiv_mul_lt (n := n) hd
      rw [Nat.add_mul]
      omega
    exact Nat.le_of_lt_succ (Nat.lt_of_mul_lt_mul_right hlt)

theorem le_ceilDiv_iff (hd : 0 < d) {k : Nat} : k ≤ ceilDiv n d ↔ k * d < n + d := by
  constructor
  · intro h
    exact (Nat.mul_le_mul_right d h).trans_lt (ceilDiv_mul_lt hd)
  · intro h
    have hlt : k * d < (ceilDiv n d + 1) * d := by
      have := le_ceilDiv_mul (n := n) hd
      rw [Nat.add_mul]
      omega
    exact Nat.le_of_lt_succ (Nat.lt_of_mul_lt_mul_right hlt)

section Fee

/-- A fee of `rate` parts in `one`, rounded up and capped at `cap`. -/
def fee (one rate cap amount : Nat) : Nat := min (ceilDiv (amount * rate) one) cap

variable {one rate cap : Nat}

theorem fee_le_amount (hone : 0 < one) (hrate : rate ≤ one) (amount : Nat) :
    fee one rate cap amount ≤ amount := by
  refine (min_le_left _ _).trans ((ceilDiv_le_iff hone).mpr ?_)
  exact Nat.mul_le_mul_left amount hrate

theorem gross_sub_ceil (hrate : rate < one) (net : Nat) :
    ceilDiv (net * one) (one - rate) - ceilDiv (ceilDiv (net * one) (one - rate) * rate) one = net := by
  have hd : 0 < one - rate := by omega
  have hone : 0 < one := by omega
  obtain ⟨k, hk⟩ : ∃ k, one = rate + k := ⟨one - rate, by omega⟩
  have hkd : one - rate = k := by omega
  have h1 := le_ceilDiv_mul (n := net * one) hd
  have h2 := ceilDiv_mul_lt (n := net * one) hd
  generalize ceilDiv (net * one) (one - rate) = y at h1 h2 ⊢
  have h3 := le_ceilDiv_mul (n := y * rate) hone
  have h4 := ceilDiv_mul_lt (n := y * rate) hone
  generalize ceilDiv (y * rate) one = f at h3 h4 ⊢
  rw [hkd] at h1 h2
  have hsplit : y * one = y * rate + y * k := by rw [hk, Nat.mul_add]
  -- the net amount is pinned between two multiples of `one`
  have hlow : net * one < (y - f + 1) * one := by
    have hsub : y * one ≤ (y - f) * one + f * one := by
      rw [← Nat.add_mul]
      exact Nat.mul_le_mul_right one (by omega)
    rw [Nat.add_mul]
    omega
  have hfy : f ≤ y := by
    have : f * one < (y + 1) * one := by
      rw [Nat.add_mul]
      omega
    exact Nat.le_of_lt_succ (Nat.lt_of_mul_lt_mul_right this)
  have hhigh : (y - f) * one < (net + 1) * one := by
    rw [Nat.sub_mul, Nat.add_mul]
    omega
  have hlow' := Nat.lt_of_mul_lt_mul_right hlow
  have hhigh' := Nat.lt_of_mul_lt_mul_right hhigh
  omega

/-- When the uncapped gross amount would carry at least the capped fee, adding
the cap to the net amount carries exactly the cap. -/
theorem cap_le_ceil_of_gross (hrate : rate < one) {net : Nat}
    (h : net + cap ≤ ceilDiv (net * one) (one - rate)) :
    cap ≤ ceilDiv ((net + cap) * rate) one := by
  have hd : 0 < one - rate := by omega
  have hone : 0 < one := by omega
  have hlt := (le_ceilDiv_iff hd).mp h
  rw [le_ceilDiv_iff hone]
  obtain ⟨k, hk⟩ : ∃ k, one = rate + k := ⟨one - rate, by omega⟩
  have hkd : one - rate = k := by omega
  rw [hkd] at hlt
  have h1 : (net + cap) * one = (net + cap) * rate + (net + cap) * k := by rw [hk, Nat.mul_add]
  have h2 : (net + cap) * one = net * one + cap * one := Nat.add_mul _ _ _
  omega

theorem sub_fee_of_full (hone : 0 < one) (net : Nat) :
    (cap + net) - fee one one cap (cap + net) = net := by
  have hceil : cap ≤ ceilDiv ((cap + net) * one) one := by
    rw [le_ceilDiv_iff hone, Nat.add_mul]
    omega
  rw [fee, min_eq_right hceil]
  omega

theorem sub_fee_of_capped (hrate : rate < one) {net : Nat}
    (h : net + cap ≤ ceilDiv (net * one) (one - rate)) :
    (net + cap) - fee one rate cap (net + cap) = net := by
  rw [fee, min_eq_right (cap_le_ceil_of_gross hrate h)]
  omega

theorem sub_fee_of_gross (hrate : rate < one) {net : Nat}
    (hcap : ceilDiv (net * one) (one - rate) - net < cap) :
    ceilDiv (net * one) (one - rate) - fee one rate cap (ceilDiv (net * one) (one - rate)) = net := by
  have hnet := gross_sub_ceil hrate net
  generalize ceilDiv (net * one) (one - rate) = gross at hcap hnet ⊢
  have hfee : ceilDiv (gross * rate) one ≤ gross :=
    (ceilDiv_le_iff (by omega)).mpr (Nat.mul_le_mul_left gross hrate.le)
  rw [fee, min_eq_left (by omega)]
  exact hnet

theorem le_gross (hrate : rate < one) (net : Nat) : net ≤ ceilDiv (net * one) (one - rate) := by
  have hd : 0 < one - rate := by omega
  have hm := Nat.mul_le_mul_left net (Nat.sub_le one rate)
  rw [le_ceilDiv_iff hd]
  omega

/-- What an amount leaves after its fee needs no larger gross amount than it. -/
theorem gross_le (hrate : rate < one) {net amount : Nat} (h : net + fee one rate cap amount ≤ amount) :
    net + cap ≤ amount ∨ ceilDiv (net * one) (one - rate) ≤ amount := by
  have hone : 0 < one := by omega
  have hd : 0 < one - rate := by omega
  rw [fee] at h
  by_cases hcap : cap ≤ ceilDiv (amount * rate) one
  · rw [min_eq_right hcap] at h
    exact .inl h
  · right
    rw [min_eq_left (by omega)] at h
    have hceil := le_ceilDiv_mul (n := amount * rate) hone
    have hm := Nat.mul_le_mul_right one h
    rw [Nat.add_mul] at hm
    rw [ceilDiv_le_iff hd, Nat.mul_sub]
    omega

/-- The same for the gross amount an inversion chooses: the net amount and the cap
once the uncapped fee reaches it, the uncapped gross amount below. -/
theorem chosen_gross_le (hrate : rate < one) {net amount : Nat}
    (h : net + fee one rate cap amount ≤ amount) :
    (cap ≤ ceilDiv (net * one) (one - rate) - net → net + cap ≤ amount) ∧
      (ceilDiv (net * one) (one - rate) - net < cap → ceilDiv (net * one) (one - rate) ≤ amount) := by
  have hle := le_gross hrate net
  have hgross := gross_le hrate h
  constructor
  · intro hcap
    omega
  · intro hcap
    omega

end Fee

end SanBridge.Library.CeilFee
