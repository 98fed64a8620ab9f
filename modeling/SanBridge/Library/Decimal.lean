import Mathlib.Data.List.DropRight
import Mathlib.Data.Rat.Floor
import Mathlib.Tactic.FieldSimp
import Mathlib.Tactic.Ring

namespace SanBridge.Library.Decimal

section Digits

def Digits (ds : List Char) : Prop := ∀ c ∈ ds, c.isDigit = true

def digitsValue (ds : List Char) : ℕ := Nat.ofDigitChars 10 ds 0

variable {ds xs ys : List Char} {n k : ℕ}

theorem Digits.append (hx : Digits xs) (hy : Digits ys) : Digits (xs ++ ys) :=
  List.forall_mem_append.mpr ⟨hx, hy⟩

theorem Digits.take (h : Digits ds) : Digits (ds.take k) := fun c hc => h c (List.mem_of_mem_take hc)

theorem Digits.drop (h : Digits ds) : Digits (ds.drop k) := fun c hc => h c (List.mem_of_mem_drop hc)

theorem digits_zeros : Digits (List.replicate n '0') := by
  intro c hc
  rw [List.eq_of_mem_replicate hc]
  rfl

theorem digits_toDigits : Digits (Nat.toDigits 10 n) :=
  fun _ hc => Nat.isDigit_of_mem_toDigits (by decide) (by decide) hc

theorem Digits.ne_point (h : Digits ds) {c : Char} (hc : c ∈ ds) : c ≠ '.' := by
  rintro rfl
  exact absurd (h _ hc) (by decide)

theorem digitsValue_append : digitsValue (xs ++ ys) = digitsValue xs * 10 ^ ys.length + digitsValue ys := by
  rw [digitsValue, Nat.ofDigitChars_append, Nat.ofDigitChars_eq_ofDigitChars_zero, mul_comm]
  rfl

theorem digitsValue_zeros : digitsValue (List.replicate n '0') = 0 := by
  rw [digitsValue, Nat.ofDigitChars_replicate_zero, mul_zero]

theorem digitsValue_zeros_append : digitsValue (List.replicate n '0' ++ ds) = digitsValue ds := by
  rw [digitsValue_append, digitsValue_zeros, zero_mul, zero_add]

theorem digitsValue_append_zeros : digitsValue (ds ++ List.replicate n '0') = digitsValue ds * 10 ^ n := by
  rw [digitsValue_append, digitsValue_zeros, List.length_replicate, add_zero]

theorem digitsValue_toDigits : digitsValue (Nat.toDigits 10 n) = n := Nat.ofDigitChars_ten_toDigits

theorem digitsValue_lt (h : Digits ds) : digitsValue ds < 10 ^ ds.length := by
  induction ds using List.reverseRecOn with
  | nil => exact Nat.one_pos
  | append_singleton ds c ih =>
    have hlast : digitsValue [c] < 10 := by
      have hc := Char.isDigit_iff_toNat.mp (h c (List.mem_append_right _ (List.mem_singleton.mpr rfl)))
      have hnine : '9'.toNat = 57 := rfl
      have hzero : '0'.toNat = 48 := rfl
      rw [digitsValue, Nat.ofDigitChars_cons, Nat.ofDigitChars_nil]
      omega
    have hrest := ih fun d hd => h d (List.mem_append_left _ hd)
    rw [digitsValue_append, List.length_append, List.length_singleton, pow_one, pow_succ]
    omega

theorem digitsValue_take (h : Digits ds) : digitsValue (ds.take k) = digitsValue ds / 10 ^ (ds.length - k) := by
  have hdrop : digitsValue (ds.drop k) < 10 ^ (ds.drop k).length :=
    digitsValue_lt h.drop
  have hsplit := @digitsValue_append (ds.take k) (ds.drop k)
  rw [List.length_drop] at hdrop
  rw [List.take_append_drop, List.length_drop, mul_comm] at hsplit
  rw [hsplit, Nat.mul_add_div (Nat.pow_pos (by decide)), Nat.div_eq_of_lt hdrop, add_zero]

theorem digitsValue_cut (h : Digits ds) :
    digitsValue ((ds ++ List.replicate (k - ds.length) '0').take k) = digitsValue ds * 10 ^ k / 10 ^ ds.length := by
  rw [digitsValue_take (h.append digits_zeros), digitsValue_append_zeros, List.length_append, List.length_replicate]
  by_cases hk : k ≤ ds.length
  · obtain ⟨m, hm⟩ := Nat.exists_eq_add_of_le hk
    rw [Nat.sub_eq_zero_of_le hk, add_zero, pow_zero, mul_one, hm, Nat.add_sub_cancel_left, pow_add, mul_comm (10 ^ k),
      Nat.mul_div_mul_right _ _ (Nat.pow_pos (by decide))]
  · obtain ⟨m, hm⟩ := Nat.exists_eq_add_of_le (Nat.le_of_not_le hk)
    rw [hm, Nat.add_sub_cancel_left, Nat.sub_self, pow_zero, Nat.div_one, pow_add, mul_left_comm,
      Nat.mul_div_cancel_left _ (Nat.pow_pos (by decide))]

theorem head_toDigits (h : (Nat.toDigits 10 n).head? = some '0') : n = 0 := by
  induction n using Nat.base_induction 10 (by decide) with
  | single m hm =>
    rw [Nat.toDigits_of_lt_base hm, List.head?_cons, Option.some.injEq] at h
    have hall : ∀ m : Fin 10, Nat.digitChar m = '0' → m = 0 := by decide
    exact congrArg Fin.val (hall ⟨m, hm⟩ h)
  | digit m k hk hm ih =>
    rw [← Nat.toDigits_append_toDigits (by decide) hm hk, List.head?_append_of_ne_nil _ Nat.toDigits_ne_nil] at h
    exact absurd (ih h) (Nat.ne_of_gt hm)

end Digits

section Numerals

/-- An unsigned decimal numeral: digits, and perhaps a point with digits after it. -/
@[ext]
structure Numeral where
  whole : List Char
  fraction : Option (List Char)
  whole_digits : Digits whole
  fraction_digits : Digits (fraction.getD [])
  nonempty : whole ++ fraction.getD [] ≠ []

namespace Numeral

variable {n m : Numeral} {d : ℕ}

def places (n : Numeral) : List Char := n.fraction.getD []

def text (n : Numeral) : List Char :=
  match n.fraction with
  | none => n.whole
  | some ds => n.whole ++ '.' :: ds

def value (n : Numeral) : ℚ := digitsValue n.whole + digitsValue n.places / 10 ^ n.places.length

theorem text_eq (n : Numeral) : n.text = n.whole ++ (n.fraction.elim [] ('.' :: ·)) := by
  rw [text]
  cases n.fraction with
  | none => rw [Option.elim_none, List.append_nil]
  | some ds => rfl

theorem mem_text {c : Char} (h : c ∈ n.text) : c.isDigit = true ∨ c = '.' := by
  have hfraction := n.fraction_digits
  rw [text_eq, List.mem_append] at h
  cases h with
  | inl h => exact .inl (n.whole_digits c h)
  | inr h =>
    cases hn : n.fraction with
    | none =>
      rw [hn] at h
      cases h
    | some ds =>
      rw [hn, Option.elim_some, List.mem_cons] at h
      rw [hn, Option.getD_some] at hfraction
      exact h.symm.imp (hfraction c) id

theorem text_injective : Function.Injective text := by
  intro n m h
  have hwhole : ∀ k : Numeral, k.text.takeWhile Char.isDigit = k.whole := by
    intro k
    rw [text_eq, List.takeWhile_append_of_pos k.whole_digits]
    cases k.fraction with
    | none => exact List.append_nil _
    | some ds => exact List.append_nil _
  have hw : n.whole = m.whole := by rw [← hwhole n, h, hwhole m]
  rw [text_eq, text_eq, hw, List.append_cancel_left_eq] at h
  apply Numeral.ext hw
  cases hn : n.fraction with
  | none =>
    cases hm : m.fraction with
    | none => rfl
    | some ds => rw [hn, hm] at h; cases h
  | some ds =>
    cases hm : m.fraction with
    | none => rw [hn, hm] at h; cases h
    | some ds' =>
      rw [hn, hm, Option.elim_some, Option.elim_some, List.cons.injEq] at h
      rw [h.2]

theorem floor_value_mul : ⌊n.value * 10 ^ d⌋ =
    ((digitsValue n.whole * 10 ^ d + digitsValue n.places * 10 ^ d / 10 ^ n.places.length : ℕ) : ℤ) := by
  have hsplit : n.value * 10 ^ d = ((digitsValue n.whole * 10 ^ d : ℕ) : ℚ) +
      ((digitsValue n.places * 10 ^ d : ℕ) : ℚ) / ((10 ^ n.places.length : ℕ) : ℚ) := by
    rw [value]
    push_cast
    ring
  rw [hsplit, Int.floor_natCast_add, Rat.floor_natCast_div_natCast]
  push_cast
  rfl

/-- No leading zero but the one of `0`, no trailing zero after the point, no point without
digits on both sides. -/
structure Canonical (n : Numeral) : Prop where
  whole_ne_nil : n.whole ≠ []
  leading : n.whole.head? = some '0' → n.whole = ['0']
  trailing : ∀ ds, n.fraction = some ds → ds ≠ [] ∧ ds.getLast? ≠ some '0'

end Numeral

variable {whole tail : List Char}

def trimmed (tail : List Char) : List Char := tail.rdropWhile (· = '0')

theorem mem_of_trimmed {c : Char} (h : c ∈ trimmed tail) : c ∈ tail := (List.rdropWhile_prefix _ _).subset h

theorem trimmed_append : ∃ k, trimmed tail ++ List.replicate k '0' = tail := by
  refine ⟨(tail.rtakeWhile (· = '0')).length, ?_⟩
  have hzeros : tail.rtakeWhile (· = '0') = List.replicate (tail.rtakeWhile (· = '0')).length '0' := by
    apply List.eq_replicate_of_mem
    intro c hc
    have hzero := List.mem_rtakeWhile_imp hc
    exact of_decide_eq_true hzero
  rw [← hzeros]
  exact List.rdropWhile_append_rtakeWhile

/-- The numeral of a whole part and of digits after the point, when any of these counts. -/
def fixed (whole tail : List Char) (hw : Digits whole) (ht : Digits tail) (hne : whole ≠ []) : Numeral where
  whole := whole
  fraction := if trimmed tail = [] then none else some (trimmed tail)
  whole_digits := hw
  fraction_digits := by
    split
    · exact fun _ hc => absurd hc List.not_mem_nil
    · exact fun c hc => ht c (mem_of_trimmed hc)
  nonempty := fun h => hne (List.append_eq_nil_iff.mp h).1

variable {hw : Digits whole} {ht : Digits tail} {hne : whole ≠ []}

theorem fixed_places : (fixed whole tail hw ht hne).places = trimmed tail := by
  by_cases h : trimmed tail = []
  · simp only [Numeral.places, fixed, h, if_true, Option.getD_none]
  · simp only [Numeral.places, fixed, h, if_false, Option.getD_some]

theorem fixed_text : (fixed whole tail hw ht hne).text =
    if trimmed tail ≠ [] then whole ++ '.' :: trimmed tail else whole := by
  by_cases h : trimmed tail = []
  · simp only [Numeral.text, fixed, h, if_true, ne_eq, not_true_eq_false, if_false]
  · simp only [Numeral.text, fixed, h, if_false, ne_eq, not_false_eq_true, if_true]

theorem fixed_value : (fixed whole tail hw ht hne).value = (digitsValue (whole ++ tail) : ℚ) / 10 ^ tail.length := by
  obtain ⟨k, hk⟩ := @trimmed_append tail
  rw [Numeral.value, fixed_places]
  change (digitsValue whole : ℚ) + digitsValue (trimmed tail) / 10 ^ (trimmed tail).length = _
  conv_rhs => rw [← hk]
  rw [digitsValue_append, digitsValue_append_zeros, List.length_append, List.length_replicate]
  push_cast
  field_simp
  ring

theorem fixed_canonical (h : whole.head? = some '0' → whole = ['0']) : (fixed whole tail hw ht hne).Canonical where
  whole_ne_nil := hne
  leading := h
  trailing := by
    intro ds hds
    simp only [fixed, Option.ite_none_left_eq_some, Option.some.injEq] at hds
    obtain ⟨hds, rfl⟩ := hds
    refine ⟨hds, ?_⟩
    rw [List.getLast?_eq_some_getLast hds, Ne, Option.some.injEq]
    exact fun hlast => List.rdropWhile_last_not _ _ hds (decide_eq_true hlast)

/-- The digits of a number, and zeros before them until there are more than `places`. -/
def padded (raw places : ℕ) : List Char :=
  List.replicate (places + 1 - (Nat.toDigits 10 raw).length) '0' ++ Nat.toDigits 10 raw

variable {raw places : ℕ}

theorem digits_padded : Digits (padded raw places) := digits_zeros.append digits_toDigits

theorem length_padded : (padded raw places).length = max (places + 1) (Nat.toDigits 10 raw).length := by
  rw [padded, List.length_append, List.length_replicate]
  omega

theorem whole_ne_nil : (padded raw places).take ((padded raw places).length - places) ≠ [] := by
  have hlength := @length_padded raw places
  intro h
  have hnone := congrArg List.length h
  rw [List.length_take, List.length_nil] at hnone
  omega

/-- The numeral of a number of parts of which `10 ^ places` make a whole. -/
def scaled (raw places : ℕ) : Numeral :=
  fixed ((padded raw places).take ((padded raw places).length - places))
    ((padded raw places).drop ((padded raw places).length - places))
    digits_padded.take digits_padded.drop whole_ne_nil

theorem scaled_zero : (scaled raw 0).text = Nat.toDigits 10 raw := by
  have hpos := @Nat.length_toDigits_pos 10 raw
  have hpad : padded raw 0 = Nat.toDigits 10 raw := by
    rw [padded, Nat.sub_eq_zero_of_le hpos, List.replicate_zero, List.nil_append]
  rw [scaled, fixed_text, Nat.sub_zero, List.drop_length, List.take_length, hpad]
  rfl

theorem scaled_value : (scaled raw places).value = (raw : ℚ) / 10 ^ places := by
  have hlength := @length_padded raw places
  rw [scaled, fixed_value, List.take_append_drop, padded, digitsValue_zeros_append, digitsValue_toDigits, ← padded,
    List.length_drop]
  congr 2
  omega

/-- The first digit is a zero only when it is the one before the point. -/
theorem scaled_canonical : (scaled raw places).Canonical := by
  apply fixed_canonical
  intro h
  have hlength := @length_padded raw places
  have hpos := @Nat.length_toDigits_pos 10 raw
  have hone : (padded raw places).length = places + 1 := by
    by_cases hpad : (Nat.toDigits 10 raw).length ≤ places + 1
    · omega
    · have hnone : places + 1 - (Nat.toDigits 10 raw).length = 0 := by omega
      rw [List.head?_take, if_neg (by omega), padded, hnone, List.replicate_zero, List.nil_append] at h
      rw [head_toDigits h, Nat.toDigits_zero] at hpad
      exact absurd (by simp) hpad
  rw [hone, Nat.add_sub_cancel_left] at h ⊢
  obtain ⟨c, cs, hcs⟩ := List.exists_cons_of_length_eq_add_one hone
  rw [hcs] at h ⊢
  rw [List.take_succ_cons, List.take_zero, List.head?_cons, Option.some.injEq] at h
  rw [h]
  rfl

end Numerals

end SanBridge.Library.Decimal
