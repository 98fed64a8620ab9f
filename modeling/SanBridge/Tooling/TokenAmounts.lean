import SanBridge.Library.Decimal
import SanBridge.Tooling.Runtime

namespace SanBridge.Tooling.TokenAmounts

open Library.Checked Library.Decimal Tooling.Runtime

section Functions

variable (host : Host)

/-- `Number.isInteger(x) && x >= 0` -/
def naturalNumber : JsNumber → Option Nat
  | .finite q => if q.den = 1 ∧ 0 ≤ q.num then some q.num.toNat else none
  | _ => none

def formatRawTokenAmount (rawAmount : Int) (decimals : JsNumber) : Result String := do
  let places ← ofOption ("Invalid mint decimals: " ++ numberText host decimals) (naturalNumber decimals)
  if places = 0 then .ok (toString rawAmount)
  else
    let digits := (padStart (toString rawAmount) (places + 1) '0').toList
    let whole := digits.take (digits.length - places)
    let fraction := trimmed (digits.drop (digits.length - places))
    .ok (String.ofList (if fraction ≠ [] then whole ++ '.' :: fraction else whole))

def padEnd (cs : List Char) (width : Nat) (fill : Char) : List Char :=
  cs ++ List.replicate (width - (codeUnits (String.ofList cs)).length) fill

/-- `s.slice(0, n)`, unless that ends inside a character. -/
def sliceUnits : List Char → Nat → Option (List Char)
  | [], _ => some []
  | c :: cs, n =>
    let width := if c.toNat < 0x10000 then 1 else 2
    if n = 0 then some []
    else if n < width then none
    else (sliceUnits cs (n - width)).map (c :: ·)

def wholePart (amount : String) : List Char := (amount.toList.splitOn '.').headD []

def fractionPart (amount : String) : List Char := (amount.toList.splitOn '.').getD 1 []

/-- The part after the point, padded or trimmed to `decimals` digits. -/
def fractionUnits (amount : String) (places : Nat) : Option (List Char) :=
  sliceUnits (padEnd (fractionPart amount) places '0') places

def parseDecimalToUnits (amount : String) (decimals : JsNumber) : Result Int := do
  let whole ← stringToBigInt (String.ofList (wholePart amount))
  let exponent ← bigInt host (some (.num decimals))
  require "RangeError" (0 ≤ exponent)
  let wholeUnits := whole * 10 ^ exponent.toNat
  -- half a character is not read by `BigInt`
  let fraction ← ofOption "SyntaxError" (fractionUnits amount exponent.toNat)
  let fracUnits ← stringToBigInt (String.ofList fraction)
  .ok (wholeUnits + fracUnits)

end Functions

section Digits

variable {ds cs : List Char} {n : Nat}

theorem digit_toNat {c : Char} (h : c.isDigit = true) : 48 ≤ c.toNat ∧ c.toNat ≤ 57 := Char.isDigit_iff_toNat.mp h

theorem length_codeUnits_digits (h : Digits ds) : (codeUnits (String.ofList ds)).length = ds.length := by
  apply length_codeUnits
  intro c hc
  have hdigit := digit_toNat (h c hc)
  omega

theorem sliceUnits_digits (h : Digits ds) : sliceUnits ds n = some (ds.take n) := by
  induction ds generalizing n with
  | nil => rw [sliceUnits, List.take_nil]
  | cons c cs ih =>
    have hc := digit_toNat (h c List.mem_cons_self)
    have hwidth : c.toNat < 0x10000 := by omega
    rw [sliceUnits, if_pos hwidth]
    cases n with
    | zero => rfl
    | succ n =>
      rw [if_neg (Nat.succ_ne_zero n), if_neg (by omega), ih fun d hd => h d (List.mem_cons_of_mem c hd)]
      rfl

theorem stringToBigInt_digits (h : Digits ds) : stringToBigInt (String.ofList ds) = .ok (digitsValue ds) := by
  cases ds with
  | nil => rfl
  | cons c cs =>
    have hdigits : isDigits (String.ofList (c :: cs)) = true := by
      rw [isDigits, String.toList_ofList]
      exact decide_eq_true ⟨List.cons_ne_nil c cs, List.all_eq_true.mpr h⟩
    rw [stringToBigInt, if_pos hdigits, decimalValue, String.toList_ofList]
    rfl

end Digits

section Formatting

variable {host : Host} {raw places : Nat} {s : String} {n : Numeral}

theorem naturalNumber_natCast : naturalNumber (.finite places) = some places := by
  rw [naturalNumber, Rat.den_natCast, Rat.num_natCast, if_pos ⟨rfl, Int.natCast_nonneg _⟩, Int.toNat_natCast]

theorem bigInt_natCast : bigInt host (some (.num (.finite places))) = .ok places := by
  rw [bigInt, if_pos (Rat.den_natCast places), Rat.num_natCast]

theorem toString_natCast : (toString (raw : Int)) = String.ofList (Nat.toDigits 10 raw) := rfl

theorem padStart_raw : (padStart (toString (raw : Int)) (places + 1) '0').toList = padded raw places := by
  rw [padStart, toString_natCast, length_codeUnits_digits digits_toDigits, String.toList_append, String.toList_ofList,
    String.toList_ofList, padded]

theorem formatRawTokenAmount_eq :
    formatRawTokenAmount host raw (.finite places) = .ok (String.ofList (scaled raw places).text) := by
  rw [formatRawTokenAmount, naturalNumber_natCast, ofOption, ok_bind, padStart_raw]
  by_cases hplaces : places = 0
  · rw [if_pos hplaces, hplaces, scaled_zero, toString_natCast]
  · rw [if_neg hplaces, scaled, fixed_text]

theorem wholePart_plain (h : '.' ∉ s.toList) : wholePart s = s.toList := by
  rw [wholePart, List.splitOn_eq_singleton h]
  rfl

theorem fractionPart_plain (h : '.' ∉ s.toList) : fractionPart s = [] := by
  rw [fractionPart, List.splitOn_eq_singleton h]
  rfl

theorem wholePart_point {t : List Char} (h : s.toList = cs ++ '.' :: t) (hcs : '.' ∉ cs) : wholePart s = cs := by
  rw [wholePart, h, List.splitOn_append_cons_self_of_not_mem hcs]
  rfl

theorem fractionPart_point {rest : List Char} (h : s.toList = cs ++ '.' :: (ds ++ rest)) (hcs : '.' ∉ cs)
    (hds : '.' ∉ ds) (hrest : rest = [] ∨ ∃ more, rest = '.' :: more) : fractionPart s = ds := by
  rw [fractionPart, h, List.splitOn_append_cons_self_of_not_mem hcs]
  rcases hrest with rfl | ⟨more, rfl⟩
  · rw [List.append_nil, List.splitOn_eq_singleton hds]
    rfl
  · rw [List.splitOn_append_cons_self_of_not_mem hds]
    rfl

theorem wholePart_numeral (h : n.text = s.toList) : wholePart s = n.whole := by
  have hpoint : '.' ∉ n.whole := fun hc => n.whole_digits.ne_point hc rfl
  rw [Numeral.text] at h
  cases hn : n.fraction with
  | none =>
    rw [hn] at h
    exact (wholePart_plain (h ▸ hpoint)).trans h.symm
  | some ds =>
    rw [hn] at h
    exact wholePart_point h.symm hpoint

theorem fractionPart_numeral (h : n.text = s.toList) : fractionPart s = n.places := by
  have hpoint : '.' ∉ n.whole := fun hc => n.whole_digits.ne_point hc rfl
  have hdigits : Digits n.places := n.fraction_digits
  rw [Numeral.text] at h
  rw [Numeral.places] at hdigits ⊢
  cases hn : n.fraction with
  | none =>
    rw [hn] at h
    exact fractionPart_plain (h ▸ hpoint)
  | some ds =>
    rw [hn] at h hdigits
    have hpoint' : '.' ∉ ds := fun hc => hdigits.ne_point hc rfl
    have htext : s.toList = n.whole ++ '.' :: (ds ++ []) := by
      rw [List.append_nil]
      exact h.symm
    exact fractionPart_point htext hpoint hpoint' (.inl rfl)

theorem fractionUnits_numeral (h : n.text = s.toList) : fractionUnits s places =
    some ((n.places ++ List.replicate (places - n.places.length) '0').take places) := by
  have hdigits : Digits n.places := n.fraction_digits
  rw [fractionUnits, fractionPart_numeral h, padEnd, length_codeUnits_digits hdigits,
    sliceUnits_digits (hdigits.append digits_zeros)]

theorem parseDecimalToUnits_numeral (h : n.text = s.toList) :
    parseDecimalToUnits host s (.finite places) = .ok ⌊n.value * 10 ^ places⌋ := by
  have hdigits : Digits n.places := n.fraction_digits
  have hpositive : require "RangeError" (decide (0 ≤ (places : Int))) = .ok () :=
    require_eq_ok.mpr (decide_eq_true (Int.natCast_nonneg _))
  rw [parseDecimalToUnits, wholePart_numeral h, stringToBigInt_digits n.whole_digits, ok_bind, bigInt_natCast, ok_bind,
    hpositive, ok_bind, Int.toNat_natCast, fractionUnits_numeral h, ofOption, ok_bind,
    stringToBigInt_digits (hdigits.append digits_zeros).take, ok_bind, digitsValue_cut hdigits, Numeral.floor_value_mul]
  push_cast
  rfl

/-- A raw amount is printed as the one canonical numeral of its value and read back from it. -/
theorem formatRawTokenAmount_exact :
    (∀ raw : Nat, ∃ (s : String) (n : Numeral), formatRawTokenAmount host raw (.finite places) = .ok s ∧
      n.text = s.toList ∧ n.Canonical ∧ n.value = (raw : ℚ) / 10 ^ places ∧
      parseDecimalToUnits host s (.finite places) = .ok raw) ∧
    ∀ raw raw' : Nat, formatRawTokenAmount host raw (.finite places) =
      formatRawTokenAmount host raw' (.finite places) → raw = raw' := by
  have hpow : (10 : ℚ) ^ places ≠ 0 := pow_ne_zero _ (by decide)
  constructor
  · intro raw
    have htext : (scaled raw places).text = (String.ofList (scaled raw places).text).toList :=
      String.toList_ofList.symm
    refine ⟨_, scaled raw places, formatRawTokenAmount_eq, htext, scaled_canonical, scaled_value, ?_⟩
    rw [parseDecimalToUnits_numeral htext, scaled_value, div_mul_cancel₀ _ hpow, Int.floor_natCast]
  · intro raw raw' h
    rw [formatRawTokenAmount_eq, formatRawTokenAmount_eq, Except.ok.injEq] at h
    have hvalue := congrArg Numeral.value (Numeral.text_injective (String.ofList_injective h))
    rw [scaled_value, scaled_value, div_left_inj' hpow, Nat.cast_inj] at hvalue
    exact hvalue

end Formatting

section Literals

def RadixDigits (base : Nat) (ds : List Char) : Prop := ds ≠ [] ∧ ∀ c ∈ ds, digitValue c < base

/-- The letter after a leading zero that marks the base of a number. -/
def radixMarks : List (Nat × Char) := [(16, 'x'), (16, 'X'), (8, 'o'), (8, 'O'), (2, 'b'), (2, 'B')]

/-- The texts `BigInt` reads, white space at both ends apart. -/
inductive IntegerLiteral : List Char → Prop
  | blank : IntegerLiteral []
  | decimal {ds : List Char} (hds : RadixDigits 10 ds) : IntegerLiteral ds
  | signed {sign : Char} {ds : List Char} (hsign : sign = '-' ∨ sign = '+') (hds : RadixDigits 10 ds) :
      IntegerLiteral (sign :: ds)
  | marked {base : Nat} {mark : Char} {ds : List Char} (hmark : (base, mark) ∈ radixMarks)
      (hds : RadixDigits base ds) : IntegerLiteral ('0' :: mark :: ds)

variable {base : Nat} {ds cs : List Char}

theorem radixValue_isSome : (∃ v, radixValue base ds = some v) ↔ RadixDigits base ds := by
  rw [radixValue, RadixDigits]
  by_cases h : ds ≠ [] ∧ ds.all (fun c => digitValue c < base) = true
  · rw [if_pos h]
    exact ⟨fun _ => ⟨h.1, fun c hc => of_decide_eq_true (List.all_eq_true.mp h.2 c hc)⟩, fun _ => ⟨_, rfl⟩⟩
  · rw [if_neg h]
    constructor
    · rintro ⟨v, hv⟩
      cases hv
    · exact fun hds => absurd ⟨hds.1, List.all_eq_true.mpr fun c hc => decide_eq_true (hds.2 c hc)⟩ h

theorem map_radixValue_isSome {f : Nat → Int} :
    (∃ v, (radixValue base ds).map f = some v) ↔ RadixDigits base ds := by
  rw [← radixValue_isSome]
  constructor
  · rintro ⟨v, hv⟩
    obtain ⟨u, hu, _⟩ := Option.map_eq_some_iff.mp hv
    exact ⟨u, hu⟩
  · rintro ⟨u, hu⟩
    exact ⟨f u, by rw [hu, Option.map_some]⟩

theorem map_neg_radixValue : Option.map (fun n : Int => -n) (do let a ← radixValue base ds; pure (a : Int)) =
    (radixValue base ds).map fun n : Nat => -(n : Int) := by
  cases radixValue base ds with
  | none => rfl
  | some n => rfl

/-- A sign or the mark of a base is no decimal digit. -/
theorem not_decimal {c : Char} (hc : ¬ digitValue c < 10) (hmem : c ∈ ds) : ¬ RadixDigits 10 ds :=
  fun h => hc (h.2 c hmem)

theorem dropWhile_spaces {left body : List Char} (hleft : ∀ c ∈ left, isSpace c) (hbody : ∀ c ∈ body, ¬ isSpace c) :
    (left ++ body).dropWhile isSpace = body := by
  rw [List.dropWhile_append_of_pos hleft]
  cases body with
  | nil => rfl
  | cons c cs => rw [List.dropWhile_cons_of_neg (hbody c List.mem_cons_self)]

theorem trim_spaces {left body right : List Char} (hleft : ∀ c ∈ left, isSpace c) (hbody : ∀ c ∈ body, ¬ isSpace c)
    (hright : ∀ c ∈ right, isSpace c) : trim (left ++ (body ++ right)) = body := by
  have hbody' : ∀ c ∈ body.reverse, ¬ isSpace c := fun c hc => hbody c (List.mem_reverse.mp hc)
  have hright' : ∀ c ∈ right.reverse, isSpace c := fun c hc => hright c (List.mem_reverse.mp hc)
  have hback : ((body ++ right).reverse.dropWhile isSpace).reverse = body := by
    rw [List.reverse_append, dropWhile_spaces hright' hbody', List.reverse_reverse]
  cases body with
  | nil =>
    have hall : ∀ c ∈ left ++ right, isSpace c := fun c hc => (List.mem_append.mp hc).elim (hleft c) (hright c)
    rw [trim, List.nil_append, List.dropWhile_eq_nil_iff.mpr hall]
    rfl
  | cons c cs =>
    have hc : ¬ isSpace c := hbody c List.mem_cons_self
    rw [trim, List.dropWhile_append_of_pos hleft, List.cons_append, List.dropWhile_cons_of_neg hc, ← List.cons_append]
    exact hback

/-- Only white space is trimmed, at both ends. -/
theorem exists_trim (cs : List Char) : ∃ left right, cs = left ++ (trim cs ++ right) ∧
    (∀ c ∈ left, isSpace c) ∧ ∀ c ∈ right, isSpace c := by
  have hfront := List.takeWhile_append_dropWhile (p := isSpace) (l := cs)
  have hback := List.takeWhile_append_dropWhile (p := isSpace) (l := (cs.dropWhile isSpace).reverse)
  refine ⟨cs.takeWhile isSpace, ((cs.dropWhile isSpace).reverse.takeWhile isSpace).reverse, ?_, ?_, ?_⟩
  · rw [trim, ← List.reverse_append, hback, List.reverse_reverse, hfront]
  · exact fun c hc => List.mem_takeWhile_imp hc
  · exact fun c hc => List.mem_takeWhile_imp (List.mem_reverse.mp hc)

theorem not_isSpace {c : Char} (h : 32 < c.toNat ∧ c.toNat < 128) : ¬ isSpace c := by
  simp only [isSpace, List.mem_cons, List.not_mem_nil, or_false, decide_eq_true_eq]
  omega

theorem trim_digits (h : Digits ds) : trim ds = ds := by
  have hspace : ∀ c ∈ ds, ¬ isSpace c := by
    intro c hc
    have hdigit := digit_toNat (h c hc)
    exact not_isSpace (by omega)
  have hnone : ∀ c ∈ ([] : List Char), isSpace c := fun c hc => absurd hc List.not_mem_nil
  have htrim := trim_spaces hnone hspace hnone
  rwa [List.nil_append, List.append_nil] at htrim

theorem digitValue_digit {c : Char} (h : c.isDigit = true) : digitValue c < 10 := by
  have hc := digit_toNat h
  have hzero : '0'.toNat = 48 := rfl
  rw [digitValue, if_pos h]
  omega

theorem stringToBigInt_isOk : (∃ v, stringToBigInt (String.ofList cs) = .ok v) ↔ IntegerLiteral (trim cs) := by
  rw [stringToBigInt]
  by_cases h : isDigits (String.ofList cs) = true
  · rw [if_pos h]
    rw [isDigits, String.toList_ofList] at h
    obtain ⟨hne, hall⟩ := of_decide_eq_true h
    have hdigits : Digits cs := List.all_eq_true.mp hall
    rw [trim_digits hdigits]
    exact ⟨fun _ => .decimal ⟨hne, fun c hc => digitValue_digit (hdigits c hc)⟩, fun _ => ⟨_, rfl⟩⟩
  · rw [if_neg h]
    simp only [ofOption_eq_ok, String.toList_ofList, map_neg_radixValue]
    generalize trim cs = body
    constructor
    · rintro ⟨v, hv⟩
      split at hv
      · exact .blank
      · exact .marked (by decide) (map_radixValue_isSome.mp ⟨v, hv⟩)
      · exact .marked (by decide) (map_radixValue_isSome.mp ⟨v, hv⟩)
      · exact .marked (by decide) (map_radixValue_isSome.mp ⟨v, hv⟩)
      · exact .marked (by decide) (map_radixValue_isSome.mp ⟨v, hv⟩)
      · exact .marked (by decide) (map_radixValue_isSome.mp ⟨v, hv⟩)
      · exact .marked (by decide) (map_radixValue_isSome.mp ⟨v, hv⟩)
      · exact .signed (.inl rfl) (map_radixValue_isSome.mp ⟨v, hv⟩)
      · exact .signed (.inr rfl) (map_radixValue_isSome.mp ⟨v, hv⟩)
      · exact .decimal (map_radixValue_isSome.mp ⟨v, hv⟩)
    · intro hliteral
      cases hliteral with
      | blank => exact ⟨0, rfl⟩
      | decimal hds =>
        split
        · exact ⟨0, rfl⟩
        · exact absurd hds (@not_decimal _ 'x' (by decide) (by simp))
        · exact absurd hds (@not_decimal _ 'X' (by decide) (by simp))
        · exact absurd hds (@not_decimal _ 'o' (by decide) (by simp))
        · exact absurd hds (@not_decimal _ 'O' (by decide) (by simp))
        · exact absurd hds (@not_decimal _ 'b' (by decide) (by simp))
        · exact absurd hds (@not_decimal _ 'B' (by decide) (by simp))
        · exact absurd hds (@not_decimal _ '-' (by decide) (by simp))
        · exact absurd hds (@not_decimal _ '+' (by decide) (by simp))
        · exact map_radixValue_isSome.mpr hds
      | signed hsign hds =>
        rcases hsign with rfl | rfl
        · exact map_radixValue_isSome.mpr hds
        · exact map_radixValue_isSome.mpr hds
      | marked hmark hds =>
        simp only [radixMarks, List.mem_cons, Prod.mk.injEq, List.not_mem_nil, or_false] at hmark
        rcases hmark with ⟨rfl, rfl⟩ | ⟨rfl, rfl⟩ | ⟨rfl, rfl⟩ | ⟨rfl, rfl⟩ | ⟨rfl, rfl⟩ | ⟨rfl, rfl⟩ <;>
          exact map_radixValue_isSome.mpr hds

end Literals

section Grammar

inductive BigIntText : List Char → Prop
  | spaced {left body right : List Char} (hleft : ∀ c ∈ left, isSpace c) (hbody : IntegerLiteral body)
      (hright : ∀ c ∈ right, isSpace c) : BigIntText (left ++ (body ++ right))

/-- The amounts that are read: a number, which a point may follow. After the point comes a number
that zeros complete to `places` characters, and nothing or a second point and anything; or a
number of `places` characters, and anything. -/
inductive AmountText (places : Nat) : List Char → Prop
  | whole {cs : List Char} (hcs : BigIntText cs) : AmountText places cs
  | padded {cs ds rest : List Char} (hcs : BigIntText cs) (hlength : ds.length ≤ places)
      (hds : BigIntText (ds ++ List.replicate (places - ds.length) '0'))
      (hrest : rest = [] ∨ ∃ more, rest = '.' :: more) : AmountText places (cs ++ '.' :: (ds ++ rest))
  | cut {cs ds rest : List Char} (hcs : BigIntText cs) (hds : BigIntText ds) (hlength : ds.length = places) :
      AmountText places (cs ++ '.' :: (ds ++ rest))

variable {cs ds us rest : List Char} {n places : Nat} {s : String}

theorem digitValue_ascii {c : Char} (h : digitValue c < 16) : 32 < c.toNat ∧ c.toNat < 128 ∧ c ≠ '.' := by
  have hrange : 48 ≤ c.toNat ∧ c.toNat < 128 := by
    rw [digitValue] at h
    split at h
    · next hdigit =>
      have hc := digit_toNat hdigit
      omega
    · split at h
      · next hupper =>
        obtain ⟨hfrom, hto⟩ : 65 ≤ c.toNat ∧ c.toNat ≤ 90 := of_decide_eq_true hupper
        omega
      · split at h
        · next hlower =>
          obtain ⟨hfrom, hto⟩ := Bool.and_eq_true_iff.mp hlower
          have hfrom : 97 ≤ c.toNat := of_decide_eq_true hfrom
          have hto : c.toNat ≤ 122 := of_decide_eq_true hto
          omega
        · omega
  refine ⟨by omega, hrange.2, ?_⟩
  rintro rfl
  exact absurd hrange.1 (by decide)

theorem RadixDigits.ascii {base : Nat} (hds : RadixDigits base ds) (hbase : base ≤ 16) :
    ∀ c ∈ ds, 32 < c.toNat ∧ c.toNat < 128 ∧ c ≠ '.' :=
  fun c hc => digitValue_ascii ((hds.2 c hc).trans_le hbase)

theorem IntegerLiteral.ascii (h : IntegerLiteral cs) : ∀ c ∈ cs, 32 < c.toNat ∧ c.toNat < 128 ∧ c ≠ '.' := by
  cases h with
  | blank => exact fun c hc => absurd hc List.not_mem_nil
  | decimal hds => exact hds.ascii (by decide)
  | signed hsign hds =>
    rw [List.forall_mem_cons]
    refine ⟨?_, hds.ascii (by decide)⟩
    rcases hsign with rfl | rfl <;> decide
  | marked hmark hds =>
    have hmarks : ∀ mark ∈ radixMarks, mark.1 ≤ 16 ∧ 32 < mark.2.toNat ∧ mark.2.toNat < 128 ∧ mark.2 ≠ '.' := by
      decide
    obtain ⟨hbase, hc⟩ := hmarks _ hmark
    rw [List.forall_mem_cons, List.forall_mem_cons]
    exact ⟨by decide, hc, hds.ascii hbase⟩

theorem isSpace_plain {c : Char} (h : isSpace c) : c.toNat < 0x10000 ∧ c ≠ '.' := by
  constructor
  · simp only [isSpace, List.mem_cons, List.not_mem_nil, or_false, decide_eq_true_eq] at h
    omega
  · rintro rfl
    exact absurd h (by decide)

/-- None of its characters is a point, and each is one code unit. -/
theorem BigIntText.plain (h : BigIntText cs) : ∀ c ∈ cs, c.toNat < 0x10000 ∧ c ≠ '.' := by
  obtain ⟨hleft, hbody, hright⟩ := h
  intro c hc
  rw [List.mem_append, List.mem_append] at hc
  rcases hc with hc | hc | hc
  · exact isSpace_plain (hleft c hc)
  · have hascii := hbody.ascii c hc
    exact ⟨by omega, hascii.2.2⟩
  · exact isSpace_plain (hright c hc)

theorem BigIntText.not_point (h : BigIntText cs) : '.' ∉ cs := fun hc => (h.plain '.' hc).2 rfl

theorem stringToBigInt_text : (∃ v, stringToBigInt (String.ofList cs) = .ok v) ↔ BigIntText cs := by
  rw [stringToBigInt_isOk]
  constructor
  · intro hliteral
    obtain ⟨left, right, hcs, hleft, hright⟩ := exists_trim cs
    rw [hcs]
    exact .spaced hleft hliteral hright
  · rintro ⟨hleft, hbody, hright⟩
    have hspace : ∀ c ∈ _, ¬ isSpace c := fun c hc => not_isSpace ⟨(hbody.ascii c hc).1, (hbody.ascii c hc).2.1⟩
    rwa [trim_spaces hleft hspace hright]

theorem bigIntText_zeros : BigIntText (List.replicate n '0') :=
  stringToBigInt_text.mp ⟨_, stringToBigInt_digits digits_zeros⟩

theorem sliceUnits_append (h : ∀ c ∈ us, c.toNat < 0x10000) : sliceUnits (us ++ rest) us.length = some us := by
  induction us with
  | nil => cases rest <;> simp [sliceUnits]
  | cons c us ih =>
    obtain ⟨hc, hus⟩ := List.forall_mem_cons.mp h
    rw [List.cons_append, sliceUnits, if_pos hc, List.length_cons, if_neg (Nat.succ_ne_zero _), if_neg (by omega),
      Nat.add_sub_cancel, ih hus, Option.map_some]

/-- What is cut off is a start of the text, all of it or of that many units. -/
theorem sliceUnits_eq_some (hcut : sliceUnits cs n = some us) (h : ∀ c ∈ us, c.toNat < 0x10000) :
    us.length ≤ n ∧ ∃ rest, cs = us ++ rest ∧ (rest = [] ∨ us.length = n) := by
  induction cs generalizing n us with
  | nil =>
    rw [sliceUnits, Option.some.injEq] at hcut
    subst hcut
    exact ⟨Nat.zero_le n, [], rfl, .inl rfl⟩
  | cons c cs ih =>
    rw [sliceUnits] at hcut
    by_cases hzero : n = 0
    · rw [if_pos hzero, Option.some.injEq] at hcut
      subst hcut
      exact ⟨Nat.zero_le n, c :: cs, rfl, .inr hzero.symm⟩
    · rw [if_neg hzero, Option.ite_none_left_eq_some, Option.map_eq_some_iff] at hcut
      obtain ⟨hwidth, us, htail, rfl⟩ := hcut
      obtain ⟨hc, hus⟩ := List.forall_mem_cons.mp h
      rw [if_pos hc] at hwidth htail
      obtain ⟨hlength, rest, rfl, hrest⟩ := ih htail hus
      rw [List.length_cons]
      exact ⟨by omega, rest, rfl, hrest.imp_right fun heq => by omega⟩

theorem padEnd_plain (h : ∀ c ∈ ds, c.toNat < 0x10000) :
    padEnd ds places '0' = ds ++ List.replicate (places - ds.length) '0' := by
  rw [padEnd, length_codeUnits h]

theorem sliceUnits_padded (h : BigIntText (ds ++ List.replicate (places - ds.length) '0'))
    (hlength : ds.length ≤ places) :
    sliceUnits (padEnd ds places '0') places = some (ds ++ List.replicate (places - ds.length) '0') := by
  have hplain : ∀ c ∈ ds ++ List.replicate (places - ds.length) '0', c.toNat < 0x10000 := fun c hc => (h.plain c hc).1
  have hunits : (ds ++ List.replicate (places - ds.length) '0').length = places := by
    rw [List.length_append, List.length_replicate, Nat.add_sub_cancel' hlength]
  have hcut : sliceUnits ((ds ++ List.replicate (places - ds.length) '0') ++ []) _ = some _ := sliceUnits_append hplain
  rw [List.append_nil, hunits] at hcut
  rw [padEnd_plain fun c hc => hplain c (List.mem_append_left _ hc)]
  exact hcut

theorem AmountText.of_units (hcs : BigIntText cs) (hcut : sliceUnits (padEnd ds places '0') places = some us)
    (hus : BigIntText us) (hrest : rest = [] ∨ ∃ more, rest = '.' :: more) :
    AmountText places (cs ++ '.' :: (ds ++ rest)) := by
  have hplain : ∀ c ∈ us, c.toNat < 0x10000 := fun c hc => (hus.plain c hc).1
  obtain ⟨hlength, after, happend, hafter⟩ := sliceUnits_eq_some hcut hplain
  rw [padEnd] at happend
  -- the cut is among the zeros, or it is before the end of the part itself
  rcases List.append_eq_append_iff.mp happend with ⟨zeros, rfl, hzeros⟩ | ⟨dropped, rfl, hdropped⟩
  · rw [length_codeUnits fun c hc => hplain c (List.mem_append_left _ hc)] at hzeros
    have hlengths := congrArg List.length hzeros
    rw [List.length_replicate, List.length_append] at hlengths
    rw [List.length_append] at hlength hafter
    have hnone : after = [] := hafter.elim id fun h => List.length_eq_zero_iff.mp (by omega)
    rw [hnone, List.append_nil] at hzeros
    rw [← hzeros] at hus
    exact .padded hcs (by omega) hus hrest
  · have hunits : us.length = places := by
      rcases hafter with rfl | h
      · obtain ⟨rfl, hnone⟩ := List.append_eq_nil_iff.mp hdropped.symm
        rw [List.append_nil, length_codeUnits hplain, List.replicate_eq_nil_iff] at hnone
        omega
      · exact h
    rw [List.append_assoc]
    exact .cut hcs hus hunits

theorem exists_point (cs : List Char) :
    ∃ ds rest, cs = ds ++ rest ∧ '.' ∉ ds ∧ (rest = [] ∨ ∃ more, rest = '.' :: more) := by
  by_cases h : '.' ∈ cs
  · obtain ⟨ds, more, rfl, hds⟩ := List.eq_append_cons_of_mem h
    exact ⟨ds, '.' :: more, rfl, hds, .inr ⟨more, rfl⟩⟩
  · exact ⟨cs, [], (List.append_nil cs).symm, h, .inl rfl⟩

end Grammar

section Acceptance

variable {host : Host} {places : Nat} {s : String}

theorem parseDecimalToUnits_isOk : (∃ v, parseDecimalToUnits host s (.finite places) = .ok v) ↔
    BigIntText (wholePart s) ∧ ∃ units, fractionUnits s places = some units ∧ BigIntText units := by
  have hpositive : require "RangeError" (decide (0 ≤ (places : Int))) = .ok () :=
    require_eq_ok.mpr (decide_eq_true (Int.natCast_nonneg _))
  simp only [← stringToBigInt_text, parseDecimalToUnits, bigInt_natCast, ok_bind, hpositive, Int.toNat_natCast,
    bind_eq_ok, ofOption_eq_ok, Except.ok.injEq]
  constructor
  · rintro ⟨_, whole, hwhole, units, hunits, fraction, hfraction, _⟩
    exact ⟨⟨whole, hwhole⟩, units, hunits, fraction, hfraction⟩
  · rintro ⟨⟨whole, hwhole⟩, units, hunits, fraction, hfraction⟩
    exact ⟨_, whole, hwhole, units, hunits, fraction, hfraction, rfl⟩

theorem amountText_of_isOk (h : ∃ v, parseDecimalToUnits host s (.finite places) = .ok v) :
    AmountText places s.toList := by
  obtain ⟨hcs, us, hcut, hus⟩ := parseDecimalToUnits_isOk.mp h
  by_cases hpoint : '.' ∈ s.toList
  · obtain ⟨cs, t, htext, hnot⟩ := List.eq_append_cons_of_mem hpoint
    obtain ⟨ds, rest, rfl, hds, hrest⟩ := exists_point t
    rw [wholePart_point htext hnot] at hcs
    rw [fractionUnits, fractionPart_point htext hnot hds hrest] at hcut
    rw [htext]
    exact .of_units hcs hcut hus hrest
  · rw [wholePart_plain hpoint] at hcs
    exact .whole hcs

theorem isOk_of_amountText (h : AmountText places s.toList) :
    ∃ v, parseDecimalToUnits host s (.finite places) = .ok v := by
  rw [parseDecimalToUnits_isOk, fractionUnits]
  generalize htext : s.toList = text at h
  cases h with
  | whole hcs =>
    have hpoint : '.' ∉ s.toList := by
      rw [htext]
      exact hcs.not_point
    rw [wholePart_plain hpoint, fractionPart_plain hpoint, htext]
    have hzeros : BigIntText ([] ++ List.replicate (places - ([] : List Char).length) '0') := bigIntText_zeros
    exact ⟨hcs, _, sliceUnits_padded hzeros (Nat.zero_le places), hzeros⟩
  | @padded cs ds rest hcs hlength hds hrest =>
    have hpoint : '.' ∉ ds := fun hc => hds.not_point (List.mem_append_left _ hc)
    rw [wholePart_point htext hcs.not_point, fractionPart_point htext hcs.not_point hpoint hrest]
    exact ⟨hcs, _, sliceUnits_padded hds hlength, hds⟩
  | @cut cs ds rest hcs hds hlength =>
    obtain ⟨dropped, rest, rfl, hdropped, hrest⟩ := exists_point rest
    rw [← List.append_assoc] at htext
    have hpoint : '.' ∉ ds ++ dropped := fun hc => (List.mem_append.mp hc).elim hds.not_point hdropped
    rw [wholePart_point htext hcs.not_point, fractionPart_point htext hcs.not_point hpoint hrest, padEnd,
      List.append_assoc, ← hlength, sliceUnits_append fun c hc => (hds.plain c hc).1]
    exact ⟨hcs, ds, rfl, hds⟩

/-- Numerals are read as they should be, and what else is read is the rest of the grammar. -/
theorem parseDecimalToUnits_exact :
    (∀ v, parseDecimalToUnits host s (.finite places) = .ok v →
      ∃ n : Numeral, n.text = s.toList ∧ v = ⌊n.value * 10 ^ places⌋) ↔
    (∃ n : Numeral, n.text = s.toList) ∨ ¬ AmountText places s.toList := by
  constructor
  · intro h
    by_cases htext : AmountText places s.toList
    · obtain ⟨v, hv⟩ := isOk_of_amountText htext
      obtain ⟨n, hn, _⟩ := h v hv
      exact .inl ⟨n, hn⟩
    · exact .inr htext
  · intro h v hv
    obtain ⟨n, hn⟩ := h.resolve_right (absurd (amountText_of_isOk ⟨v, hv⟩))
    rw [parseDecimalToUnits_numeral hn, Except.ok.injEq] at hv
    exact ⟨n, hn, hv.symm⟩

/-- Blanks, signs and second points are read as something. -/
example : ["", " 1 ", "-1", "1.2.3"].map (fun s =>
    parseDecimalToUnits (plainHost (Vector.replicate 32 0)) s (.finite (6 : Nat))) =
      [.ok 0, .ok 1000000, .ok (-1000000), .ok 1200000] := by
  rfl

theorem hexadecimal_accepted : ¬ (∀ v,
    parseDecimalToUnits (plainHost (Vector.replicate 32 0)) "0x10" (.finite (6 : Nat)) = .ok v →
      ∃ n : Numeral, n.text = "0x10".toList ∧ v = ⌊n.value * 10 ^ 6⌋) := by
  have hread : parseDecimalToUnits (plainHost (Vector.replicate 32 0)) "0x10" (.finite (6 : Nat)) = .ok 16000000 := by
    rfl
  intro h
  obtain ⟨n, htext, _⟩ := h _ hread
  have hmark : 'x' ∈ n.text := by
    rw [htext]
    decide
  rcases Numeral.mem_text hmark with hdigit | hpoint
  · exact absurd hdigit (by decide)
  · exact absurd hpoint (by decide)

end Acceptance

end SanBridge.Tooling.TokenAmounts
