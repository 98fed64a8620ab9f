import Mathlib.Data.List.TakeWhile
import Mathlib.Data.Nat.Digits.Lemmas
import SanBridge.Library.BigEndian

namespace SanBridge.Library.Base58

open Library.BigEndian

section Rebase

/-- The digits of a number in another base. Its leading zeros are kept, one for one. -/
def rebase (b c : ℕ) (ds : List ℕ) : List ℕ :=
  ds.takeWhile (· = 0) ++ (Nat.digits c (Nat.ofDigits b ds.reverse)).reverse

variable {b c : ℕ} {zs ds : List ℕ}

theorem eq_zero_of_mem_takeWhile {d : ℕ} (h : d ∈ ds.takeWhile (· = 0)) : d = 0 := by
  have hd := List.mem_takeWhile_imp h
  exact of_decide_eq_true hd

theorem ofDigits_zeros (hz : ∀ d ∈ zs, d = 0) : Nat.ofDigits b zs = 0 := by
  induction zs with
  | nil => rfl
  | cons d zs ih =>
    have hd : d = 0 := hz d List.mem_cons_self
    rw [Nat.ofDigits_cons, hd, ih fun d hd => hz d (List.mem_cons_of_mem _ hd), mul_zero, add_zero]

theorem rebase_append (hz : ∀ d ∈ zs, d = 0) (hd : ds.head? ≠ some 0) :
    rebase b c (zs ++ ds) = zs ++ (Nat.digits c (Nat.ofDigits b ds.reverse)).reverse := by
  have hzeros : Nat.ofDigits b zs.reverse = 0 :=
    ofDigits_zeros fun d hd => hz d (List.mem_reverse.mp hd)
  have htake : (zs ++ ds).takeWhile (· = 0) = zs := by
    rw [List.takeWhile_append_of_pos fun d hd => decide_eq_true (hz d hd)]
    cases ds with
    | nil => exact List.append_nil zs
    | cons d ds =>
      have hne : d ≠ 0 := fun h => hd (by rw [h, List.head?_cons])
      rw [List.takeWhile_cons_of_neg (by simpa using hne), List.append_nil]
  rw [rebase, htake, List.reverse_append, Nat.ofDigits_append, hzeros, mul_zero, add_zero]

theorem head_digits (n : ℕ) : (Nat.digits c n).reverse.head? ≠ some 0 := by
  intro h
  rw [List.head?_reverse, List.getLast?_eq_some_iff] at h
  obtain ⟨init, h⟩ := h
  have hne : n ≠ 0 := by
    rintro rfl
    simp at h
  have hlast := Nat.getLast_digit_ne_zero c hne
  simp [h] at hlast

theorem rebase_rebase (hb : 1 < b) (hd : ∀ d ∈ ds, d < b) : rebase c b (rebase b c ds) = ds := by
  obtain ⟨zs, rest, rfl, hz, hrest⟩ : ∃ zs rest, ds = zs ++ rest ∧ (∀ d ∈ zs, d = 0) ∧ rest.head? ≠ some 0 := by
    refine ⟨ds.takeWhile (· = 0), ds.dropWhile (· = 0), List.takeWhile_append_dropWhile.symm, fun d hd => ?_, ?_⟩
    · exact eq_zero_of_mem_takeWhile hd
    · intro h
      have := List.head?_dropWhile_not (fun d : ℕ => decide (d = 0)) ds
      simp [h] at this
  rw [rebase_append hz hrest, rebase_append hz (head_digits _), List.reverse_reverse, Nat.ofDigits_digits]
  congr 1
  rw [Nat.digits_ofDigits b hb, List.reverse_reverse]
  · exact fun d hr => hd d (List.mem_append_right _ (List.mem_reverse.mp hr))
  · intro hne hlast
    apply hrest
    rw [← List.getLast?_reverse, List.getLast?_eq_some_getLast hne, hlast]

end Rebase

section Text

def alphabet : List Char :=
  ['1', '2', '3', '4', '5', '6', '7', '8', '9', 'A', 'B', 'C', 'D', 'E', 'F', 'G', 'H', 'J', 'K', 'L', 'M', 'N', 'P',
    'Q', 'R', 'S', 'T', 'U', 'V', 'W', 'X', 'Y', 'Z', 'a', 'b', 'c', 'd', 'e', 'f', 'g', 'h', 'i', 'j', 'k', 'm', 'n',
    'o', 'p', 'q', 'r', 's', 't', 'u', 'v', 'w', 'x', 'y', 'z']

def encode (bytes : Bytes) : String :=
  String.ofList ((rebase 256 58 (bytes.map UInt8.toNat)).map fun d => alphabet.getD d '1')

def decode (text : String) : Option Bytes := do
  let digits ← text.toList.mapM fun c => alphabet.idxOf? c
  some ((rebase 58 256 digits).map UInt8.ofNat)

theorem idxOf_getD {d : ℕ} (h : d < 58) : alphabet.idxOf? (alphabet.getD d '1') = some d := by
  have hall : ∀ d : Fin 58, alphabet.idxOf? (alphabet.getD d '1') = some d.val := by decide
  exact hall ⟨d, h⟩

theorem mapM_idxOf {ds : List ℕ} (h : ∀ d ∈ ds, d < 58) :
    (ds.map fun d => alphabet.getD d '1').mapM (fun c => alphabet.idxOf? c) = some ds := by
  induction ds with
  | nil => rfl
  | cons d ds ih =>
    rw [List.map_cons, List.mapM_cons, idxOf_getD (h d List.mem_cons_self),
      ih fun d hd => h d (List.mem_cons_of_mem _ hd)]
    rfl

theorem lt_of_mem_rebase {b c d : ℕ} {ds : List ℕ} (hc : 1 < c) (h : d ∈ rebase b c ds) : d < c := by
  rw [rebase, List.mem_append] at h
  cases h with
  | inl h =>
    have hd := eq_zero_of_mem_takeWhile h
    omega
  | inr h => exact Nat.digits_lt_base hc (List.mem_reverse.mp h)

theorem decode_encode (bytes : Bytes) : decode (encode bytes) = some bytes := by
  have hbytes : ∀ d ∈ bytes.map UInt8.toNat, d < 256 := by
    intro d hd
    obtain ⟨b, _, rfl⟩ := List.mem_map.mp hd
    exact b.toNat_lt
  rw [decode, encode, String.toList_ofList, mapM_idxOf fun d hd => lt_of_mem_rebase (by decide) hd]
  change some ((rebase 58 256 (rebase 256 58 (bytes.map UInt8.toNat))).map UInt8.ofNat) = _
  rw [rebase_rebase (by decide) hbytes, List.map_map]
  have hid : UInt8.ofNat ∘ UInt8.toNat = id := funext fun b => UInt8.ofNat_toNat
  rw [hid, List.map_id]

theorem getD_of_mapM {cs : List Char} {ds : List ℕ} (h : cs.mapM (fun c => alphabet.idxOf? c) = some ds) :
    (∀ d ∈ ds, d < 58) ∧ (ds.map fun d => alphabet.getD d '1') = cs := by
  induction cs generalizing ds with
  | nil =>
    obtain rfl : [] = ds := Option.some.inj h
    exact ⟨fun d hd => absurd hd List.not_mem_nil, rfl⟩
  | cons c cs ih =>
    rw [List.mapM_cons, Option.bind_eq_bind, Option.bind_eq_some_iff] at h
    obtain ⟨d, hd, h⟩ := h
    rw [Option.bind_eq_bind, Option.bind_eq_some_iff] at h
    obtain ⟨rest, hrest, h⟩ := h
    obtain rfl : d :: rest = ds := Option.some.inj h
    obtain ⟨hlt, hc, _⟩ := List.idxOf?_eq_some_iff.mp hd
    obtain ⟨hall, hmap⟩ := ih hrest
    refine ⟨List.forall_mem_cons.mpr ⟨hlt, hall⟩, ?_⟩
    have hget : alphabet.getD d '1' = c := by
      rw [List.getD_eq_getElem?_getD, List.getElem?_eq_getElem hlt, hc, Option.getD_some]
    rw [List.map_cons, hget, hmap]

theorem encode_decode {text : String} {bytes : Bytes} (h : decode text = some bytes) : encode bytes = text := by
  rw [decode, Option.bind_eq_bind, Option.bind_eq_some_iff] at h
  obtain ⟨digits, hdigits, h⟩ := h
  obtain ⟨hall, hmap⟩ := getD_of_mapM hdigits
  rw [Option.some.injEq] at h
  have hbytes : bytes.map UInt8.toNat = rebase 58 256 digits := by
    rw [← h, List.map_map]
    conv_rhs => rw [← List.map_id (rebase 58 256 digits)]
    apply List.map_congr_left
    intro d hd
    exact UInt8.toNat_ofNat_of_lt' (lt_of_mem_rebase (by decide) hd)
  rw [encode, hbytes, rebase_rebase (by decide) hall, hmap, String.ofList_toList]

theorem decode_empty : decode "" = some [] := rfl

end Text

end SanBridge.Library.Base58
