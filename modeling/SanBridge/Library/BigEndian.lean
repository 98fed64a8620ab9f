import Mathlib.Data.List.Induction
import Mathlib.Data.Nat.Basic
import Mathlib.Tactic.Ring

namespace SanBridge.Library.BigEndian

abbrev Bytes := List UInt8

/-- The words of these widths have literals. -/
instance neZero16 : NeZero (2 ^ 16) := ⟨by decide⟩
instance neZero32 : NeZero (2 ^ 32) := ⟨by decide⟩
instance neZero64 : NeZero (2 ^ 64) := ⟨by decide⟩
instance neZero160 : NeZero (2 ^ 160) := ⟨by decide⟩
instance neZero256 : NeZero (2 ^ 256) := ⟨by decide⟩

/-- The last `width` base-256 digits of a number, most significant first. -/
def beBytes : Nat → Nat → Bytes
  | 0, _ => []
  | width + 1, n => beBytes width (n / 256) ++ [UInt8.ofNat (n % 256)]

def readBe (bytes : Bytes) : Nat := bytes.foldl (fun n b => 256 * n + b.toNat) 0

def leBytes (width n : Nat) : Bytes := (beBytes width n).reverse

def readLe (bytes : Bytes) : Nat := readBe bytes.reverse

@[simp] theorem length_beBytes (width n : Nat) : (beBytes width n).length = width := by
  induction width generalizing n with
  | zero => rfl
  | succ width ih => simp [beBytes, ih]

@[simp] theorem length_leBytes (width n : Nat) : (leBytes width n).length = width := by
  simp [leBytes]

theorem readBe_snoc (bytes : Bytes) (b : UInt8) : readBe (bytes ++ [b]) = 256 * readBe bytes + b.toNat := by
  simp [readBe]

theorem readBe_beBytes (width n : Nat) : readBe (beBytes width n) = n % 256 ^ width := by
  induction width generalizing n with
  | zero => simp [beBytes, readBe, Nat.mod_one]
  | succ width ih =>
    have hb : (UInt8.ofNat (n % 256)).toNat = n % 256 :=
      UInt8.toNat_ofNat_of_lt (Nat.mod_lt _ (by decide))
    rw [beBytes, readBe_snoc, ih, hb, pow_succ', Nat.mod_mul]
    ring

theorem readBe_beBytes_of_lt {width n : Nat} (h : n < 256 ^ width) : readBe (beBytes width n) = n := by
  rw [readBe_beBytes, Nat.mod_eq_of_lt h]

theorem readLe_leBytes (width n : Nat) : readLe (leBytes width n) = n % 256 ^ width := by
  rw [readLe, leBytes, List.reverse_reverse, readBe_beBytes]

theorem readBe_lt (bytes : Bytes) : readBe bytes < 256 ^ bytes.length := by
  induction bytes using List.reverseRecOn with
  | nil => simp [readBe]
  | append_singleton bytes b ih =>
    have hb : b.toNat < 256 := b.toNat_lt
    rw [readBe_snoc, List.length_append, List.length_singleton, pow_succ]
    omega

theorem beBytes_mod (width n : Nat) : beBytes width (n % 256 ^ width) = beBytes width n := by
  induction width generalizing n with
  | zero => rfl
  | succ width ih =>
    have hlow : n % 256 ^ (width + 1) % 256 = n % 256 :=
      Nat.mod_mod_of_dvd n (Dvd.intro_left (256 ^ width) (pow_succ 256 width).symm)
    have hhigh : n % 256 ^ (width + 1) / 256 = n / 256 % 256 ^ width := by
      rw [pow_succ', Nat.mod_mul_right_div_self]
    rw [beBytes, beBytes, hlow, hhigh, ih]

theorem beBytes_readBe_append (high low : Bytes) : beBytes low.length (readBe (high ++ low)) = low := by
  induction low using List.reverseRecOn with
  | nil => rfl
  | append_singleton low b ih =>
    have hb : b.toNat < 256 := b.toNat_lt
    have hrest : (256 * readBe (high ++ low) + b.toNat) / 256 = readBe (high ++ low) := by omega
    have hlast : (256 * readBe (high ++ low) + b.toNat) % 256 = b.toNat := by omega
    rw [← List.append_assoc, readBe_snoc, List.length_append, List.length_singleton, beBytes, hrest, hlast, ih,
      UInt8.ofNat_toNat]

end SanBridge.Library.BigEndian
