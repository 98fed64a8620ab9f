import Mathlib.Algebra.Order.Monoid.Canonical.Defs
import Mathlib.Algebra.Order.Monoid.Defs
import Mathlib.Algebra.Order.Monoid.Unbundled.MinMax
import Mathlib.Algebra.Order.Sub.Basic
import Mathlib.Tactic.Common

namespace SanBridge.Library.TokenBucket

/-- A bucket that cannot hold more than its capacity. -/
@[ext] structure Bucket (K : Type) [LE K] where
  capacity : K
  level : K
  level_le : level ≤ capacity

variable {K : Type} [AddCommMonoid K] [LinearOrder K]

namespace Bucket

/-- Pour an amount in; what does not fit is lost. -/
def fill (b : Bucket K) (x : K) : Bucket K :=
  ⟨b.capacity, min b.capacity (b.level + x), min_le_left _ _⟩

@[simp] theorem capacity_fill (b : Bucket K) (x : K) : (b.fill x).capacity = b.capacity := rfl

theorem level_fill (b : Bucket K) (x : K) : (b.fill x).level = min b.capacity (b.level + x) := rfl

theorem level_fill_le (b : Bucket K) (x : K) : (b.fill x).level ≤ b.level + x := min_le_right _ _

theorem fill_zero (b : Bucket K) : b.fill 0 = b := by
  apply Bucket.ext
  · rfl
  · simpa [level_fill] using b.level_le

/-- Filling in two portions is filling once with their sum: nothing is lost or
gained by looking at the bucket in between. -/
theorem fill_fill [IsOrderedAddMonoid K] (b : Bucket K) (x : K) {y : K} (hy : 0 ≤ y) :
    (b.fill x).fill y = b.fill (x + y) := by
  apply Bucket.ext
  · rfl
  · have hc : b.capacity ≤ b.capacity + y := le_add_of_nonneg_right hy
    calc min b.capacity (min b.capacity (b.level + x) + y)
        = min b.capacity (min (b.capacity + y) (b.level + x + y)) := by rw [min_add_add_right]
      _ = min b.capacity (b.level + (x + y)) := by rw [← min_assoc, min_eq_left hc, add_assoc]

def draw [CanonicallyOrderedAdd K] [Sub K] [OrderedSub K] (b : Bucket K) (x : K) : Bucket K :=
  ⟨b.capacity, b.level - x, tsub_le_self.trans b.level_le⟩

end Bucket

/-- A bucket that gains the same amount in every unit of time. -/
@[ext] structure Meter (K : Type) [LE K] where
  bucket : Bucket K
  rate : K
  updated : ℕ

/-- What can be asked of a meter. A draw takes its amount or is refused. -/
inductive Request (K : Type)
  | pour (x : K)
  | draw (x : K)

/-- The times of a list of requests never go back, and not before the given one. -/
def Ordered : ℕ → List (ℕ × Request K) → Prop
  | _, [] => True
  | t, (t', _) :: qs => t ≤ t' ∧ Ordered t' qs

namespace Meter

def bucketAt (m : Meter K) (t : ℕ) : Bucket K := m.bucket.fill ((t - m.updated) • m.rate)

def level (m : Meter K) (t : ℕ) : K := (m.bucketAt t).level

def settle (m : Meter K) (t : ℕ) : Meter K := ⟨m.bucketAt t, m.rate, t⟩

section Settle

variable [IsOrderedAddMonoid K] [CanonicallyOrderedAdd K] {m m' : Meter K} {t t' : ℕ}

theorem bucketAt_settle (h : m.updated ≤ t) (h' : t ≤ t') : (m.settle t).bucketAt t' = m.bucketAt t' := by
  have hsplit : t' - m.updated = (t - m.updated) + (t' - t) := by omega
  have hpos : 0 ≤ (t' - t) • m.rate := zero_le
  calc (m.settle t).bucketAt t'
      = (m.bucket.fill ((t - m.updated) • m.rate)).fill ((t' - t) • m.rate) := rfl
    _ = m.bucket.fill ((t - m.updated) • m.rate + (t' - t) • m.rate) := Bucket.fill_fill _ _ hpos
    _ = m.bucketAt t' := by rw [← add_nsmul, ← hsplit, bucketAt]

theorem settle_settle (h : m.updated ≤ t) (h' : t ≤ t') : (m.settle t).settle t' = m.settle t' := by
  rw [settle, bucketAt_settle h h']
  rfl

theorem settle_congr (h : m.updated ≤ t) (h' : m'.updated ≤ t) (he : m.settle t = m'.settle t)
    (ht : t ≤ t') : m.settle t' = m'.settle t' := by
  rw [← settle_settle h ht, he, settle_settle h' ht]

end Settle

section Serve

variable [CanonicallyOrderedAdd K] [Sub K] [OrderedSub K] {m m' m₁ : Meter K} {t : ℕ} {q : Request K}

def serve (m : Meter K) (t : ℕ) : Request K → Option (Meter K)
  | .pour x => some ⟨(m.bucketAt t).fill x, m.rate, t⟩
  | .draw x => if x ≤ m.level t then some ⟨(m.bucketAt t).draw x, m.rate, t⟩ else none

/-- The levels after each of a list of requests. A refused one has no level and
leaves the meter as it was. -/
def answers (m : Meter K) : List (ℕ × Request K) → List (Option K)
  | [] => []
  | (t, q) :: qs =>
    match m.serve t q with
    | some m' => some m'.bucket.level :: m'.answers qs
    | none => none :: m.answers qs

theorem updated_of_serve (h : m.serve t q = some m₁) : m₁.updated = t := by
  cases q with
  | pour x =>
    cases h
    rfl
  | draw x =>
    rw [serve, Option.ite_none_right_eq_some] at h
    obtain ⟨_, h⟩ := h
    cases h
    rfl

theorem serve_congr (he : m.settle t = m'.settle t) : m.serve t q = m'.serve t q := by
  have hb : m.bucketAt t = m'.bucketAt t := congrArg bucket he
  have hr : (m.settle t).rate = (m'.settle t).rate := congrArg rate he
  change m.rate = m'.rate at hr
  cases q with
  | pour x => rw [serve, serve, hb, hr]
  | draw x => rw [serve, serve, level, level, hb, hr]

theorem answers_congr [IsOrderedAddMonoid K] {qs : List (ℕ × Request K)} (h : m.updated ≤ t)
    (h' : m'.updated ≤ t) (he : m.settle t = m'.settle t) (ho : Ordered t qs) :
    m.answers qs = m'.answers qs := by
  induction qs generalizing t with
  | nil => rfl
  | cons r qs ih =>
    obtain ⟨t', q⟩ := r
    obtain ⟨ht, ho⟩ := ho
    have he' := settle_congr h h' he ht
    rw [answers, answers, serve_congr he']
    cases hs : m'.serve t' q with
    | some m₁ => rfl
    | none => simp only [ih (h.trans ht) (h'.trans ht) he' ho]

end Serve

end Meter

end SanBridge.Library.TokenBucket
