import Mathlib.Data.List.Infix
import Mathlib.Order.Bounds.Basic

namespace SanBridge.Library.Packing

variable {hit : Nat → Prop} {width start : Nat} {ps qs : List Nat}

/-- Hits from `start` on, in their order, no two of which are closer than `width`. -/
structure Packed (hit : Nat → Prop) (width start : Nat) (ps : List Nat) : Prop where
  hits : ∀ p ∈ ps, start ≤ p ∧ hit p
  apart : ps.Pairwise fun p q => p + width ≤ q

/-- The hits that a scan meets that goes on `width` behind each of them. -/
inductive Scanned (hit : Nat → Prop) (width : Nat) : Nat → List Nat → Prop
  | done {start : Nat} (h : ∀ p, start ≤ p → ¬ hit p) : Scanned hit width start []
  | found {start p : Nat} {ps : List Nat} (hle : start ≤ p) (hp : hit p) (hfirst : ∀ q, start ≤ q → q < p → ¬ hit q)
      (hrest : Scanned hit width (p + width) ps) : Scanned hit width start (p :: ps)

theorem packed_nil : Packed hit width start [] where
  hits := by simp
  apart := List.Pairwise.nil

theorem packed_cons {p : Nat} (hle : start ≤ p) (hp : hit p) (h : Packed hit width (p + width) ps) :
    Packed hit width start (p :: ps) where
  hits := by
    intro q hq
    rcases List.mem_cons.mp hq with rfl | hq
    · exact ⟨hle, hp⟩
    · obtain ⟨hle', hhit⟩ := h.hits q hq
      exact ⟨by omega, hhit⟩
  apart := List.pairwise_cons.mpr ⟨fun q hq => (h.hits q hq).1, h.apart⟩

theorem Packed.tail {q : Nat} (h : Packed hit width start (q :: qs)) : Packed hit width (q + width) qs where
  hits := by
    intro p hp
    exact ⟨(List.pairwise_cons.mp h.apart).1 p hp, (h.hits p (List.mem_cons_of_mem q hp)).2⟩
  apart := (List.pairwise_cons.mp h.apart).2

theorem Packed.mono {start' : Nat} (h : Packed hit width start ps) (hle : start' ≤ start) :
    Packed hit width start' ps where
  hits := fun p hp => ⟨hle.trans (h.hits p hp).1, (h.hits p hp).2⟩
  apart := h.apart

theorem Scanned.packed (h : Scanned hit width start ps) : Packed hit width start ps := by
  induction h with
  | done _ => exact packed_nil
  | found hle hp _ _ ih => exact packed_cons hle hp ih

/-- No choice of hits apart from each other is longer than the scan. The first hit of
the choice is not before the first of the scan, so what follows it starts later too. -/
theorem Scanned.length_le (h : Scanned hit width start ps) (hq : Packed hit width start qs) :
    qs.length ≤ ps.length := by
  induction h generalizing qs with
  | done hnone =>
    cases qs with
    | nil => exact le_refl _
    | cons q qs =>
      obtain ⟨hle, hhit⟩ := hq.hits q List.mem_cons_self
      exact absurd hhit (hnone q hle)
  | @found start p ps _ _ hfirst _ ih =>
    cases qs with
    | nil => exact Nat.zero_le _
    | cons q qs =>
      obtain ⟨hle, hhit⟩ := hq.hits q List.mem_cons_self
      have hpq : p ≤ q := by
        by_contra hlt
        exact hfirst q hle (by omega) hhit
      have hrest := ih (hq.tail.mono (by omega))
      simp only [List.length_cons]
      omega

theorem Scanned.greatest (h : Scanned hit width start ps) :
    IsGreatest {n | ∃ qs, Packed hit width start qs ∧ qs.length = n} ps.length := by
  constructor
  · exact ⟨ps, h.packed, rfl⟩
  · rintro _ ⟨qs, hq, rfl⟩
    exact h.length_le hq

theorem Scanned.eq_nil_iff (h : Scanned hit width start ps) : ps = [] ↔ ∀ p, start ≤ p → ¬ hit p := by
  cases h with
  | done hnone => simpa using hnone
  | found hle hp _ _ =>
    simp only [List.cons_ne_nil, false_iff]
    intro hnone
    exact hnone _ hle hp

section Occurrences

variable {α : Type} {needle haystack : List α} {p : Nat}

def OccursAt (haystack needle : List α) (p : Nat) : Prop := needle <+: haystack.drop p

instance [DecidableEq α] : Decidable (OccursAt haystack needle p) :=
  inferInstanceAs (Decidable (needle <+: haystack.drop p))

theorem OccursAt.le (h : OccursAt haystack needle p) (hne : needle ≠ []) : p + needle.length ≤ haystack.length := by
  have hlength := h.length_le
  have hpos := List.length_pos_iff.mpr hne
  rw [List.length_drop] at hlength
  omega

theorem exists_occursAt : (∃ p, OccursAt haystack needle p) ↔ needle <:+: haystack := by
  constructor
  · rintro ⟨p, suffix, h⟩
    exact ⟨haystack.take p, suffix, by rw [List.append_assoc, h, List.take_append_drop]⟩
  · rintro ⟨before, suffix, rfl⟩
    refine ⟨before.length, suffix, ?_⟩
    rw [List.append_assoc, List.drop_left]

end Occurrences

end SanBridge.Library.Packing
