import Mathlib.Algebra.BigOperators.Group.Multiset.Basic
import Mathlib.Algebra.Order.BigOperators.Group.Multiset
import Mathlib.Algebra.Order.Monoid.Canonical.Defs
import Mathlib.Tactic.Abel

namespace SanBridge.Library.LockMint

/-- A bridge that locks value on one side and issues as much on the other: what
is locked, what is issued, and the amounts on the way in each direction. -/
structure Books (M : Type) where
  locked : M
  issued : M
  outgoing : Multiset M
  returning : Multiset M

variable {M : Type} [AddCancelCommMonoid M] [DecidableEq M] {b b' : Books M}

/-- What may happen: value is locked and announced, an announced amount is
issued, issued value is destroyed and announced back, a returning amount is released. -/
inductive Move : Books M → Books M → Prop
  | stay (b : Books M) : Move b b
  | lock (b : Books M) (n : M) :
      Move b { b with locked := b.locked + n, outgoing := n ::ₘ b.outgoing }
  | issue (b : Books M) {n : M} (h : n ∈ b.outgoing) :
      Move b { b with issued := b.issued + n, outgoing := b.outgoing.erase n }
  | destroy (b : Books M) {n issued : M} (h : issued + n = b.issued) :
      Move b { b with issued := issued, returning := n ::ₘ b.returning }
  | release (b : Books M) {n locked : M} (hn : n ∈ b.returning) (h : locked + n = b.locked) :
      Move b { b with locked := locked, returning := b.returning.erase n }

def Balanced (b : Books M) : Prop := b.locked = b.issued + b.outgoing.sum + b.returning.sum

theorem sum_erase_add {q : Multiset M} {n : M} (h : n ∈ q) : (q.erase n).sum + n = q.sum := by
  conv_rhs => rw [← Multiset.cons_erase h, Multiset.sum_cons]
  exact add_comm _ _

/-- No move creates or destroys value. -/
theorem Move.balanced (h : Move b b') (hb : Balanced b) : Balanced b' := by
  rw [Balanced] at hb ⊢
  cases h with
  | stay => exact hb
  | lock n =>
    change b.locked + n = b.issued + (n ::ₘ b.outgoing).sum + b.returning.sum
    rw [Multiset.sum_cons, hb]
    abel
  | @issue n hn =>
    change b.locked = b.issued + n + (b.outgoing.erase n).sum + b.returning.sum
    rw [hb, ← sum_erase_add hn]
    abel
  | @destroy n issued he =>
    change b.locked = issued + b.outgoing.sum + (n ::ₘ b.returning).sum
    rw [Multiset.sum_cons, hb, ← he]
    abel
  | @release n locked hn he =>
    change locked = b.issued + b.outgoing.sum + (b.returning.erase n).sum
    rw [← sum_erase_add hn, ← he, ← add_assoc] at hb
    exact add_right_cancel hb

section Ordered

variable [PartialOrder M] [CanonicallyOrderedAdd M]

omit [DecidableEq M] in
theorem Balanced.issued_le (h : Balanced b) : b.issued ≤ b.locked := by
  rw [h, add_assoc]
  exact le_self_add

omit [DecidableEq M] in
theorem Balanced.returning_le [IsOrderedAddMonoid M] (h : Balanced b) {n : M} (hn : n ∈ b.returning) :
    n ≤ b.locked := by
  rw [h]
  exact (Multiset.single_le_sum (fun _ _ => zero_le) n hn).trans le_add_self

end Ordered

end SanBridge.Library.LockMint
