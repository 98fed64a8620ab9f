import Mathlib.Algebra.BigOperators.Fin
import Mathlib.Algebra.Order.BigOperators.Group.Finset

namespace SanBridge.Library.Accounts

open Finset

/-- Balances of finitely many accounts together with the supply they add up to. -/
structure Ledger (A : Type) [Fintype A] where
  balances : A → Nat
  supply : Nat
  sum_eq : ∑ a, balances a = supply

variable {A : Type} [Fintype A] [DecidableEq A]

omit [DecidableEq A] in
theorem balance_le_supply (l : Ledger A) (a : A) : l.balances a ≤ l.supply := by
  rw [← l.sum_eq]
  exact single_le_sum (fun _ _ => Nat.zero_le _) (mem_univ a)

theorem sum_update (f : A → Nat) (a : A) (v : Nat) :
    ∑ i, Function.update f a v i + f a = ∑ i, f i + v := by
  have hu := sum_update_of_mem (mem_univ a) f v
  have hf := add_sum_erase univ f (mem_univ a)
  rw [erase_eq] at hf
  omega

def empty (A : Type) [Fintype A] : Ledger A := ⟨fun _ => 0, 0, by simp⟩

def mint (l : Ledger A) (dst : A) (amount : Nat) : Ledger A where
  balances := Function.update l.balances dst (l.balances dst + amount)
  supply := l.supply + amount
  sum_eq := by
    have h := sum_update l.balances dst (l.balances dst + amount)
    have hs := l.sum_eq
    omega

def burn (l : Ledger A) (src : A) (amount : Nat) (h : amount ≤ l.balances src) : Ledger A where
  balances := Function.update l.balances src (l.balances src - amount)
  supply := l.supply - amount
  sum_eq := by
    have hu := sum_update l.balances src (l.balances src - amount)
    have hs := l.sum_eq
    have hb := balance_le_supply l src
    omega

/-- A transfer is a burn from the source followed by a mint to the destination. -/
def transfer (l : Ledger A) (src dst : A) (amount : Nat) (h : amount ≤ l.balances src) : Ledger A :=
  mint (burn l src amount h) dst amount

omit [DecidableEq A] in
@[simp] theorem supply_empty : (empty A).supply = 0 := rfl

@[simp] theorem supply_mint (l : Ledger A) (dst : A) (amount : Nat) :
    (mint l dst amount).supply = l.supply + amount := rfl

theorem supply_burn (l : Ledger A) (src : A) (amount : Nat) (h : amount ≤ l.balances src) :
    (burn l src amount h).supply + amount = l.supply := by
  have hb := balance_le_supply l src
  simp only [burn]
  omega

@[simp] theorem supply_transfer (l : Ledger A) (src dst : A) (amount : Nat)
    (h : amount ≤ l.balances src) : (transfer l src dst amount h).supply = l.supply :=
  supply_burn l src amount h

end SanBridge.Library.Accounts
