import SanBridge.Solana.Fees
import SanBridge.Solana.Tenants

namespace SanBridge.Solana.Isolation

open Library.Runs Solana.Runtime Solana.State Solana.Instructions Solana.Program Solana.Custody Solana.Fees
open Solana.Endpoint (Act EscrowSpared events run_spared)
open Solana.Tenants (Stores Action)

/-- What happens in the program, the endpoint programs of its stores included. -/
inductive OpenAction
  | program (a : Action)
  | endpoint (key : Pubkey) (t : TokenAccounts)

/-- An endpoint program has the signature of the store that names it, and of no other. -/
inductive OpenStep (space : AddressSpace) : Stores → OpenAction → Stores → Prop
  | program {stores stores' : Stores} {a : Action} (h : Solana.Tenants.Step space stores a stores') :
      OpenStep space stores (.program a) stores'
  | endpoint {stores : Stores} {key : Pubkey} {s : StoreState} (t : TokenAccounts) (hs : stores key = some s) :
      OpenStep space stores (.endpoint key t) (Function.update stores key (some { s with tokens := t }))

variable {space : AddressSpace} {key : Pubkey} {stores stores' : Stores} {s : StoreState}
variable {tr : List (Stores × OpenAction)}

/-- A step of the program as a step of one of its stores. -/
def storeStep (key : Pubkey) (p : Stores × OpenAction) : Option (StoreState × Act) :=
  match p.2 with
  | .program (.initOft _) => none
  | .program (.store key' l) => if key' = key then (p.1 key).map fun s => (s, .program l) else none
  | .endpoint key' t => if key' = key then (p.1 key).map fun s => (s, .endpoint t) else none

/-- What a step of the program is to the store with this address. -/
inductive View (space : AddressSpace) (key : Pubkey) (stores : Stores) (a : OpenAction) (stores' : Stores) : Prop
  | created (s₀ : StoreState) (ha : a = .program (.initOft key)) (hi : Initial space s₀) (hkey : s₀.key = key)
      (hnone : stores key = none) (hsome : stores' key = some s₀)
  | stepped (s s' : StoreState) (a' : Act) (hl : storeStep key (stores, a) = some (s, a')) (hs : stores key = some s)
      (hs' : stores' key = some s') (h : Solana.Endpoint.Step space s a' s')
  | untouched (hl : storeStep key (stores, a) = none) (hs : stores' key = stores key)

theorem program_view (key : Pubkey) {a : Action} (h : Solana.Tenants.Step space stores a stores') :
    View space key stores (.program a) stores' := by
  cases h with
  | @initOft s₀ hi hnew =>
    by_cases hk : key = s₀.key
    · subst hk
      exact View.created s₀ rfl hi rfl hnew (Function.update_self _ _ _)
    · exact View.untouched rfl (Function.update_of_ne hk _ _)
  | @store key' s s' l hs h =>
    by_cases hk : key' = key
    · subst hk
      exact View.stepped s s' (.program l) (by simp [storeStep, hs]) hs (Function.update_self _ _ _) (.program h)
    · exact View.untouched (by simp [storeStep, hk]) (Function.update_of_ne (Ne.symm hk) _ _)

theorem step_view (key : Pubkey) {a : OpenAction} (h : OpenStep space stores a stores') :
    View space key stores a stores' := by
  cases h with
  | program h => exact program_view key h
  | @endpoint key' s t hs =>
    by_cases hk : key' = key
    · subst hk
      exact View.stepped s _ (.endpoint t) (by simp [storeStep, hs]) hs (Function.update_self _ _ _) (.endpoint t)
    · exact View.untouched (by simp [storeStep, hk]) (Function.update_of_ne (Ne.symm hk) _ _)

/-- Once a store is there, a run of the program is to it a run of its own. -/
theorem run_of_store {s₀ : StoreState} (h : Run (OpenStep space) stores tr stores')
    (hs₀ : stores key = some s₀) :
    ∃ s, stores' key = some s ∧ Run (Solana.Endpoint.Step space) s₀ (tr.filterMap (storeStep key)) s := by
  have hkept : ∀ (t : Stores) (a : OpenAction) (t' : Stores), (t key).isSome = true →
      OpenStep space t a t' → (t' key).isSome = true := by
    intro t a t' ht hstep
    cases step_view key hstep with
    | created _ _ _ _ hnone _ =>
      rw [hnone] at ht
      cases ht
    | stepped _ _ _ _ _ hs' _ => rw [hs', Option.isSome_some]
    | untouched _ hs => rwa [hs]
  have hshows : ∀ (t : Stores) (a : OpenAction) (t' : Stores), (t key).isSome = true → OpenStep space t a t' →
      (storeStep key (t, a) = none ∧ (t' key).getD s₀ = (t key).getD s₀) ∨
        ∃ l, storeStep key (t, a) = some ((t key).getD s₀, l) ∧
          Solana.Endpoint.Step space ((t key).getD s₀) l ((t' key).getD s₀) := by
    intro t a t' ht hstep
    cases step_view key hstep with
    | created _ _ _ _ hnone _ =>
      rw [hnone] at ht
      cases ht
    | stepped s s' l hl hs hs' hstep =>
      apply Or.inr
      refine ⟨l, ?_, ?_⟩
      · rw [hl, hs, Option.getD_some]
      · rw [hs, hs', Option.getD_some, Option.getD_some]
        exact hstep
    | untouched hl hs => exact Or.inl ⟨hl, by rw [hs]⟩
  have hpresent : (stores key).isSome = true := by rw [hs₀, Option.isSome_some]
  have hrun := h.project (fun t => (t key).getD s₀) (storeStep key) hkept hshows hpresent
  obtain ⟨s, hs⟩ := Option.isSome_iff_exists.mp (h.invariant hkept hpresent)
  rw [hs₀, hs, Option.getD_some, Option.getD_some] at hrun
  exact ⟨s, hs, hrun⟩

theorem run_before (h : Run (OpenStep space) stores tr stores') (hnone : stores key = none)
    (hs : stores' key = some s) :
    ∃ s₀, Initial space s₀ ∧ s₀.key = key ∧ Run (Solana.Endpoint.Step space) s₀ (tr.filterMap (storeStep key)) s := by
  induction h with
  | nil stores =>
    rw [hnone] at hs
    cases hs
  | @cons stores t u a tr hstep hrest ih =>
    cases step_view key hstep with
    | created s₀ ha hi hkey _ hsome =>
      subst ha
      obtain ⟨s', hs', hrun⟩ := run_of_store hrest hsome
      obtain rfl : s' = s := Option.some.inj (hs'.symm.trans hs)
      exact ⟨s₀, hi, hkey, hrun⟩
    | stepped s _ _ _ hsome _ _ =>
      rw [hnone] at hsome
      cases hsome
    | untouched hl hkept =>
      rw [List.filterMap_cons_none hl]
      exact ih (hkept.trans hnone) hs

section Sample

/-! Two stores. Five tokens are donated to the first, and the endpoint program of the
second takes everything that it can. -/

end Sample

end SanBridge.Solana.Isolation
