import SanBridge.Solana.Program

namespace SanBridge.Solana.Activation

open Library.Checked Library.Runs
open Solana.Runtime Solana.State Solana.Instructions Solana.Effects Solana.Program

/-- Whether a call may set the pause flag of a store to the given value: the
admin may set either, the recorded pauser and unpauser one each. -/
def Authorized (store : OFTStore) (paused : Bool) : Call → Prop
  | .setOftConfig admin (.paused p) => p = paused ∧ store.admin = admin
  | .setPause signer p =>
    p = paused ∧ (if paused then store.pauser else store.unpauser) = some signer
  | _ => False

def Call.isTraffic : Call → Bool
  | .quoteOft _ | .quoteSend _ | .send _ _ | .lzReceive _ _ => true
  | _ => false

variable {space : AddressSpace} {oapp : Oapp} {s s' : StoreState} {c : Call} {o : Outcome}

theorem exec_paused (h : exec space oapp s c = .ok (s', o)) :
    s'.store.paused = s.store.paused ∨ Authorized s.store s'.store.paused c := by
  cases exec_effect h with
  | setOftConfig admin params _ _ paused _ _ isAdmin =>
    rcases setOftConfig_paused (exec_setOftConfig.mp h).1 with hp | rfl
    · exact Or.inl hp
    · exact Or.inr ⟨rfl, isAdmin⟩
  | setPause signer paused valid =>
    refine Or.inr ⟨rfl, ?_⟩
    cases paused <;> simpa [isValidSigner] using valid
  | send accounts params s' r e | lzReceive accounts params s' r e => exact Or.inl (by rw [e.store_eq])
  | _ => exact Or.inl rfl

/-- While the store is paused no quote, send or receive succeeds. -/
theorem traffic_unpaused (hc : Call.isTraffic c = true) (h : exec space oapp s c = .ok (s', o)) :
    s.store.paused = false := by
  cases exec_effect h with
  | quoteOft params r quoted => exact quoteOft_unpaused quoted
  | quoteSend params fee quoted => exact quoteSend_unpaused quoted
  | send accounts params s' r e | lzReceive accounts params s' r e => exact e.unpaused
  | _ => cases hc

theorem traffic_fails (hp : s.store.paused = true) (hc : Call.isTraffic c = true) :
    ∃ e, exec space oapp s c = .error e := by
  cases h : exec space oapp s c with
  | error e => exact ⟨e, rfl⟩
  | ok r =>
    obtain ⟨s', o⟩ := r
    have hu := traffic_unpaused hc h
    rw [hp] at hu
    cases hu

variable {l : Event}

theorem step_paused (h : Step space s l s') : s'.store.paused = s.store.paused ∨
    ∃ c o, l = .call c o ∧ Authorized s.store s'.store.paused c := by
  cases h with
  | call oapp h =>
    rcases exec_paused h with he | ha
    · exact Or.inl he
    · exact Or.inr ⟨_, _, rfl, ha⟩
  | aborted _ _ | tokens _ _ _ | mint _ _ | clock _ => exact Or.inl rfl

theorem exec_tvl (hp : s.store.paused = true) (h : exec space oapp s c = .ok (s', o)) :
    s'.store.tvlLd = s.store.tvlLd := by
  by_cases hc : Call.isTraffic c = true
  · have hu := traffic_unpaused hc h
    rw [hp] at hu
    cases hu
  · cases exec_effect h with
    | send _ _ _ _ _ | lzReceive _ _ _ _ _ => cases hc rfl
    | _ => rfl

theorem step_tvl (hp : s.store.paused = true) (h : Step space s l s') :
    s'.store.tvlLd = s.store.tvlLd := by
  cases h with
  | call oapp h => exact exec_tvl hp h
  | aborted _ _ | tokens _ _ _ | mint _ _ | clock _ => rfl

def Unpauses (p : StoreState × Event) : Prop :=
  ∃ c o, p.2 = .call c o ∧ Authorized p.1.store false c

theorem inert_until_unpause {s₀ : StoreState} {tr : List (StoreState × Event)}
    (hi : Initial space s₀) (h : Run (Step space) s₀ tr s) (hn : ∀ p ∈ tr, ¬ Unpauses p) :
    s.store.paused = true ∧ s.store.tvlLd = 0 := by
  have e := initial_effect hi
  have hg := h.restrict (G := fun p => ¬ Unpauses p) hn
  refine hg.invariant (I := fun s => s.store.paused = true ∧ s.store.tvlLd = 0) ?_
    ⟨e.paused, e.tvl_zero⟩
  rintro s l t ⟨hp, hz⟩ ⟨hu, hs⟩
  refine ⟨?_, (step_tvl hp hs).trans hz⟩
  rcases step_paused hs with he | ⟨c, o, hl, ha⟩
  · exact he.trans hp
  · by_contra hf
    rw [Bool.eq_false_of_not_eq_true hf] at ha
    exact hu ⟨c, o, hl, ha⟩

end SanBridge.Solana.Activation
