import SanBridge.Evm.Limits

namespace SanBridge.Evm.Activation

open Library.Checked Library.Runs Evm.Runtime Evm.Base Evm.Contract Evm.Program Evm.Limits

def Authorized (token : SanOFT) (paused : Bool) (sender : Address) : Call → Prop
  | .pause => paused = true ∧ token.owner = sender
  | .unpause => paused = false ∧ token.owner = sender
  | _ => False

def Call.isTraffic : Call → Bool
  | .quoteOFT _ | .quoteSend _ | .send _ | .lzReceive _ _ _ => true
  | _ => false

variable {oft : OFT} {sender : Address} {s s' : Chain} {c : Call} {o : Outcome} {l : Event}

theorem exec_paused (h : exec oft sender s c = .ok (s', o)) :
    s'.token.paused = s.token.paused ∨ Authorized s.token s'.token.paused sender c := by
  cases exec_effect h with
  | pause owner _ | unpause owner _ => exact Or.inr ⟨rfl, owner⟩
  | send params token r e => exact Or.inl e.paused_eq
  | lzReceive origin guid message token r e => exact Or.inl e.paused_eq
  | _ => exact Or.inl rfl

theorem debitView_unpaused {now amountLD minAmountLD : Nat} {dstEid : U32} {t : SanOFT}
    {r : Nat × Nat} (h : debitView oft now amountLD minAmountLD dstEid t = .ok r) :
    t.paused = false := by
  obtain ⟨sent, received⟩ := r
  exact (debitView_ok h).1

/-- Every quote and every debit goes through the guarded view, every credit
through the guard itself. -/
theorem traffic_unpaused (hc : Call.isTraffic c = true) (h : exec oft sender s c = .ok (s', o)) :
    s.token.paused = false := by
  cases exec_effect h with
  | quoteOFT params quote quoted =>
    obtain ⟨_, hv, _⟩ := bind_eq_ok.mp quoted
    exact debitView_unpaused hv
  | quoteSend params fee quoted =>
    obtain ⟨_, hv, _⟩ := bind_eq_ok.mp quoted
    exact debitView_unpaused hv
  | send params token r e => exact e.unpaused
  | lzReceive origin guid message token r e => exact e.unpaused
  | _ => cases hc

theorem traffic_fails (hp : s.token.paused = true) (hc : Call.isTraffic c = true) :
    ∃ e, exec oft sender s c = .error e := by
  cases h : exec oft sender s c with
  | error e => exact ⟨e, rfl⟩
  | ok r =>
    obtain ⟨s', o⟩ := r
    have hu := traffic_unpaused hc h
    rw [hp] at hu
    cases hu

theorem step_paused (h : Step s l s') : s'.token.paused = s.token.paused ∨
    ∃ sender c o, l = .call sender c o ∧ Authorized s.token s'.token.paused sender c := by
  cases h with
  | call oft h =>
    rcases exec_paused h with he | ha
    · exact Or.inl he
    · exact Or.inr ⟨_, _, _, rfl, ha⟩
  | reverted _ _ | time _ _ => exact Or.inl rfl

theorem step_supply (hp : s.token.paused = true) (h : Step s l s') :
    s'.token.totalSupply = s.token.totalSupply := by
  have hs := supply_step h
  cases h with
  | call oft h =>
    rename_i sender c o
    by_cases hc : Call.isTraffic c = true
    · have hu := traffic_unpaused hc h
      rw [hp] at hu
      cases hu
    · cases c with
      | send _ | lzReceive _ _ _ => exact absurd rfl hc
      | _ => exact hs
  | reverted _ _ | time _ _ => rfl

def Unpauses (p : Chain × Event) : Prop :=
  ∃ sender c o, p.2 = .call sender c o ∧ Authorized p.1.token false sender c

theorem inert_until_unpause {s₀ : Chain} {tr : List (Chain × Event)} (hi : Initial s₀)
    (h : Run Step s₀ tr s) (hn : ∀ p ∈ tr, ¬ Unpauses p) :
    s.token.paused = true ∧ s.token.totalSupply = 0 := by
  have e := initial_effect hi
  have hg := h.restrict (G := fun p => ¬ Unpauses p) hn
  refine hg.invariant (I := fun s => s.token.paused = true ∧ s.token.totalSupply = 0) ?_
    ⟨e.paused, e.supply_zero⟩
  rintro s l t ⟨hp, hz⟩ ⟨hu, hs⟩
  refine ⟨?_, (step_supply hp hs).trans hz⟩
  rcases step_paused hs with he | ⟨sender, c, o, hl, ha⟩
  · exact he.trans hp
  · by_contra hf
    rw [Bool.eq_false_of_not_eq_true hf] at ha
    exact hu ⟨sender, c, o, hl, ha⟩

end SanBridge.Evm.Activation
