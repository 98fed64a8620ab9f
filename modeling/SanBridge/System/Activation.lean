import SanBridge.Evm.Activation
import SanBridge.Solana.Activation

namespace SanBridge.System.Activation

open Library.Runs

/-- Both applications stay closed until somebody entitled to it opens them. Only
the owner of SanOFT, and only the admin or the recorded pauser and unpauser of a
store, move a pause flag; while it is set every quote, send and receive fails
and nothing is minted or locked; and before the first authorized unpause nothing
has ever been minted or locked. -/
theorem fail_closed (space : Solana.Runtime.AddressSpace) :
    ((∀ s l s', Evm.Program.Step s l s' → s'.token.paused ≠ s.token.paused →
        ∃ sender c o, l = .call sender c o ∧
          Evm.Activation.Authorized s.token s'.token.paused sender c) ∧
      (∀ s, s.token.paused = true →
        (∀ oft sender c, Evm.Activation.Call.isTraffic c = true →
          ∃ e, Evm.Program.exec oft sender s c = .error e) ∧
        ∀ l s', Evm.Program.Step s l s' → s'.token.totalSupply = s.token.totalSupply) ∧
      (∀ s₀ tr s, Evm.Program.Initial s₀ → Run Evm.Program.Step s₀ tr s →
        (∀ p ∈ tr, ¬ Evm.Activation.Unpauses p) →
        s.token.paused = true ∧ s.token.totalSupply = 0)) ∧
    ((∀ s l s', Solana.Program.Step space s l s' → s'.store.paused ≠ s.store.paused →
        ∃ c o, l = .call c o ∧ Solana.Activation.Authorized s.store s'.store.paused c) ∧
      (∀ s, s.store.paused = true →
        (∀ oapp c, Solana.Activation.Call.isTraffic c = true →
          ∃ e, Solana.Program.exec space oapp s c = .error e) ∧
        ∀ l s', Solana.Program.Step space s l s' → s'.store.tvlLd = s.store.tvlLd) ∧
      (∀ s₀ tr s, Solana.Program.Initial space s₀ → Run (Solana.Program.Step space) s₀ tr s →
        (∀ p ∈ tr, ¬ Solana.Activation.Unpauses p) →
        s.store.paused = true ∧ s.store.tvlLd = 0)) := by
  refine ⟨⟨fun s l s' hs hne => ?_, fun s hp => ⟨fun oft sender c hc => ?_, fun l s' hs => ?_⟩,
    fun s₀ tr s hi hr hn => ?_⟩, ⟨fun s l s' hs hne => ?_,
    fun s hp => ⟨fun oapp c hc => ?_, fun l s' hs => ?_⟩, fun s₀ tr s hi hr hn => ?_⟩⟩
  · exact (Evm.Activation.step_paused hs).resolve_left hne
  · exact Evm.Activation.traffic_fails hp hc
  · exact Evm.Activation.step_supply hp hs
  · exact Evm.Activation.inert_until_unpause hi hr hn
  · exact (Solana.Activation.step_paused hs).resolve_left hne
  · exact Solana.Activation.traffic_fails hp hc
  · exact Solana.Activation.step_tvl hp hs
  · exact Solana.Activation.inert_until_unpause hi hr hn

end SanBridge.System.Activation
