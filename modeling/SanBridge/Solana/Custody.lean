import SanBridge.Solana.Endpoint

namespace SanBridge.Solana.Custody

open Library.Checked Library.Runs
open Solana.Runtime Solana.State Solana.Amounts Solana.Instructions Solana.Effects Solana.Program
open Solana.Endpoint (Act EscrowSpared reachable_spared sameIdentity_run)

/-- What the escrow holds beyond the locked value. -/
def surplus (s : StoreState) : Int := s.escrow - s.store.tvlLd

/-- The custody invariant. The first two facts keep everybody but the store from
moving tokens out of the escrow. -/
structure Invariant (space : AddressSpace) (s : StoreState) : Prop where
  escrow_signs : space.signs s.store.tokenEscrow = true
  escrow_owner : s.tokens.owner s.store.tokenEscrow = some s.key
  backed : s.store.oftType = .adapter → s.store.tvlLd ≤ s.escrow
  native : s.store.oftType = .native → s.store.tvlLd = 0

variable {space : AddressSpace} {oapp : Oapp} {s s' : StoreState}

section Transfers

variable {sendAccounts : SendAccounts} {sendParams : SendParams} {result : SendResult}
variable {accounts : LzReceiveAccounts} {params : LzReceiveParams} {event : OFTReceived}

theorem send_surplus (e : SendEffect oapp sendAccounts sendParams s s' result)
    (ht : s.store.oftType = .adapter) : surplus s' = surplus s + e.oftFee := by
  simp only [surplus, e.escrow_eq ht, e.tvl_eq ht]
  omega

theorem send_native (e : SendEffect oapp sendAccounts sendParams s s' result)
    (hn : s.store.oftType = .native → s.store.tvlLd = 0) (ht : s'.store.oftType = .native) : s'.store.tvlLd = 0 := by
  have ht : s.store.oftType = .native := by simpa only [e.store_eq] using ht
  rw [e.store_eq]
  exact (e.debited.native ht).trans (hn ht)

theorem invariant_send (hc : Invariant space s)
    (e : SendEffect oapp sendAccounts sendParams s s' result) : Invariant space s' := by
  constructor
  · rw [e.store_eq]
    exact hc.escrow_signs
  · rw [e.store_eq, e.tokens_eq, e.debited.owner_eq, e.key_eq]
    exact hc.escrow_owner
  · intro ht
    have ht : s.store.oftType = .adapter := by simpa only [e.store_eq] using ht
    have hb := hc.backed ht
    rw [e.tvl_eq ht, e.escrow_eq ht]
    omega
  · exact send_native e hc.native

theorem receive_surplus (hsigns : space.signs s.store.tokenEscrow = true)
    (e : ReceiveEffect space oapp accounts params s s' event) (ht : s.store.oftType = .adapter) :
    surplus s' = surplus s := by
  obtain ⟨hle, hv⟩ := e.tvl_eq ht
  obtain ⟨hle', hv'⟩ := e.escrow_eq hsigns ht
  simp only [surplus, hv, hv']
  omega

theorem receive_native (e : ReceiveEffect space oapp accounts params s s' event)
    (hn : s.store.oftType = .native → s.store.tvlLd = 0) (ht : s'.store.oftType = .native) : s'.store.tvlLd = 0 := by
  have ht : s.store.oftType = .native := by simpa only [e.store_eq] using ht
  rw [e.store_eq]
  exact (e.credited.native ht).trans (hn ht)

theorem invariant_receive (hc : Invariant space s)
    (e : ReceiveEffect space oapp accounts params s s' event) : Invariant space s' := by
  have ho := e.escrow_owner_eq hc.escrow_signs
  constructor
  · rw [e.store_eq]
    exact hc.escrow_signs
  · rw [e.store_eq, e.key_eq, ho]
    exact hc.escrow_owner
  · intro ht
    have ht : s.store.oftType = .adapter := by simpa only [e.store_eq] using ht
    have hb := hc.backed ht
    obtain ⟨_, hv⟩ := e.tvl_eq ht
    obtain ⟨_, hv'⟩ := e.escrow_eq hc.escrow_signs ht
    rw [hv, hv']
    omega
  · exact receive_native e hc.native

end Transfers

section Withdraw

variable {accounts : WithdrawFeeAccounts} {feeLd : U64}

/-- A withdrawal never touches the locked value, and a withdrawal into the
escrow itself moves nothing at all. -/
theorem withdrawFee_surplus (h : withdrawFee accounts feeLd s = .ok s') :
    s'.store = s.store ∧ s'.key = s.key ∧ s'.tokens.owner = s.tokens.owner ∧
      (feeLd : Int) ≤ surplus s ∧
      (accounts.tokenDest ≠ s.store.tokenEscrow → surplus s' = surplus s - feeLd) ∧
      (accounts.tokenDest = s.store.tokenEscrow → surplus s' = surplus s) := by
  obtain ⟨hle, hfee, tokens, ht, rfl⟩ := withdrawFee_effect h
  refine ⟨rfl, rfl, owner_transferChecked ht, ?_, fun hd => ?_, fun hd => ?_⟩
  · simp only [surplus]
    omega
  · have ha := transferChecked_amount hd.symm ht
    have hv : tokens.amount s.store.tokenEscrow = s.escrow - feeLd := ha.2.1
    simp only [surplus]
    rw [show ({ s with tokens := tokens } : StoreState).escrow = s.escrow - feeLd from hv]
    omega
  · rw [hd] at ht
    rw [transferChecked_self ht]

theorem withdrawFee_covered (h : withdrawFee accounts feeLd s = .ok s') : 0 ≤ surplus s' := by
  obtain ⟨_, _, _, hfee, hout, hself⟩ := withdrawFee_surplus h
  by_cases hd : accounts.tokenDest = s.store.tokenEscrow
  · rw [hself hd]
    omega
  · rw [hout hd]
    omega

theorem invariant_withdrawFee (hc : Invariant space s) (h : withdrawFee accounts feeLd s = .ok s') :
    Invariant space s' := by
  obtain ⟨hstore, hkey, howner, _⟩ := withdrawFee_surplus h
  have hsurplus := withdrawFee_covered h
  refine ⟨?_, ?_, fun _ => ?_, fun ht => ?_⟩
  · rw [hstore]
    exact hc.escrow_signs
  · rw [hstore, hkey, howner]
    exact hc.escrow_owner
  · simp only [surplus] at hsurplus
    omega
  · rw [hstore] at ht ⊢
    exact hc.native ht

end Withdraw

theorem invariant_sameFunds (hc : Invariant space s) (h : SameFunds s s') : Invariant space s' := by
  have hescrow : s'.escrow = s.escrow := by
    simp only [StoreState.escrow, h.tokens, h.tokenEscrow]
  constructor
  · rw [h.tokenEscrow]
    exact hc.escrow_signs
  · rw [h.tokenEscrow, h.tokens, h.key]
    exact hc.escrow_owner
  · rw [h.oftType, h.tvl, hescrow]
    exact hc.backed
  · rw [h.oftType, h.tvl]
    exact hc.native

theorem invariant_exec (hc : Invariant space s) {c : Call} {o : Outcome}
    (h : exec space oapp s c = .ok (s', o)) : Invariant space s' := by
  by_cases hm : c.movesFunds = false
  · exact invariant_sameFunds hc (exec_sameFunds hm h)
  cases exec_effect h with
  | withdrawFee accounts feeLd _ _ _ _ => exact invariant_withdrawFee hc (exec_withdrawFee.mp h).1
  | send accounts params s' r e => exact invariant_send hc e
  | lzReceive accounts params s' r e => exact invariant_receive hc e
  | _ => cases hm rfl

theorem invariant_step {l : Event} (hc : Invariant space s) (h : Step space s l s') :
    Invariant space s' := by
  cases h with
  | call oapp h => exact invariant_exec hc h
  | aborted _ _ => exact hc
  | tokens t ha ho =>
    refine ⟨hc.escrow_signs, ho.trans hc.escrow_owner, fun ht => ?_, hc.native⟩
    exact (hc.backed ht).trans ha
  | mint m _ => exact ⟨hc.escrow_signs, hc.escrow_owner, hc.backed, hc.native⟩
  | clock c => exact ⟨hc.escrow_signs, hc.escrow_owner, hc.backed, hc.native⟩

theorem invariant_initial (h : Initial space s) : Invariant space s := by
  have e := initial_effect h
  refine ⟨e.escrow_signs, e.escrow_owner, fun _ => ?_, fun _ => e.tvl_zero⟩
  rw [e.tvl_zero]
  exact Nat.zero_le _

theorem invariant_reachable (h : Reachable space s) : Invariant space s := by
  obtain ⟨s₀, hi, hr⟩ := h
  exact hr.invariant (fun _ _ _ hc hs => invariant_step hc hs) (invariant_initial hi)

/-- A Native store locks nothing, whatever becomes of its escrow. -/
theorem native_step {a : Act} (hn : s.store.oftType = .native → s.store.tvlLd = 0)
    (h : Solana.Endpoint.Step space s a s') : s'.store.oftType = .native → s'.store.tvlLd = 0 := by
  cases h with
  | endpoint t => exact hn
  | program h =>
    cases h with
    | call oapp h =>
      cases exec_effect h with
      | send accounts params s' r e => exact send_native e hn
      | lzReceive accounts params s' r e => exact receive_native e hn
      | _ => exact hn
    | aborted _ _ | tokens _ _ _ | mint _ _ | clock _ => exact hn

/-- As long as its endpoint program spares it, the escrow of an Adapter store covers
the locked value. Every instruction accounts for the surplus to the unit, whatever
fee the token program withholds and whatever the endpoint program takes besides:
`send` adds the application fee, `lz_receive` nothing, `withdraw_fee` takes the fee
out unless it is sent back to the escrow. -/
theorem escrow_covers_tvl {s₀ : StoreState} {tr : List (StoreState × Act)} (hi : Initial space s₀)
    (h : Run (Solana.Endpoint.Step space) s₀ tr s) :
    (s.store.oftType = .adapter →
      (EscrowSpared tr → 0 ≤ surplus s) ∧
      (∀ oapp accounts params s' r, send oapp accounts params s = .ok (s', r) →
        ∃ peer oftFee, s.peers params.dstEid = some peer ∧
          computeFeeAndAdjustAmount params.amountLd s.store s.mint s.clock.epoch peer.feeBps =
            .ok (r.oftReceipt.amountSentLd, r.oftReceipt.amountReceivedLd, oftFee) ∧
          surplus s' = surplus s + oftFee) ∧
      (∀ oapp accounts params s' r, lzReceive space oapp accounts params s = .ok (s', r) →
        surplus s' = surplus s) ∧
      (∀ accounts feeLd s', withdrawFee accounts feeLd s = .ok s' →
        0 ≤ surplus s' ∧
        (accounts.tokenDest ≠ s.store.tokenEscrow → surplus s' = surplus s - (feeLd : Nat)) ∧
        (accounts.tokenDest = s.store.tokenEscrow → surplus s' = surplus s))) ∧
    (s.store.oftType = .native → s.store.tvlLd = 0) := by
  have hinit := initial_effect hi
  have hsigns : space.signs s.store.tokenEscrow = true := by
    rw [(sameIdentity_run h).tokenEscrow]
    exact hinit.escrow_signs
  constructor
  · intro ht
    refine ⟨fun hspared => ?_, ?_, ?_, ?_⟩
    · have hb := (invariant_reachable (reachable_spared hi h hspared)).backed ht
      simp only [surplus]
      omega
    · intro oapp accounts params s' r hs
      obtain ⟨e⟩ := send_effect hs
      refine ⟨e.peer, e.oftFee, e.peer_eq, ?_, send_surplus e ht⟩
      rw [e.oftReceipt_eq]
      exact e.amounts
    · intro oapp accounts params s' r hs
      obtain ⟨e⟩ := lzReceive_effect hs
      exact receive_surplus hsigns e ht
    · intro accounts feeLd s' hs
      obtain ⟨_, _, _, _, hout, hself⟩ := withdrawFee_surplus hs
      exact ⟨withdrawFee_covered hs, hout, hself⟩
  · exact h.invariant (I := fun s => s.store.oftType = .native → s.store.tvlLd = 0)
      (fun _ _ _ hn hs => native_step hn hs) fun _ => hinit.tvl_zero

/-- The transfer of 100, which collects a fee of 1, and an endpoint program that adds 5 to it. -/
def giftStore : StoreState :=
  { tradedStore with tokens :=
      { tradedStore.tokens with amount := Function.update tradedStore.tokens.amount (pubkey 3) 105 } }

def giftTrace : List (StoreState × Act) :=
  [(sampleStore, .program (.call (.setOftConfig (pubkey 4) (.paused false)) .done)),
    (liveStore, .program (.call (.setPeerConfig (pubkey 4) ⟨1, .feeBps (some 100)⟩) .done)),
    (pricedStore,
      .program (.call (.setPeerConfig (pubkey 4) ⟨1, .outboundRateLimit (some ⟨some 10, some 100⟩)⟩) .done)),
    (limitedStore, .program (.call (.send tradeAccounts tradeParams) (.sent tradeResult))),
    (tradedStore, .endpoint giftStore.tokens)]

theorem run_gift : Run (Solana.Endpoint.Step sampleSpace) sampleStore giftTrace giftStore :=
  .cons (.program step_live) (.cons (.program step_priced) (.cons (.program step_limited)
    (.cons (.program step_traded) (.single (.endpoint _)))))

theorem gift_spared : EscrowSpared giftTrace := by
  simp only [EscrowSpared, giftTrace, List.forall_mem_cons, Solana.Endpoint.SparesEscrow, true_and]
  exact ⟨⟨by decide, rfl⟩, by simp⟩

theorem escrow_covers_tvl_gift : 0 ≤ surplus giftStore :=
  ((escrow_covers_tvl initial_sampleStore run_gift).1 rfl).1 gift_spared

/-- The sample store after somebody has donated five tokens. -/
def donatedStore : StoreState :=
  { sampleStore with tokens :=
      { sampleStore.tokens with amount := Function.update sampleStore.tokens.amount (pubkey 3) 5 } }

theorem reachable_donatedStore : Reachable sampleSpace donatedStore :=
  ⟨sampleStore, initial_sampleStore, _, Run.single (.tokens _ (by decide) rfl)⟩

/-- A withdrawal that names the escrow as its destination succeeds and takes nothing out,
and an endpoint program that `send` calls can empty the escrow into the account it was
filled from. -/
theorem custody_exceptions :
    (¬ ∀ (space : AddressSpace) (s s' : StoreState) (accounts : WithdrawFeeAccounts) (feeLd : U64),
      Reachable space s → s.store.oftType = .adapter → withdrawFee accounts feeLd s = .ok s' →
      surplus s' = surplus s - (feeLd : Nat)) ∧
    ¬ ∀ (space : AddressSpace) (s₀ s : StoreState) (tr : List (StoreState × Act)),
      Initial space s₀ → Run (Solana.Endpoint.Step space) s₀ tr s → s.store.oftType = .adapter →
      s.store.tvlLd ≤ s.escrow := by
  constructor
  · intro h
    have hs := h sampleSpace donatedStore donatedStore ⟨pubkey 4, pubkey 3⟩ 5 reachable_donatedStore rfl rfl
    exact absurd hs (by decide)
  · intro h
    have htrade := Run.cons (.program step_live) (.cons (.program step_priced) (.cons (.program step_limited)
      (.cons (.program step_traded) (.single (Solana.Endpoint.Step.endpoint sampleStore.tokens)))))
    have hcovered := h sampleSpace _ _ _ initial_sampleStore htrade rfl
    exact absurd hcovered (by decide)

end SanBridge.Solana.Custody
