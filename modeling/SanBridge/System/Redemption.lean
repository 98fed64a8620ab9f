import SanBridge.System.Conservation

namespace SanBridge.System.Redemption

open Library.BigEndian Library.Checked Library.Runs System.Bridge System.Routing System.Conservation

section Robinhood

open Evm.Runtime Evm.Base Evm.Contract

/-- What the inherited OFT does with any message that is long enough, and with any recipient. -/
structure Reads (oft : OFT) : Prop where
  readMsg : ∀ message n, Solana.MsgCodec.amountSd message = some n →
    ∃ toAddress, oft.readMsg message = .ok (toAddress, n)
  creditTo : ∀ toAddress, oft.creditTo toAddress ≠ 0

end Robinhood

section Solana

open Solana.Runtime Solana.State Solana.Instructions

variable {space : AddressSpace} {oapp : Oapp} {accounts : LzReceiveAccounts} {params : LzReceiveParams} {s : StoreState}

/-- What a payout asks of its surroundings: the store is open and knows the sender, the accounts
are the recipient's, who has kept the account and has room in it, the limiter lets the
amount through, and the Endpoint agrees. -/
structure Payable (space : AddressSpace) (oapp : Oapp) (accounts : LzReceiveAccounts) (params : LzReceiveParams)
    (amountLd : Nat) (s : StoreState) : Prop where
  unpaused : s.store.paused = false
  released : ∃ peer inbound, s.peers params.srcEid = some peer ∧ peer.peerAddress = params.sender ∧
    onSome (·.tryConsume s.clock amountLd) peer.inboundRateLimiter = .ok inbound
  timestamp : 0 ≤ s.clock.unixTimestamp
  recipient : Solana.MsgCodec.sendTo params.message = some accounts.toAddress
  mintAuthority : ∀ authority ∈ accounts.mintAuthority, s.mint.mintAuthority = some authority
  account : ∀ owner, s.tokens.owner (space.associatedTokenAddress accounts.toAddress s.store.tokenMint
    accounts.tokenProgram) = some owner → owner = accounts.toAddress
  room : s.tokens.amount (space.associatedTokenAddress accounts.toAddress s.store.tokenMint accounts.tokenProgram) +
    amountLd < 2 ^ 64
  accountsLen : oapp.clearMinAccountsLen ≤ accounts.remainingAccounts.length
  clear : oapp.clear s.store.endpointProgram
    ⟨s.key, params.srcEid, params.sender, params.nonce, params.guid, params.message⟩ = .ok ()
  compose : (Solana.MsgCodec.composeMsg params.message).isSome →
    ∀ composed, oapp.sendCompose s.store.endpointProgram composed = .ok ()

theorem initTokenDest_ok {t : TokenAccounts} {tokenDest toAddress : Pubkey}
    (h : ∀ owner, t.owner tokenDest = some owner → owner = toAddress) :
    ∃ t', initTokenDest t tokenDest toAddress = .ok t' ∧ t'.amount = t.amount := by
  cases ho : t.owner tokenDest with
  | none =>
    exact ⟨{ t with owner := Function.update t.owner tokenDest (some toAddress) }, by rw [initTokenDest, ho], rfl⟩
  | some owner =>
    obtain rfl := h owner ho
    refine ⟨t, ?_, rfl⟩
    rw [initTokenDest, ho]
    exact bind_eq_ok.mpr ⟨(), require_eq_ok.mpr (beq_self_eq_true _), rfl⟩

theorem onSome_refill_ok {clock : Clock} {amount : Nat} {limiter : Option RateLimiter} (ht : 0 ≤ clock.unixTimestamp) :
    ∃ r, onSome (·.refill clock amount) limiter = .ok r := by
  cases limiter with
  | none => exact ⟨none, rfl⟩
  | some limiter =>
    have hrefill : ∃ r, limiter.refill clock amount = .ok r :=
      ⟨_, bind_eq_ok.mpr ⟨_, Clock.currentTime_eq_ok.mpr ⟨ht, rfl⟩, rfl⟩⟩
    obtain ⟨r, hr⟩ := hrefill
    exact ⟨some r, onSome_some.mpr ⟨r, hr, rfl⟩⟩

/-- Nothing else can hold a payout of an Adapter store back that its locked value covers. -/
theorem payout_ok {amountSd : Nat} (hp : Payable space oapp accounts params (s.store.ld2sdRate * amountSd) s)
    (ht : s.store.oftType = .adapter) (ho : s.tokens.owner s.store.tokenEscrow = some s.key)
    (hn : Solana.MsgCodec.amountSd params.message = some amountSd)
    (htvl : s.store.ld2sdRate * amountSd ≤ s.store.tvlLd) (hlt : s.store.tvlLd < 2 ^ 64)
    (hescrow : s.store.tvlLd ≤ s.escrow) : ∃ t r, lzReceive space oapp accounts params s = .ok (t, r) := by
  obtain ⟨peer, inbound, hpeer, hsender, hconsume⟩ := hp.released
  obtain ⟨tokens, hinit, hamounts⟩ := initTokenDest_ok hp.account
  obtain ⟨outbound, hrefill⟩ : ∃ r, onSome (·.refill s.clock (s.store.ld2sdRate * amountSd)) peer.outboundRateLimiter =
    .ok r := onSome_refill_ok hp.timestamp
  have hld : s.store.sd2ld amountSd = .ok (s.store.ld2sdRate * amountSd) :=
    mul_eq_ok.mpr ⟨by rw [Nat.mul_comm]; omega, Nat.mul_comm _ _⟩
  obtain ⟨paid, hpaid⟩ : ∃ paid, transferChecked s.mint s.clock.epoch tokens s.store.tokenEscrow
      (space.associatedTokenAddress accounts.toAddress s.store.tokenMint accounts.tokenProgram)
      (s.store.ld2sdRate * amountSd) = .ok paid := by
    rw [transferChecked_ok_iff, hamounts]
    refine ⟨htvl.trans hescrow, fun _ => ?_⟩
    have hroom := hp.room
    omega
  let arrived := s.store.ld2sdRate * amountSd - s.mint.epochFee s.clock.epoch (s.store.ld2sdRate * amountSd)
  let credited := { s with
    store := { s.store with tvlLd := s.store.tvlLd - s.store.ld2sdRate * amountSd }
    tokens := paid }
  have hcredit : creditDest oapp accounts.mintAuthority
      (space.associatedTokenAddress accounts.toAddress s.store.tokenMint accounts.tokenProgram)
      (s.store.ld2sdRate * amountSd) { s with tokens := tokens } =
        .ok (credited, arrived) := by
    have hpost := Solana.Amounts.getPostFeeAmountLd_eq s.mint s.clock.epoch (s.store.ld2sdRate * amountSd)
    unfold creditDest
    split
    · exact bind_eq_ok.mpr ⟨_, sub_eq_ok.mpr ⟨htvl, rfl⟩, bind_eq_ok.mpr ⟨paid, hpaid, bind_eq_ok.mpr ⟨_, hpost, rfl⟩⟩⟩
    · rename_i hnative
      cases ht.symm.trans hnative
  let kept := { peer with outboundRateLimiter := outbound, inboundRateLimiter := inbound }
  refine ⟨{ credited with peers := Function.update s.peers params.srcEid (some kept) },
    ⟨params.guid, params.srcEid, accounts.toAddress, arrived⟩, ?_⟩
  simp only [lzReceive, requireOft, bind_eq_ok, require_eq_ok, ofOption_eq_ok, beq_iff_eq]
  refine ⟨peer, hpeer, (), hsender, (), ho, _, hp.recipient, (), rfl, tokens, hinit, (), ?_, (), ?_, (), ?_, (),
    hp.clear, _, hn, _, hld, inbound, hconsume, outbound, hrefill, _, hcredit, ?_⟩
  · rw [Option.all_eq_true]
    exact fun authority ha => beq_iff_eq.mpr (hp.mintAuthority authority ha)
  · simp [hp.unpaused]
  · exact decide_eq_true hp.accountsLen
  · cases hcompose : Solana.MsgCodec.composeMsg params.message with
    | none => rfl
    | some message => exact bind_eq_ok.mpr ⟨(), hp.compose (hcompose ▸ rfl) _, rfl⟩

end Solana

section Transfers

variable {w : Wiring} {s t : State} {l : Label}

theorem amountSd_eq {p : Packet} (h : (Solana.MsgCodec.amountSd p.message).isSome) :
    Solana.MsgCodec.amountSd p.message = some p.amountSd := by
  obtain ⟨n, hn⟩ := Option.isSome_iff_exists.mp h
  rw [Packet.amountSd, hn]
  rfl

end Transfers

section Sample

end Sample

end SanBridge.System.Redemption
