import SanBridge.Solana.Instructions

namespace SanBridge.Solana.Effects

open Library.Checked Solana.Runtime Solana.State Solana.Amounts Solana.Instructions

variable {space : AddressSpace} {oapp : Oapp} {s s' : StoreState}

/-- A store after its locked value and its token accounts have moved; the rest is untouched. -/
def moved (s : StoreState) (tvlLd : Nat) (tokens : TokenAccounts) : StoreState :=
  { s with store := { s.store with tvlLd := tvlLd }, tokens := tokens }

structure Debited (source : Pubkey) (sent received : Nat) (s : StoreState) (tvlLd : Nat)
    (tokens : TokenAccounts) : Prop where
  owner_eq : tokens.owner = s.tokens.owner
  native : s.store.oftType = .native → tvlLd = s.store.tvlLd
  adapter : s.store.oftType = .adapter → s.store.tvlLd + received < 2 ^ 64 ∧
    tvlLd = s.store.tvlLd + received ∧
    transferChecked s.mint s.clock.epoch s.tokens source s.store.tokenEscrow sent = .ok tokens

theorem debitSource_effect {source : Pubkey} {sent received oftFee : Nat}
    (h : debitSource source sent received oftFee s = .ok s') :
    ∃ tvlLd tokens, s' = moved s tvlLd tokens ∧ Debited source sent received s tvlLd tokens := by
  unfold debitSource at h
  cases ht : s.store.oftType with
  | adapter =>
    rw [ht] at h
    obtain ⟨tvlLd, hv, h⟩ := bind_eq_ok.mp h
    obtain ⟨tokens, hm, h⟩ := bind_eq_ok.mp h
    obtain ⟨hlt, hv⟩ := add_eq_ok.mp hv
    cases h
    exact ⟨tvlLd, tokens, rfl, owner_transferChecked hm, by simp [ht], fun _ => ⟨hlt, hv, hm⟩⟩
  | native =>
    rw [ht] at h
    obtain ⟨burned, _, h⟩ := bind_eq_ok.mp h
    obtain ⟨left, hb, h⟩ := bind_eq_ok.mp h
    have hl := (burn_amount hb).1
    by_cases hf : 0 < oftFee
    · rw [if_pos hf] at h
      obtain ⟨tokens, hm, h⟩ := bind_eq_ok.mp h
      cases h
      refine ⟨s.store.tvlLd, tokens, rfl, ?_, fun _ => rfl, by simp [ht]⟩
      rw [owner_transferChecked hm, hl]
    · rw [if_neg hf] at h
      cases h
      exact ⟨s.store.tvlLd, left, rfl, hl, fun _ => rfl, by simp [ht]⟩

structure SendEffect (oapp : Oapp) (accounts : SendAccounts) (params : SendParams)
    (s s' : StoreState) (r : SendResult) where
  peer : PeerConfig
  sent : Nat
  received : Nat
  oftFee : Nat
  outbound : Option RateLimiter
  inbound : Option RateLimiter
  tvlLd : Nat
  tokens : TokenAccounts
  peer_eq : s.peers params.dstEid = some peer
  signer_ne : accounts.signer ≠ s.key
  source_owner : s.tokens.owner accounts.tokenSource = some accounts.signer
  escrow_owner : s.tokens.owner s.store.tokenEscrow = some s.key
  unpaused : s.store.paused = false
  amounts : computeFeeAndAdjustAmount params.amountLd s.store s.mint s.clock.epoch peer.feeBps =
    .ok (sent, received, oftFee)
  consumed : onSome (·.tryConsume s.clock received) peer.outboundRateLimiter = .ok outbound
  refilled : onSome (·.refill s.clock received) peer.inboundRateLimiter = .ok inbound
  debited : Debited accounts.tokenSource sent received s tvlLd tokens
  state_eq : s' = { s with
    store := { s.store with tvlLd := tvlLd }
    tokens := tokens
    peers := Function.update s.peers params.dstEid (some
      { peer with outboundRateLimiter := outbound, inboundRateLimiter := inbound }) }
  dstEid_eq : r.packet.dstEid = params.dstEid
  receiver_eq : r.packet.receiver = peer.peerAddress
  message_eq : r.packet.message =
    MsgCodec.encode params.dest (s.store.ld2sd received) accounts.signer params.composeMsg
  options_eq : oapp.combineOptions (peer.enforcedOptions.getEnforcedOptions params.composeMsg)
    params.options = .ok r.packet.options
  receipt_eq : oapp.send s.store.endpointProgram r.packet = .ok r.receipt
  oftReceipt_eq : r.oftReceipt = ⟨sent, received⟩
  event_eq : r.event = ⟨r.receipt.guid, params.dstEid, accounts.tokenSource, sent, received⟩

theorem send_effect {accounts : SendAccounts} {params : SendParams} {r : SendResult}
    (h : send oapp accounts params s = .ok (s', r)) :
    Nonempty (SendEffect oapp accounts params s s' r) := by
  obtain ⟨peer, hp, h⟩ := bind_eq_ok.mp h
  obtain ⟨_, hs, h⟩ := bind_eq_ok.mp h
  obtain ⟨_, ho, h⟩ := bind_eq_ok.mp h
  obtain ⟨_, he, h⟩ := bind_eq_ok.mp h
  obtain ⟨_, hu, h⟩ := bind_eq_ok.mp h
  obtain ⟨⟨sent, received, oftFee⟩, ha, h⟩ := bind_eq_ok.mp h
  obtain ⟨_, _, h⟩ := bind_eq_ok.mp h
  obtain ⟨outbound, hc, h⟩ := bind_eq_ok.mp h
  obtain ⟨inbound, hr, h⟩ := bind_eq_ok.mp h
  obtain ⟨debited, hd, h⟩ := bind_eq_ok.mp h
  obtain ⟨sender, _, h⟩ := bind_eq_ok.mp h
  obtain ⟨_, _, h⟩ := bind_eq_ok.mp h
  obtain ⟨options, hoptions, h⟩ := bind_eq_ok.mp h
  obtain ⟨receipt, hq, h⟩ := bind_eq_ok.mp h
  obtain ⟨tvlLd, tokens, rfl, hdebit⟩ := debitSource_effect hd
  cases h
  exact ⟨{
    peer := peer
    sent := sent
    received := received
    oftFee := oftFee
    outbound := outbound
    inbound := inbound
    tvlLd := tvlLd
    tokens := tokens
    peer_eq := by simpa using hp
    signer_ne := by simpa using hs
    source_owner := by simpa using ho
    escrow_owner := by simpa using he
    unpaused := by simpa [requireOft] using hu
    amounts := ha
    consumed := hc
    refilled := hr
    debited := hdebit
    state_eq := rfl
    dstEid_eq := rfl
    receiver_eq := rfl
    message_eq := rfl
    options_eq := hoptions
    receipt_eq := hq
    oftReceipt_eq := rfl
    event_eq := rfl }⟩

namespace SendEffect

variable {accounts : SendAccounts} {params : SendParams} {r : SendResult}

theorem key_eq (e : SendEffect oapp accounts params s s' r) : s'.key = s.key := by
  rw [e.state_eq]

theorem store_eq (e : SendEffect oapp accounts params s s' r) :
    s'.store = { s.store with tvlLd := e.tvlLd } :=
  congrArg StoreState.store e.state_eq

theorem tokens_eq (e : SendEffect oapp accounts params s s' r) : s'.tokens = e.tokens :=
  congrArg StoreState.tokens e.state_eq

theorem clock_eq (e : SendEffect oapp accounts params s s' r) : s'.clock = s.clock := by
  rw [e.state_eq]

theorem peers_eq (e : SendEffect oapp accounts params s s' r) :
    s'.peers = Function.update s.peers params.dstEid (some
      { e.peer with outboundRateLimiter := e.outbound, inboundRateLimiter := e.inbound }) :=
  congrArg StoreState.peers e.state_eq

theorem source_ne (e : SendEffect oapp accounts params s s' r) :
    accounts.tokenSource ≠ s.store.tokenEscrow := by
  intro hs
  have ho := e.source_owner
  rw [hs, e.escrow_owner] at ho
  exact e.signer_ne (Option.some.inj ho).symm

theorem tvl_eq (e : SendEffect oapp accounts params s s' r) (ht : s.store.oftType = .adapter) :
    s'.store.tvlLd = s.store.tvlLd + e.received := by
  have hv := congrArg OFTStore.tvlLd e.store_eq
  exact hv.trans (e.debited.adapter ht).2.1

theorem escrow_eq (e : SendEffect oapp accounts params s s' r) (ht : s.store.oftType = .adapter) :
    s'.escrow = s.escrow + (e.received + e.oftFee) := by
  obtain ⟨_, _, hm⟩ := e.debited.adapter ht
  obtain ⟨_, _, ha, _⟩ := transferChecked_amount e.source_ne hm
  have hf := (computeFee_adapter ht e.amounts).1
  simp only [StoreState.escrow, e.store_eq, e.tokens_eq, ha, hf]

end SendEffect

structure Credited (tokenDest : Pubkey) (amountLd : Nat) (s : StoreState) (tvlLd : Nat)
    (tokens : TokenAccounts) : Prop where
  owner_eq : tokens.owner = s.tokens.owner
  native : s.store.oftType = .native → tvlLd = s.store.tvlLd
  adapter : s.store.oftType = .adapter → amountLd ≤ s.store.tvlLd ∧
    tvlLd = s.store.tvlLd - amountLd ∧
    transferChecked s.mint s.clock.epoch s.tokens s.store.tokenEscrow tokenDest amountLd = .ok tokens

theorem creditDest_effect {mintAuthority : Option Pubkey} {tokenDest : Pubkey}
    {amountLd amountReceivedLd : Nat}
    (h : creditDest oapp mintAuthority tokenDest amountLd s = .ok (s', amountReceivedLd)) :
    ∃ tvlLd tokens, s' = moved s tvlLd tokens ∧ Credited tokenDest amountLd s tvlLd tokens := by
  unfold creditDest at h
  cases ht : s.store.oftType with
  | adapter =>
    rw [ht] at h
    obtain ⟨tvlLd, hv, h⟩ := bind_eq_ok.mp h
    obtain ⟨tokens, hm, h⟩ := bind_eq_ok.mp h
    obtain ⟨arrived, _, h⟩ := bind_eq_ok.mp h
    obtain ⟨hle, hv⟩ := sub_eq_ok.mp hv
    cases h
    exact ⟨tvlLd, tokens, rfl, owner_transferChecked hm, by simp [ht], fun _ => ⟨hle, hv, hm⟩⟩
  | native =>
    rw [ht] at h
    cases mintAuthority with
    | none => cases h
    | some authority =>
      obtain ⟨_, _, h⟩ := bind_eq_ok.mp h
      obtain ⟨tokens, hm, h⟩ := bind_eq_ok.mp h
      cases h
      exact ⟨s.store.tvlLd, tokens, rfl, (mintTo_amount hm).1, fun _ => rfl, by simp [ht]⟩

theorem initTokenDest_ok {t t' : TokenAccounts} {tokenDest toAddress : Pubkey}
    (h : initTokenDest t tokenDest toAddress = .ok t') :
    t'.amount = t.amount ∧ ∀ key, key ≠ tokenDest → t'.owner key = t.owner key := by
  unfold initTokenDest at h
  split at h
  · obtain ⟨_, _, h⟩ := bind_eq_ok.mp h
    cases h
    exact ⟨rfl, fun _ _ => rfl⟩
  · cases h
    exact ⟨rfl, fun key hk => Function.update_of_ne hk _ _⟩

structure ReceiveEffect (space : AddressSpace) (oapp : Oapp) (accounts : LzReceiveAccounts)
    (params : LzReceiveParams) (s s' : StoreState) (r : OFTReceived) where
  peer : PeerConfig
  toAddress : Pubkey
  opened : TokenAccounts
  amountSd : Nat
  amountLd : Nat
  inbound : Option RateLimiter
  outbound : Option RateLimiter
  tvlLd : Nat
  tokens : TokenAccounts
  arrived : Nat
  peer_eq : s.peers params.srcEid = some peer
  sender_eq : peer.peerAddress = params.sender
  toAddress_eq : MsgCodec.sendTo params.message = some toAddress
  unpaused : s.store.paused = false
  opened_amount : opened.amount = s.tokens.amount
  opened_owner : ∀ key, key ≠ space.associatedTokenAddress toAddress s.store.tokenMint
    accounts.tokenProgram → opened.owner key = s.tokens.owner key
  amountSd_eq : MsgCodec.amountSd params.message = some amountSd
  amountLd_eq : s.store.sd2ld amountSd = .ok amountLd
  consumed : onSome (·.tryConsume s.clock amountLd) peer.inboundRateLimiter = .ok inbound
  refilled : onSome (·.refill s.clock amountLd) peer.outboundRateLimiter = .ok outbound
  credited : Credited (space.associatedTokenAddress toAddress s.store.tokenMint
    accounts.tokenProgram) amountLd { s with tokens := opened } tvlLd tokens
  state_eq : s' = { s with
    store := { s.store with tvlLd := tvlLd }
    tokens := tokens
    peers := Function.update s.peers params.srcEid (some
      { peer with outboundRateLimiter := outbound, inboundRateLimiter := inbound }) }
  event_eq : r = ⟨params.guid, params.srcEid, toAddress, arrived⟩

theorem lzReceive_effect {accounts : LzReceiveAccounts} {params : LzReceiveParams} {r : OFTReceived}
    (h : lzReceive space oapp accounts params s = .ok (s', r)) :
    Nonempty (ReceiveEffect space oapp accounts params s s' r) := by
  obtain ⟨peer, hp, h⟩ := bind_eq_ok.mp h
  obtain ⟨_, hs, h⟩ := bind_eq_ok.mp h
  obtain ⟨_, _, h⟩ := bind_eq_ok.mp h
  obtain ⟨toAddress, ht, h⟩ := bind_eq_ok.mp h
  obtain ⟨_, _, h⟩ := bind_eq_ok.mp h
  obtain ⟨opened, ho, h⟩ := bind_eq_ok.mp h
  obtain ⟨_, _, h⟩ := bind_eq_ok.mp h
  obtain ⟨_, hu, h⟩ := bind_eq_ok.mp h
  obtain ⟨_, _, h⟩ := bind_eq_ok.mp h
  obtain ⟨_, _, h⟩ := bind_eq_ok.mp h
  obtain ⟨amountSd, ha, h⟩ := bind_eq_ok.mp h
  obtain ⟨amountLd, hl, h⟩ := bind_eq_ok.mp h
  obtain ⟨inbound, hc, h⟩ := bind_eq_ok.mp h
  obtain ⟨outbound, hr, h⟩ := bind_eq_ok.mp h
  obtain ⟨⟨credited, arrived⟩, hd, h⟩ := bind_eq_ok.mp h
  obtain ⟨tvlLd, tokens, rfl, hcredit⟩ := creditDest_effect hd
  have hstate : ({ moved s tvlLd tokens with
      peers := Function.update s.peers params.srcEid (some
        { peer with outboundRateLimiter := outbound, inboundRateLimiter := inbound }) },
      (⟨params.guid, params.srcEid, toAddress, arrived⟩ : OFTReceived)) = (s', r) := by
    cases hm : MsgCodec.composeMsg params.message with
    | none =>
      rw [hm] at h
      exact Except.ok.inj h
    | some message =>
      rw [hm] at h
      obtain ⟨_, _, h⟩ := bind_eq_ok.mp h
      exact Except.ok.inj h
  cases hstate
  obtain ⟨hamount, howner⟩ := initTokenDest_ok ho
  exact ⟨{
    peer := peer
    toAddress := toAddress
    opened := opened
    amountSd := amountSd
    amountLd := amountLd
    inbound := inbound
    outbound := outbound
    tvlLd := tvlLd
    tokens := tokens
    arrived := arrived
    peer_eq := by simpa using hp
    sender_eq := by simpa [requireOft] using hs
    toAddress_eq := by simpa using ht
    unpaused := by simpa [requireOft] using hu
    opened_amount := hamount
    opened_owner := howner
    amountSd_eq := by simpa using ha
    amountLd_eq := hl
    consumed := hc
    refilled := hr
    credited := hcredit
    state_eq := rfl
    event_eq := rfl }⟩

namespace ReceiveEffect

variable {accounts : LzReceiveAccounts} {params : LzReceiveParams} {r : OFTReceived}

theorem key_eq (e : ReceiveEffect space oapp accounts params s s' r) : s'.key = s.key := by
  rw [e.state_eq]

theorem store_eq (e : ReceiveEffect space oapp accounts params s s' r) :
    s'.store = { s.store with tvlLd := e.tvlLd } :=
  congrArg StoreState.store e.state_eq

theorem tokens_eq (e : ReceiveEffect space oapp accounts params s s' r) : s'.tokens = e.tokens :=
  congrArg StoreState.tokens e.state_eq

theorem clock_eq (e : ReceiveEffect space oapp accounts params s s' r) : s'.clock = s.clock := by
  rw [e.state_eq]

theorem peers_eq (e : ReceiveEffect space oapp accounts params s s' r) :
    s'.peers = Function.update s.peers params.srcEid (some
      { e.peer with outboundRateLimiter := e.outbound, inboundRateLimiter := e.inbound }) :=
  congrArg StoreState.peers e.state_eq

theorem tvl_eq (e : ReceiveEffect space oapp accounts params s s' r)
    (ht : s.store.oftType = .adapter) :
    e.amountLd ≤ s.store.tvlLd ∧ s'.store.tvlLd = s.store.tvlLd - e.amountLd := by
  obtain ⟨hle, hv, _⟩ := e.credited.adapter ht
  exact ⟨hle, (congrArg OFTStore.tvlLd e.store_eq).trans hv⟩

theorem escrow_eq (e : ReceiveEffect space oapp accounts params s s' r)
    (hs : space.signs s.store.tokenEscrow = true) (ht : s.store.oftType = .adapter) :
    e.amountLd ≤ s.escrow ∧ s'.escrow = s.escrow - e.amountLd := by
  obtain ⟨_, _, hm⟩ := e.credited.adapter ht
  obtain ⟨hle, ha, _⟩ := transferChecked_amount (ne_ata_of_signs hs _ _ _) hm
  simp only [e.opened_amount] at hle ha
  simp only [StoreState.escrow, e.store_eq, e.tokens_eq]
  exact ⟨hle, ha⟩

theorem escrow_owner_eq (e : ReceiveEffect space oapp accounts params s s' r)
    (hs : space.signs s.store.tokenEscrow = true) :
    s'.tokens.owner s.store.tokenEscrow = s.tokens.owner s.store.tokenEscrow := by
  have hopened := e.opened_owner _ (ne_ata_of_signs hs _ _ _)
  rw [e.tokens_eq, e.credited.owner_eq]
  exact hopened

end ReceiveEffect

theorem withdrawFee_effect {accounts : WithdrawFeeAccounts} {feeLd : U64}
    (h : withdrawFee accounts feeLd s = .ok s') :
    s.store.tvlLd ≤ s.escrow ∧ feeLd ≤ s.escrow - s.store.tvlLd ∧ ∃ tokens,
      transferChecked s.mint s.clock.epoch s.tokens s.store.tokenEscrow accounts.tokenDest feeLd =
        .ok tokens ∧ s' = { s with tokens := tokens } := by
  obtain ⟨_, _, h⟩ := bind_eq_ok.mp h
  obtain ⟨_, _, h⟩ := bind_eq_ok.mp h
  obtain ⟨_, _, h⟩ := bind_eq_ok.mp h
  obtain ⟨surplus, hs, h⟩ := bind_eq_ok.mp h
  obtain ⟨_, hf, h⟩ := bind_eq_ok.mp h
  obtain ⟨tokens, ht, h⟩ := bind_eq_ok.mp h
  cases h
  obtain ⟨hle, rfl⟩ := sub_eq_ok.mp hs
  refine ⟨hle, by simpa [requireOft] using hf, tokens, ht, rfl⟩

theorem setPeerConfig_effect {admin : Pubkey} {params : SetPeerConfigParams}
    (h : setPeerConfig space oapp admin params s = .ok s') :
    s.store.admin = admin ∧ ∃ peer bump,
      applyPeerConfig oapp s.clock ((s.peers params.remoteEid).getD .zeroed) params.config =
        .ok peer ∧
      s' = { s with
        peers := Function.update s.peers params.remoteEid (some { peer with bump := bump }) } := by
  obtain ⟨_, ha, h⟩ := bind_eq_ok.mp h
  obtain ⟨peer, hp, h⟩ := bind_eq_ok.mp h
  cases h
  exact ⟨by simpa [requireOft] using ha, peer, _, hp, rfl⟩

theorem applyPeerConfig_address {clock : Clock} {peer peer' : PeerConfig} {config : PeerConfigParam}
    (h : applyPeerConfig oapp clock peer config = .ok peer') :
    config = .peerAddress peer'.peerAddress ∨ peer'.peerAddress = peer.peerAddress := by
  cases config with
  | peerAddress address =>
    cases h
    exact Or.inl rfl
  | enforcedOptions send sendAndCall =>
    obtain ⟨_, _, h⟩ := bind_eq_ok.mp h
    obtain ⟨_, _, h⟩ := bind_eq_ok.mp h
    cases h
    exact Or.inr rfl
  | feeBps _ | outboundRateLimit _ | inboundRateLimit _ =>
    obtain ⟨_, _, h⟩ := bind_eq_ok.mp h
    cases h
    exact Or.inr rfl

/-- `set_oft_config` is the admin's and changes the store's roles, its default
fee and its pause flag at most. -/
theorem setOftConfig_effect {admin : Pubkey} {params : SetOFTConfigParams}
    (h : setOftConfig oapp admin params s = .ok s') :
    s.store.admin = admin ∧ ∃ newAdmin fee paused pauser unpauser,
      s' = { s with store := { s.store with
        admin := newAdmin, defaultFeeBps := fee, paused := paused,
        pauser := pauser, unpauser := unpauser } } := by
  obtain ⟨_, ha, h⟩ := bind_eq_ok.mp h
  refine ⟨by simpa [requireOft] using ha, ?_⟩
  cases params with
  | delegate delegate =>
    obtain ⟨_, _, h⟩ := bind_eq_ok.mp h
    cases h
    exact ⟨_, _, _, _, _, rfl⟩
  | defaultFee feeBps =>
    obtain ⟨_, _, h⟩ := bind_eq_ok.mp h
    cases h
    exact ⟨_, _, _, _, _, rfl⟩
  | admin _ | paused _ | pauser _ | unpauser _ =>
    cases h
    exact ⟨_, _, _, _, _, rfl⟩

theorem setOftConfig_paused {admin : Pubkey} {params : SetOFTConfigParams}
    (h : setOftConfig oapp admin params s = .ok s') :
    s'.store.paused = s.store.paused ∨ params = .paused s'.store.paused := by
  obtain ⟨_, _, h⟩ := bind_eq_ok.mp h
  cases params with
  | paused paused =>
    cases h
    exact Or.inr rfl
  | delegate _ | defaultFee _ =>
    obtain ⟨_, _, h⟩ := bind_eq_ok.mp h
    cases h
    exact Or.inl rfl
  | admin _ | pauser _ | unpauser _ =>
    cases h
    exact Or.inl rfl

theorem setPause_effect {signer : Pubkey} {paused : Bool} (h : setPause signer paused s = .ok s') :
    isValidSigner signer s.store paused = true ∧
      s' = { s with store := { s.store with paused := paused } } := by
  obtain ⟨_, hv, h⟩ := bind_eq_ok.mp h
  cases h
  exact ⟨by simpa [requireOft] using hv, rfl⟩

theorem quoteOft_unpaused {params : QuoteSendParams} {r : QuoteOFTResult}
    (h : quoteOft params s = .ok r) : s.store.paused = false := by
  obtain ⟨_, _, h⟩ := bind_eq_ok.mp h
  obtain ⟨_, hu, _⟩ := bind_eq_ok.mp h
  simpa [requireOft] using hu

theorem quoteSend_unpaused {params : QuoteSendParams} {r : MessagingFee}
    (h : quoteSend oapp params s = .ok r) : s.store.paused = false := by
  obtain ⟨_, _, h⟩ := bind_eq_ok.mp h
  obtain ⟨_, hu, _⟩ := bind_eq_ok.mp h
  simpa [requireOft] using hu

end SanBridge.Solana.Effects
