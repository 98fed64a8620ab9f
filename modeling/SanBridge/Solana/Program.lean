import SanBridge.Library.Runs
import SanBridge.Solana.Effects

namespace SanBridge.Solana.Program

open Library.Checked Library.Runs Solana.Runtime Solana.State Solana.Instructions Solana.Effects

inductive Call
  | setOftConfig (admin : Pubkey) (params : SetOFTConfigParams)
  | setPeerConfig (admin : Pubkey) (params : SetPeerConfigParams)
  | setPause (signer : Pubkey) (paused : Bool)
  | withdrawFee (accounts : WithdrawFeeAccounts) (feeLd : U64)
  | quoteOft (params : QuoteSendParams)
  | quoteSend (params : QuoteSendParams)
  | send (accounts : SendAccounts) (params : SendParams)
  | lzReceive (accounts : LzReceiveAccounts) (params : LzReceiveParams)

inductive Outcome
  | done
  | quotedOft (result : QuoteOFTResult)
  | quotedSend (fee : MessagingFee)
  | sent (result : SendResult)
  | received (event : OFTReceived)

def exec (space : AddressSpace) (oapp : Oapp) (s : StoreState) : Call → Result (StoreState × Outcome)
  | .setOftConfig admin params => do
    let s ← setOftConfig oapp admin params s
    .ok (s, .done)
  | .setPeerConfig admin params => do
    let s ← setPeerConfig space oapp admin params s
    .ok (s, .done)
  | .setPause signer paused => do
    let s ← setPause signer paused s
    .ok (s, .done)
  | .withdrawFee accounts feeLd => do
    let s ← withdrawFee accounts feeLd s
    .ok (s, .done)
  | .quoteOft params => do
    let result ← quoteOft params s
    .ok (s, .quotedOft result)
  | .quoteSend params => do
    let fee ← quoteSend oapp params s
    .ok (s, .quotedSend fee)
  | .send accounts params => do
    let (s, result) ← send oapp accounts params s
    .ok (s, .sent result)
  | .lzReceive accounts params => do
    let (s, event) ← lzReceive space oapp accounts params s
    .ok (s, .received event)

/-- What can happen to a store. Besides calls, which anybody may make at any time
and which change nothing when they abort, the token accounts, the mint and the
clock move on their own. -/
inductive Event
  | call (c : Call) (o : Outcome)
  | aborted (c : Call) (e : ProgramError)
  | tokens (t : TokenAccounts)
  | mint (m : Mint)
  | clock (c : Clock)

/-- Nobody but the store can move tokens out of the escrow or give it away, so
other token activity only ever donates to it. The endpoint program, which the store
signs for, is not held to that: see `Endpoint.Step`. -/
inductive Step (space : AddressSpace) : StoreState → Event → StoreState → Prop
  | call {s s' : StoreState} {c : Call} {o : Outcome} (oapp : Oapp)
      (h : exec space oapp s c = .ok (s', o)) : Step space s (.call c o) s'
  | aborted {s : StoreState} {c : Call} {e : ProgramError} (oapp : Oapp)
      (h : exec space oapp s c = .error e) : Step space s (.aborted c e) s
  | tokens {s : StoreState} (t : TokenAccounts) (ha : s.escrow ≤ t.amount s.store.tokenEscrow)
      (ho : t.owner s.store.tokenEscrow = s.tokens.owner s.store.tokenEscrow) :
      Step space s (.tokens t) { s with tokens := t }
  | mint {s : StoreState} (m : Mint) (h : m.decimals = s.mint.decimals) :
      Step space s (.mint m) { s with mint := m }
  | clock {s : StoreState} (c : Clock) : Step space s (.clock c) { s with clock := c }

def Initial (space : AddressSpace) (s : StoreState) : Prop :=
  ∃ oapp tokenMint tokenEscrow m t clock params,
    initOft space oapp tokenMint tokenEscrow m t clock params = .ok s

def Reachable (space : AddressSpace) (s : StoreState) : Prop :=
  ∃ s₀, Initial space s₀ ∧ Reaches (Step space) s₀ s

theorem Reachable.tail {space : AddressSpace} {s t : StoreState} {l : Event} (h : Reachable space s)
    (hs : Step space s l t) : Reachable space t := by
  obtain ⟨s₀, hi, hr⟩ := h
  exact ⟨s₀, hi, hr.tail hs⟩

structure InitEffect (space : AddressSpace) (s : StoreState) : Prop where
  escrow_signs : space.signs s.store.tokenEscrow = true
  escrow_owner : s.tokens.owner s.store.tokenEscrow = some s.key
  escrow_empty : s.escrow = 0
  tvl_zero : s.store.tvlLd = 0
  paused : s.store.paused = true
  no_pauser : s.store.pauser = none
  no_unpauser : s.store.unpauser = none
  no_peers : s.peers = fun _ => none
  no_fee : s.store.defaultFeeBps = 0

theorem initial_effect {space : AddressSpace} {s : StoreState} (h : Initial space s) :
    InitEffect space s := by
  obtain ⟨oapp, tokenMint, tokenEscrow, m, t, clock, params, h⟩ := h
  obtain ⟨_, hs, h⟩ := bind_eq_ok.mp h
  obtain ⟨_, _, h⟩ := bind_eq_ok.mp h
  obtain ⟨_, _, h⟩ := bind_eq_ok.mp h
  obtain ⟨_, _, h⟩ := bind_eq_ok.mp h
  obtain ⟨_, _, h⟩ := bind_eq_ok.mp h
  cases h
  refine ⟨by simpa using hs, ?_, ?_, rfl, rfl, rfl, rfl, rfl, rfl⟩
  · simp
  · simp [StoreState.escrow]

section Exec

variable {space : AddressSpace} {oapp : Oapp} {s s' : StoreState} {o : Outcome}

theorem exec_setOftConfig {admin : Pubkey} {params : SetOFTConfigParams} :
    exec space oapp s (.setOftConfig admin params) = .ok (s', o) ↔
      setOftConfig oapp admin params s = .ok s' ∧ o = .done := by
  simp only [exec, bind_eq_ok, Except.ok.injEq, Prod.mk.injEq]
  grind

theorem exec_setPeerConfig {admin : Pubkey} {params : SetPeerConfigParams} :
    exec space oapp s (.setPeerConfig admin params) = .ok (s', o) ↔
      setPeerConfig space oapp admin params s = .ok s' ∧ o = .done := by
  simp only [exec, bind_eq_ok, Except.ok.injEq, Prod.mk.injEq]
  grind

theorem exec_setPause {signer : Pubkey} {paused : Bool} :
    exec space oapp s (.setPause signer paused) = .ok (s', o) ↔
      setPause signer paused s = .ok s' ∧ o = .done := by
  simp only [exec, bind_eq_ok, Except.ok.injEq, Prod.mk.injEq]
  grind

theorem exec_withdrawFee {accounts : WithdrawFeeAccounts} {feeLd : U64} :
    exec space oapp s (.withdrawFee accounts feeLd) = .ok (s', o) ↔
      withdrawFee accounts feeLd s = .ok s' ∧ o = .done := by
  simp only [exec, bind_eq_ok, Except.ok.injEq, Prod.mk.injEq]
  grind

theorem exec_quoteOft {params : QuoteSendParams} :
    exec space oapp s (.quoteOft params) = .ok (s', o) ↔
      s' = s ∧ ∃ r, quoteOft params s = .ok r ∧ o = .quotedOft r := by
  simp only [exec, bind_eq_ok, Except.ok.injEq, Prod.mk.injEq]
  grind

theorem exec_quoteSend {params : QuoteSendParams} :
    exec space oapp s (.quoteSend params) = .ok (s', o) ↔
      s' = s ∧ ∃ fee, quoteSend oapp params s = .ok fee ∧ o = .quotedSend fee := by
  simp only [exec, bind_eq_ok, Except.ok.injEq, Prod.mk.injEq]
  grind

theorem exec_send {accounts : SendAccounts} {params : SendParams} :
    exec space oapp s (.send accounts params) = .ok (s', o) ↔
      ∃ r, send oapp accounts params s = .ok (s', r) ∧ o = .sent r := by
  simp only [exec, bind_eq_ok, Except.ok.injEq, Prod.mk.injEq, Prod.exists]
  grind

theorem exec_lzReceive {accounts : LzReceiveAccounts} {params : LzReceiveParams} :
    exec space oapp s (.lzReceive accounts params) = .ok (s', o) ↔
      ∃ r, lzReceive space oapp accounts params s = .ok (s', r) ∧ o = .received r := by
  simp only [exec, bind_eq_ok, Except.ok.injEq, Prod.mk.injEq, Prod.exists]
  grind

/-- What a call that returned has checked and changed. -/
inductive CallEffect (space : AddressSpace) (oapp : Oapp) (s : StoreState) :
    Call → StoreState → Outcome → Prop
  | setOftConfig (admin : Pubkey) (params : SetOFTConfigParams) (newAdmin : Pubkey) (fee : Nat)
      (paused : Bool) (pauser unpauser : Option Pubkey) (isAdmin : s.store.admin = admin) :
      CallEffect space oapp s (.setOftConfig admin params)
        { s with store := { s.store with
          admin := newAdmin, defaultFeeBps := fee, paused := paused,
          pauser := pauser, unpauser := unpauser } } .done
  | setPeerConfig (admin : Pubkey) (params : SetPeerConfigParams) (peer : PeerConfig) (bump : UInt8)
      (isAdmin : s.store.admin = admin)
      (applied : applyPeerConfig oapp s.clock ((s.peers params.remoteEid).getD .zeroed) params.config =
        .ok peer) :
      CallEffect space oapp s (.setPeerConfig admin params)
        { s with peers := Function.update s.peers params.remoteEid (some { peer with bump := bump }) }
        .done
  | setPause (signer : Pubkey) (paused : Bool) (valid : isValidSigner signer s.store paused = true) :
      CallEffect space oapp s (.setPause signer paused)
        { s with store := { s.store with paused := paused } } .done
  | withdrawFee (accounts : WithdrawFeeAccounts) (feeLd : U64) (tokens : TokenAccounts)
      (backed : s.store.tvlLd ≤ s.escrow) (within : feeLd ≤ s.escrow - s.store.tvlLd)
      (paid : transferChecked s.mint s.clock.epoch s.tokens s.store.tokenEscrow accounts.tokenDest
        feeLd = .ok tokens) :
      CallEffect space oapp s (.withdrawFee accounts feeLd) { s with tokens := tokens } .done
  | quoteOft (params : QuoteSendParams) (r : QuoteOFTResult) (quoted : quoteOft params s = .ok r) :
      CallEffect space oapp s (.quoteOft params) s (.quotedOft r)
  | quoteSend (params : QuoteSendParams) (fee : MessagingFee)
      (quoted : quoteSend oapp params s = .ok fee) :
      CallEffect space oapp s (.quoteSend params) s (.quotedSend fee)
  | send (accounts : SendAccounts) (params : SendParams) (s' : StoreState) (r : SendResult)
      (e : SendEffect oapp accounts params s s' r) :
      CallEffect space oapp s (.send accounts params) s' (.sent r)
  | lzReceive (accounts : LzReceiveAccounts) (params : LzReceiveParams) (s' : StoreState)
      (r : OFTReceived) (e : ReceiveEffect space oapp accounts params s s' r) :
      CallEffect space oapp s (.lzReceive accounts params) s' (.received r)

theorem exec_effect {c : Call} (h : exec space oapp s c = .ok (s', o)) :
    CallEffect space oapp s c s' o := by
  cases c with
  | setOftConfig admin params =>
    obtain ⟨hs, rfl⟩ := exec_setOftConfig.mp h
    obtain ⟨ha, newAdmin, fee, paused, pauser, unpauser, rfl⟩ := setOftConfig_effect hs
    exact .setOftConfig admin params newAdmin fee paused pauser unpauser ha
  | setPeerConfig admin params =>
    obtain ⟨hs, rfl⟩ := exec_setPeerConfig.mp h
    obtain ⟨ha, peer, bump, hp, rfl⟩ := setPeerConfig_effect hs
    exact .setPeerConfig admin params peer bump ha hp
  | setPause signer paused =>
    obtain ⟨hs, rfl⟩ := exec_setPause.mp h
    obtain ⟨hv, rfl⟩ := setPause_effect hs
    exact .setPause signer paused hv
  | withdrawFee accounts feeLd =>
    obtain ⟨hs, rfl⟩ := exec_withdrawFee.mp h
    obtain ⟨hle, hfee, tokens, ht, rfl⟩ := withdrawFee_effect hs
    exact .withdrawFee accounts feeLd tokens hle hfee ht
  | quoteOft params =>
    obtain ⟨rfl, r, hr, rfl⟩ := exec_quoteOft.mp h
    exact .quoteOft params r hr
  | quoteSend params =>
    obtain ⟨rfl, fee, hf, rfl⟩ := exec_quoteSend.mp h
    exact .quoteSend params fee hf
  | send accounts params =>
    obtain ⟨r, hr, rfl⟩ := exec_send.mp h
    obtain ⟨e⟩ := send_effect hr
    exact .send accounts params s' r e
  | lzReceive accounts params =>
    obtain ⟨r, hr, rfl⟩ := exec_lzReceive.mp h
    obtain ⟨e⟩ := lzReceive_effect hr
    exact .lzReceive accounts params s' r e

end Exec

/-- The part of a store that `init_oft` fixes for good. -/
structure SameIdentity (s s' : StoreState) : Prop where
  key : s'.key = s.key
  oftType : s'.store.oftType = s.store.oftType
  rate : s'.store.ld2sdRate = s.store.ld2sdRate
  tokenMint : s'.store.tokenMint = s.store.tokenMint
  tokenEscrow : s'.store.tokenEscrow = s.store.tokenEscrow
  endpointProgram : s'.store.endpointProgram = s.store.endpointProgram
  bump : s'.store.bump = s.store.bump

/-- Reconfigurations and quotes: neither the locked value nor a token account moves. -/
structure SameFunds (s s' : StoreState) : Prop extends SameIdentity s s' where
  tvl : s'.store.tvlLd = s.store.tvlLd
  tokens : s'.tokens = s.tokens

def Call.movesFunds : Call → Bool
  | .withdrawFee _ _ | .send _ _ | .lzReceive _ _ => true
  | _ => false

section Frames

variable {space : AddressSpace} {oapp : Oapp} {s s' : StoreState} {c : Call} {o : Outcome}

theorem exec_sameFunds (hc : c.movesFunds = false) (h : exec space oapp s c = .ok (s', o)) :
    SameFunds s s' := by
  cases exec_effect h with
  | withdrawFee _ _ _ _ _ _ | send _ _ _ _ _ | lzReceive _ _ _ _ _ => cases hc
  | _ => exact ⟨⟨rfl, rfl, rfl, rfl, rfl, rfl, rfl⟩, rfl, rfl⟩

theorem exec_sameIdentity (h : exec space oapp s c = .ok (s', o)) : SameIdentity s s' := by
  cases exec_effect h with
  | send accounts params s' r e | lzReceive accounts params s' r e =>
    rw [e.state_eq]
    exact ⟨rfl, rfl, rfl, rfl, rfl, rfl, rfl⟩
  | _ => exact ⟨rfl, rfl, rfl, rfl, rfl, rfl, rfl⟩

structure PeerKept (peer peer' : PeerConfig) : Prop where
  peerAddress : peer'.peerAddress = peer.peerAddress
  enforcedOptions : peer'.enforcedOptions = peer.enforcedOptions
  feeBps : peer'.feeBps = peer.feeBps
  bump : peer'.bump = peer.bump

theorem PeerKept.refl (peer : PeerConfig) : PeerKept peer peer := ⟨rfl, rfl, rfl, rfl⟩

theorem exec_peerKept {eid : U32} {peer' : PeerConfig} (hc : ∀ admin params, c ≠ .setPeerConfig admin params)
    (h : exec space oapp s c = .ok (s', o)) (hp : s'.peers eid = some peer') :
    ∃ peer, s.peers eid = some peer ∧ PeerKept peer peer' := by
  have hkept (he : s'.peers = s.peers) : ∃ peer, s.peers eid = some peer ∧ PeerKept peer peer' :=
    ⟨peer', he ▸ hp, PeerKept.refl peer'⟩
  have hupdated {key : U32} {old new : PeerConfig} (hold : s.peers key = some old)
      (he : s'.peers = Function.update s.peers key (some new)) (hnew : PeerKept old new) :
      ∃ peer, s.peers eid = some peer ∧ PeerKept peer peer' := by
    rw [he] at hp
    by_cases hk : eid = key
    · subst hk
      rw [Function.update_self, Option.some.injEq] at hp
      subst hp
      exact ⟨old, hold, hnew⟩
    · rw [Function.update_of_ne hk] at hp
      exact ⟨peer', hp, PeerKept.refl peer'⟩
  cases exec_effect h with
  | setPeerConfig admin params peer bump _ _ => exact absurd rfl (hc admin params)
  | send accounts params s' r e | lzReceive accounts params s' r e =>
    exact hupdated e.peer_eq e.peers_eq ⟨rfl, rfl, rfl, rfl⟩
  | _ => exact hkept rfl

/-- A peer is there already or a configuration for its endpoint id creates it;
only such a configuration gives it an address. -/
theorem exec_peers {eid : U32} {peer : PeerConfig} (h : exec space oapp s c = .ok (s', o))
    (hp : s'.peers eid = some peer) :
    (∃ old, s.peers eid = some old ∧ peer.peerAddress = old.peerAddress) ∨
      ∃ admin params, c = .setPeerConfig admin params ∧ params.remoteEid = eid ∧
        ((∃ old ∈ s.peers eid, peer.peerAddress = old.peerAddress) ∨
          peer.peerAddress = PeerConfig.zeroed.peerAddress ∨
          params.config = .peerAddress peer.peerAddress) := by
  by_cases hc : ∀ admin params, c ≠ .setPeerConfig admin params
  · obtain ⟨old, hold, hkept⟩ := exec_peerKept hc h hp
    exact Or.inl ⟨old, hold, hkept.peerAddress⟩
  push Not at hc
  obtain ⟨admin, params, rfl⟩ := hc
  obtain ⟨_, new, bump, ha, he⟩ := setPeerConfig_effect (exec_setPeerConfig.mp h).1
  have he : s'.peers = Function.update s.peers params.remoteEid (some { new with bump := bump }) := by
    rw [he]
  rw [he] at hp
  by_cases hk : eid = params.remoteEid
  · subst hk
    rw [Function.update_self, Option.some.injEq] at hp
    refine Or.inr ⟨admin, params, rfl, rfl, ?_⟩
    subst hp
    rcases applyPeerConfig_address ha with hc | hsame
    · exact Or.inr (Or.inr hc)
    · cases hold : s.peers params.remoteEid with
      | none =>
        rw [hold] at hsame
        exact Or.inr (Or.inl hsame)
      | some old =>
        rw [hold] at hsame
        exact Or.inl ⟨old, rfl, hsame⟩
  · rw [Function.update_of_ne hk] at hp
    exact Or.inl ⟨peer, hp, rfl⟩

theorem SameIdentity.refl (s : StoreState) : SameIdentity s s := ⟨rfl, rfl, rfl, rfl, rfl, rfl, rfl⟩

theorem SameIdentity.trans {s'' : StoreState} (h : SameIdentity s s') (h' : SameIdentity s' s'') :
    SameIdentity s s'' := by
  constructor
  · exact h'.key.trans h.key
  · exact h'.oftType.trans h.oftType
  · exact h'.rate.trans h.rate
  · exact h'.tokenMint.trans h.tokenMint
  · exact h'.tokenEscrow.trans h.tokenEscrow
  · exact h'.endpointProgram.trans h.endpointProgram
  · exact h'.bump.trans h.bump

theorem Step.sameIdentity {l : Event} (h : Step space s l s') : SameIdentity s s' := by
  cases h with
  | call _ h => exact exec_sameIdentity h
  | aborted _ _ | tokens _ _ _ | mint _ _ | clock _ => exact ⟨rfl, rfl, rfl, rfl, rfl, rfl, rfl⟩

theorem sameIdentity_run (h : Reaches (Step space) s s') : SameIdentity s s' :=
  h.invariant (I := SameIdentity s) (fun _ _ _ hs hstep => hs.trans hstep.sameIdentity) (SameIdentity.refl s)

end Frames

section Sample

/-! A store on a plain mint with an endpoint that accepts everything, for concrete runs. -/

def pubkey (n : UInt8) : Pubkey := Vector.replicate 32 n

def sampleSpace : AddressSpace where
  findProgramAddress _ := (pubkey 9, 255)
  associatedTokenAddress _ _ _ := pubkey 8
  signs key := key != pubkey 8
  ata_not_signs := by simp

def sampleOapp : Oapp where
  endpointId := pubkey 1
  clearMinAccountsLen := 8
  registerOapp _ _ := .ok ()
  setDelegate _ _ := .ok ()
  send _ _ := .ok ⟨pubkey 7, 1⟩
  quote _ _ := .ok ⟨0, 0⟩
  clear _ _ := .ok ()
  sendCompose _ _ := .ok ()
  combineOptions _ extra := .ok extra
  assertType3 _ := .ok ()
  mintAuthoritySigned _ _ := true

def sampleMint : Mint := ⟨6, none, none⟩

/-- `pubkey 2` is the mint, `pubkey 3` the escrow, `pubkey 4` the admin and
`pubkey 5` the token account of the user `pubkey 6`. -/
def sampleStore : StoreState where
  key := pubkey 9
  store := {
    oftType := .adapter
    ld2sdRate := 1
    rate_eq := ⟨0, rfl⟩
    tokenMint := pubkey 2
    tokenEscrow := pubkey 3
    endpointProgram := pubkey 1
    bump := 255
    tvlLd := 0
    admin := pubkey 4
    defaultFeeBps := 0
    paused := true
    pauser := none
    unpauser := none }
  peers _ := none
  mint := sampleMint
  tokens := {
    amount := Function.update (fun key => if key = pubkey 5 then 1000 else 0) (pubkey 3) 0
    owner := Function.update (fun key => if key = pubkey 5 then some (pubkey 6) else none) (pubkey 3)
      (some (pubkey 9)) }
  clock := ⟨0, 0⟩

theorem initial_sampleStore : Initial sampleSpace sampleStore :=
  ⟨sampleOapp, pubkey 2, pubkey 3, sampleMint,
    ⟨fun key => if key = pubkey 5 then 1000 else 0,
      fun key => if key = pubkey 5 then some (pubkey 6) else none⟩,
    ⟨0, 0⟩, ⟨.adapter, pubkey 4, 6, none⟩, rfl⟩

/-! The store goes live, takes one percent of what is sent to the peer 1, lets 100 out to
it and ten more a second, and is sent 100. -/

def liveStore : StoreState := { sampleStore with store := { sampleStore.store with paused := false } }

def pricedPeer : PeerConfig := { PeerConfig.zeroed with feeBps := some 100, bump := 255 }

def pricedStore : StoreState := { liveStore with peers := Function.update liveStore.peers 1 (some pricedPeer) }

def limitedPeer : PeerConfig := { pricedPeer with outboundRateLimiter := some ⟨100, 100, 10, 0⟩ }

def limitedStore : StoreState := { pricedStore with peers := Function.update pricedStore.peers 1 (some limitedPeer) }

def tradeAccounts : SendAccounts := ⟨pubkey 6, pubkey 5, [pubkey 0, pubkey 9]⟩

def tradeParams : SendParams := ⟨1, pubkey 12, 100, 99, [], none, 0, 0⟩

def tradeResult : SendResult where
  packet := ⟨1, PeerConfig.zeroed.peerAddress, MsgCodec.encode (pubkey 12) 99 (pubkey 6) none, [], 0, 0⟩
  receipt := ⟨pubkey 7, 1⟩
  oftReceipt := ⟨100, 99⟩
  event := ⟨pubkey 7, 1, pubkey 5, 100, 99⟩

def tradedStore : StoreState where
  key := pubkey 9
  store := { limitedStore.store with tvlLd := 99 }
  peers := Function.update limitedStore.peers 1 (some
    { limitedPeer with outboundRateLimiter := some ⟨100, 1, 10, 0⟩ })
  mint := sampleMint
  tokens := {
    amount := Function.update (Function.update limitedStore.tokens.amount (pubkey 5) 900) (pubkey 3) 100
    owner := limitedStore.tokens.owner }
  clock := ⟨0, 0⟩

theorem step_live :
    Step sampleSpace sampleStore (.call (.setOftConfig (pubkey 4) (.paused false)) .done) liveStore :=
  .call sampleOapp rfl

theorem step_priced :
    Step sampleSpace liveStore (.call (.setPeerConfig (pubkey 4) ⟨1, .feeBps (some 100)⟩) .done) pricedStore :=
  .call sampleOapp rfl

theorem step_limited : Step sampleSpace pricedStore
    (.call (.setPeerConfig (pubkey 4) ⟨1, .outboundRateLimit (some ⟨some 10, some 100⟩)⟩) .done) limitedStore :=
  .call sampleOapp rfl

theorem step_traded :
    Step sampleSpace limitedStore (.call (.send tradeAccounts tradeParams) (.sent tradeResult)) tradedStore :=
  .call sampleOapp rfl

theorem reachable_limited : Reachable sampleSpace limitedStore :=
  ⟨sampleStore, initial_sampleStore, _, .cons step_live (.cons step_priced (.single step_limited))⟩

theorem reachable_traded : Reachable sampleSpace tradedStore := reachable_limited.tail step_traded

end Sample

end SanBridge.Solana.Program
