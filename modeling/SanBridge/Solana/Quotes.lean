import SanBridge.Solana.Program

namespace SanBridge.Solana.Quotes

open Library.BigEndian Library.Checked Library.Runs Solana.Runtime Solana.State Solana.Amounts Solana.Instructions
  Solana.Effects Solana.Program

section Details

variable {amountLd : U64} {bps sent received oftFee : Nat} {s : StoreState} {peer : PeerConfig}
  {params : QuoteSendParams} {r : QuoteOFTResult}

def feeTotal (r : QuoteOFTResult) : Nat := (r.oftFeeDetails.map OFTFeeDetail.feeAmountLd).sum

/-- The list of fees of `quote_oft`, once the credited amount is known to fit in the sent amount. -/
def feeDetails (sent received oftFee : Nat) : List OFTFeeDetail :=
  (if received + oftFee < sent then [⟨sent - oftFee - received, "Token2022 Transfer Fee"⟩] else []) ++
    if 0 < oftFee then [⟨oftFee, "Cross Chain Fee"⟩] else []

theorem feeDetails_sum (h : received + oftFee ≤ sent) :
    ((feeDetails sent received oftFee).map OFTFeeDetail.feeAmountLd).sum = sent - received := by
  rw [feeDetails]
  by_cases hw : received + oftFee < sent
  · rw [if_pos hw]
    by_cases hf : 0 < oftFee
    · rw [if_pos hf]
      simp only [List.map_append, List.map_cons, List.map_nil, List.sum_append, List.sum_cons, List.sum_nil]
      omega
    · rw [if_neg hf]
      simp only [List.append_nil, List.map_cons, List.map_nil, List.sum_cons, List.sum_nil]
      omega
  · rw [if_neg hw]
    by_cases hf : 0 < oftFee
    · rw [if_pos hf]
      simp only [List.nil_append, List.map_cons, List.map_nil, List.sum_cons, List.sum_nil]
      omega
    · rw [if_neg hf]
      simp only [List.append_nil, List.map_nil, List.sum_nil]
      omega

/-- A quote fails on a paused store and on slippage, never on its own arithmetic. -/
theorem quoteOft_eq (hp : s.peers params.dstEid = some peer)
    (ha : computeFeeAndAdjustAmount params.amountLd s.store s.mint s.clock.epoch peer.feeBps =
      .ok (sent, received, oftFee))
    (hle : received + oftFee ≤ sent) (hs : sent < 2 ^ 64) :
    quoteOft params s =
      if s.store.paused then .error (.oft .paused)
      else if params.minAmountLd ≤ received then
        .ok ⟨⟨0, u64Max⟩, feeDetails sent received oftFee, ⟨sent, received⟩⟩
      else .error (.oft .slippageExceeded) := by
  rw [quoteOft]
  rw [hp, ofOption, ok_bind]
  cases hpaused : s.store.paused with
  | true => rfl
  | false =>
    have hcredited : add (2 ^ 64) ProgramError.overflow received oftFee = .ok (received + oftFee) :=
      add_eq_ok.mpr ⟨by omega, rfl⟩
    by_cases hmin : params.minAmountLd ≤ received
    · rw [ha]
      simp only [requireOft, require, Bool.not_false, if_true, ok_bind, hmin, decide_true, hcredited,
        Bool.false_eq_true, if_false]
      by_cases hw : received + oftFee < sent
      · have h₁ : sub ProgramError.overflow sent oftFee = .ok (sent - oftFee) := sub_eq_ok.mpr ⟨by omega, rfl⟩
        have h₂ : sub ProgramError.overflow (sent - oftFee) received = .ok (sent - oftFee - received) :=
          sub_eq_ok.mpr ⟨by omega, rfl⟩
        simp only [if_pos hw, h₁, h₂, ok_bind, feeDetails]
      · simp only [if_neg hw, feeDetails]
    · rw [ha]
      simp only [requireOft, require, Bool.not_false, if_true, ok_bind, hmin, decide_false, Bool.false_eq_true,
        if_false, error_bind]

/-- The amounts of a transfer are exact, and the listed fees are what they leave out. -/
theorem amounts_exact (s : StoreState) (peer : PeerConfig) (amountLd : U64)
    (hf : peer.feeBps.getD s.store.defaultFeeBps < maxFeeBasisPoints) :
    ∃ sent received oftFee,
      computeFeeAndAdjustAmount amountLd s.store s.mint s.clock.epoch peer.feeBps = .ok (sent, received, oftFee) ∧
      ExactAmounts amountLd s.store s.mint s.clock.epoch (peer.feeBps.getD s.store.defaultFeeBps)
        sent received oftFee ∧
      ∀ params : QuoteSendParams, s.peers params.dstEid = some peer → params.amountLd = amountLd →
        ((∃ r, quoteOft params s = .ok r) ↔ s.store.paused = false ∧ params.minAmountLd ≤ received) ∧
        ∀ r, quoteOft params s = .ok r → feeTotal r = sent - received := by
  obtain ⟨sent, received, oftFee, ha, he⟩ := computeFee_exact s.mint s.clock.epoch amountLd.isLt hf
  refine ⟨sent, received, oftFee, ha, he, fun params hp hamount => ?_⟩
  subst hamount
  have hsent : sent < 2 ^ 64 := by
    have := he.sent_le
    omega
  have hquote := quoteOft_eq hp ha he.credited_le hsent
  rw [hquote]
  cases s.store.paused with
  | true => simp
  | false =>
    by_cases hmin : params.minAmountLd ≤ received
    · simp [hmin, feeTotal, feeDetails_sum he.credited_le]
    · simp [hmin]

/-- A mint of nine decimals that withholds two percent. -/
def feeMint : Mint :=
  ⟨9, none, some ⟨⟨1000000, 200, by decide⟩, ⟨1000000, 200, by decide⟩, 0⟩⟩

/-- An active store on that mint that shares six decimals, takes one percent itself and has a peer. -/
def feeStore : StoreState :=
  { sampleStore with
    store := { sampleStore.store with ld2sdRate := 1000, rate_eq := ⟨3, rfl⟩, paused := false, defaultFeeBps := 100 }
    peers := Function.update sampleStore.peers 1 (some .zeroed)
    mint := feeMint }

def feeParams : QuoteSendParams := ⟨1, pubkey 12, 1234567, 1197000, [], none, false⟩

/-- Of 1234567 dust stays with the sender, 24674 go to the mint and 12000 to the store. -/
theorem amounts_exact_fees :
    ExactAmounts 1234567 feeStore.store feeMint 0 100 1233674 1197000 12000 ∧
      ∃ r, quoteOft feeParams feeStore = .ok r ∧ feeTotal r = 24674 + 12000 := by
  obtain ⟨sent, received, oftFee, ha, he, hquote⟩ := amounts_exact feeStore .zeroed 1234567 (by decide)
  have hamounts : computeFeeAndAdjustAmount 1234567 feeStore.store feeStore.mint feeStore.clock.epoch none =
      .ok (1233674, 1197000, 12000) := rfl
  obtain ⟨rfl, rfl, rfl⟩ : 1233674 = sent ∧ 1197000 = received ∧ 12000 = oftFee := by
    have heq := hamounts.symm.trans ha
    simpa only [Except.ok.injEq, Prod.mk.injEq] using heq
  obtain ⟨hok, htotal⟩ := hquote feeParams rfl rfl
  obtain ⟨r, hr⟩ := hok.mpr ⟨rfl, by decide⟩
  exact ⟨he, r, hr, htotal r hr⟩

end Details

section Fees

variable {space : AddressSpace} {oapp : Oapp} {s s' : StoreState}

structure FeesBounded (s : StoreState) : Prop where
  default_lt : s.store.defaultFeeBps < maxFeeBasisPoints
  peer_lt : ∀ eid, ∀ peer ∈ s.peers eid, ∀ bps ∈ peer.feeBps, bps < maxFeeBasisPoints

theorem FeesBounded.effective_lt (h : FeesBounded s) {eid : U32} {peer : PeerConfig}
    (hp : s.peers eid = some peer) : peer.feeBps.getD s.store.defaultFeeBps < maxFeeBasisPoints := by
  cases hb : peer.feeBps with
  | none => exact h.default_lt
  | some bps => exact h.peer_lt eid peer hp bps hb

theorem applyPeerConfig_fee {clock : Clock} {peer peer' : PeerConfig} {config : PeerConfigParam}
    (hp : ∀ bps ∈ peer.feeBps, bps < maxFeeBasisPoints) (h : applyPeerConfig oapp clock peer config = .ok peer') :
    ∀ bps ∈ peer'.feeBps, bps < maxFeeBasisPoints := by
  cases config with
  | feeBps feeBps =>
    obtain ⟨_, hchecked, h⟩ := bind_eq_ok.mp h
    cases h
    intro bps hb
    cases feeBps with
    | none => cases hb
    | some fee =>
      cases hb
      simpa [requireOft] using hchecked
  | peerAddress address =>
    cases h
    exact hp
  | enforcedOptions send sendAndCall =>
    obtain ⟨_, _, h⟩ := bind_eq_ok.mp h
    obtain ⟨_, _, h⟩ := bind_eq_ok.mp h
    cases h
    exact hp
  | outboundRateLimit _ | inboundRateLimit _ =>
    obtain ⟨_, _, h⟩ := bind_eq_ok.mp h
    cases h
    exact hp

theorem feesBounded_setOftConfig {admin : Pubkey} {params : SetOFTConfigParams} (hb : FeesBounded s)
    (h : setOftConfig oapp admin params s = .ok s') : FeesBounded s' := by
  obtain ⟨_, _, h⟩ := bind_eq_ok.mp h
  cases params with
  | defaultFee feeBps =>
    obtain ⟨_, hchecked, h⟩ := bind_eq_ok.mp h
    cases h
    exact ⟨by simpa [requireOft] using hchecked, hb.peer_lt⟩
  | delegate delegate =>
    obtain ⟨_, _, h⟩ := bind_eq_ok.mp h
    cases h
    exact hb
  | admin _ | paused _ | pauser _ | unpauser _ =>
    cases h
    exact ⟨hb.default_lt, hb.peer_lt⟩

theorem feesBounded_setPeerConfig {admin : Pubkey} {params : SetPeerConfigParams} (hb : FeesBounded s)
    (h : setPeerConfig space oapp admin params s = .ok s') : FeesBounded s' := by
  obtain ⟨_, new, bump, ha, rfl⟩ := setPeerConfig_effect h
  have hnew := applyPeerConfig_fee (fun fee hfee => by
    cases hold : s.peers params.remoteEid with
    | none =>
      rw [hold] at hfee
      cases hfee
    | some old =>
      rw [hold] at hfee
      exact hb.peer_lt _ old hold fee hfee) ha
  refine ⟨hb.default_lt, fun eid peer hp fee hfee => ?_⟩
  by_cases hk : eid = params.remoteEid
  · subst hk
    dsimp only at hp
    rw [Function.update_self, Option.mem_def, Option.some.injEq] at hp
    subst hp
    exact hnew fee hfee
  · dsimp only at hp
    rw [Function.update_of_ne hk] at hp
    exact hb.peer_lt eid peer hp fee hfee

theorem exec_defaultFee {c : Call} {o : Outcome} (hc : ∀ admin params, c ≠ .setOftConfig admin params)
    (h : exec space oapp s c = .ok (s', o)) : s'.store.defaultFeeBps = s.store.defaultFeeBps := by
  cases exec_effect h with
  | setOftConfig admin params _ _ _ _ _ _ => exact absurd rfl (hc admin params)
  | send accounts params s' r e => rw [e.store_eq]
  | lzReceive accounts params s' r e => rw [e.store_eq]
  | _ => rfl

theorem feesBounded_exec {c : Call} {o : Outcome} (hb : FeesBounded s) (h : exec space oapp s c = .ok (s', o)) :
    FeesBounded s' := by
  by_cases hstore : ∃ admin params, c = .setOftConfig admin params
  · obtain ⟨admin, params, rfl⟩ := hstore
    exact feesBounded_setOftConfig hb (exec_setOftConfig.mp h).1
  by_cases hpeer : ∃ admin params, c = .setPeerConfig admin params
  · obtain ⟨admin, params, rfl⟩ := hpeer
    exact feesBounded_setPeerConfig hb (exec_setPeerConfig.mp h).1
  refine ⟨?_, fun eid peer' hp bps hbps => ?_⟩
  · rw [exec_defaultFee (fun admin params hc => hstore ⟨admin, params, hc⟩) h]
    exact hb.default_lt
  · obtain ⟨peer, hold, hkept⟩ := exec_peerKept (fun admin params hc => hpeer ⟨admin, params, hc⟩) h hp
    rw [hkept.feeBps] at hbps
    exact hb.peer_lt eid peer hold bps hbps

theorem feesBounded_step {l : Event} (hb : FeesBounded s) (h : Step space s l s') : FeesBounded s' := by
  cases h with
  | call oapp h => exact feesBounded_exec hb h
  | aborted oapp h => exact hb
  | tokens _ _ _ | mint _ _ | clock _ => exact ⟨hb.default_lt, hb.peer_lt⟩

theorem feesBounded_reachable (h : Reachable space s) : FeesBounded s := by
  obtain ⟨s₀, hi, hr⟩ := h
  apply hr.invariant fun _ _ _ hb hs => feesBounded_step hb hs
  have hpeers := (initial_effect hi).no_peers
  refine ⟨by rw [(initial_effect hi).no_fee]; decide, fun eid peer hp => ?_⟩
  rw [hpeers] at hp
  cases hp

end Fees

section Messages

variable {oapp : Oapp} {s s' : StoreState} {accounts : SendAccounts} {asked : QuoteSendParams} {params : SendParams}
  {quoted : QuoteParams} {r : SendResult} {dest sender sender' : Pubkey} {n n' : Nat} {compose : Option Bytes}

/-- What `quote_send` hands to the Endpoint. -/
def quoteRequest (oapp : Oapp) (params : QuoteSendParams) (s : StoreState) : Result QuoteParams := do
  let peer ← ofOption .constraint (s.peers params.dstEid)
  requireOft .paused (!s.store.paused)
  let (_, amountReceivedLd, _) ←
    computeFeeAndAdjustAmount params.amountLd s.store s.mint s.clock.epoch peer.feeBps
  requireOft .slippageExceeded (params.minAmountLd ≤ amountReceivedLd)
  let options ← oapp.combineOptions
    (peer.enforcedOptions.getEnforcedOptions params.composeMsg) params.options
  .ok {
    sender := s.key
    dstEid := params.dstEid
    receiver := peer.peerAddress
    message := MsgCodec.encode params.dest amountReceivedLd (Vector.replicate 32 0) params.composeMsg
    payInLzToken := params.payInLzToken
    options := options }

theorem quoteSend_eq : quoteSend oapp asked s = quoteRequest oapp asked s >>= oapp.quote s.store.endpointProgram := by
  rw [quoteSend, quoteRequest]
  simp only [bind_assoc, ok_bind]

structure SameRequest (asked : QuoteSendParams) (params : SendParams) : Prop where
  dstEid : asked.dstEid = params.dstEid
  dest : asked.dest = params.dest
  amountLd : asked.amountLd = params.amountLd
  minAmountLd : asked.minAmountLd = params.minAmountLd
  options : asked.options = params.options
  composeMsg : asked.composeMsg = params.composeMsg

/-- The quoted message and options are those sent, up to the sender's 32 bytes
of a composed message. -/
structure Prices (quoted : QuoteParams) (packet : EndpointSendParams) : Prop where
  options : quoted.options = packet.options
  head : quoted.message.take 40 = packet.message.take 40
  tail : quoted.message.drop 72 = packet.message.drop 72
  length : quoted.message.length = packet.message.length
  sendTo : MsgCodec.sendTo quoted.message = MsgCodec.sendTo packet.message
  amountSd : MsgCodec.amountSd quoted.message = MsgCodec.amountSd packet.message

/-- Where the quote and the send hand the same request to the Endpoint whatever the amounts are. -/
structure Agree (s : StoreState) (asked : QuoteSendParams) (quoted : QuoteParams) (packet : EndpointSendParams) where
  peer : PeerConfig
  signer : Pubkey
  sent : Nat
  received : Nat
  oftFee : Nat
  peer_eq : s.peers asked.dstEid = some peer
  amounts : computeFeeAndAdjustAmount asked.amountLd s.store s.mint s.clock.epoch peer.feeBps =
    .ok (sent, received, oftFee)
  dstEid : quoted.dstEid = packet.dstEid
  receiver : quoted.receiver = packet.receiver
  options : quoted.options = packet.options
  quoted_message : quoted.message =
    MsgCodec.encode asked.dest received (Vector.replicate 32 0) asked.composeMsg
  sent_message : packet.message =
    MsgCodec.encode asked.dest (s.store.ld2sd received) signer asked.composeMsg

theorem quote_agrees (hsame : SameRequest asked params) (hq : quoteRequest oapp asked s = .ok quoted)
    (hs : send oapp accounts params s = .ok (s', r)) : Nonempty (Agree s asked quoted r.packet) := by
  obtain ⟨e⟩ := send_effect hs
  obtain ⟨peer, hp, hq⟩ := bind_eq_ok.mp hq
  obtain ⟨_, _, hq⟩ := bind_eq_ok.mp hq
  obtain ⟨⟨sent, received, oftFee⟩, ha, hq⟩ := bind_eq_ok.mp hq
  obtain ⟨_, _, hq⟩ := bind_eq_ok.mp hq
  obtain ⟨options, ho, hq⟩ := bind_eq_ok.mp hq
  cases hq
  have hp : s.peers asked.dstEid = some peer := by simpa using hp
  have hpeer := e.peer_eq
  rw [← hsame.dstEid, hp, Option.some.injEq] at hpeer
  subst hpeer
  have hamounts := e.amounts
  rw [← hsame.amountLd, ha, Except.ok.injEq, Prod.mk.injEq, Prod.mk.injEq] at hamounts
  have hoptions := e.options_eq
  rw [← hsame.composeMsg, ← hsame.options, ho, Except.ok.injEq] at hoptions
  have hmessage := e.message_eq
  rw [← hsame.dest, ← hsame.composeMsg, ← hamounts.2.1] at hmessage
  exact ⟨{
    peer := e.peer
    signer := accounts.signer
    sent := sent
    received := received
    oftFee := oftFee
    peer_eq := hp
    amounts := ha
    dstEid := hsame.dstEid.trans e.dstEid_eq.symm
    receiver := e.receiver_eq.symm
    options := hoptions
    quoted_message := rfl
    sent_message := hmessage }⟩

/-- Messages of one recipient and payload agree where the shared amounts do. -/
theorem encode_agrees_iff (hn : n < 2 ^ 64) (hn' : n' < 2 ^ 64) :
    MsgCodec.amountSd (MsgCodec.encode dest n sender compose) =
      MsgCodec.amountSd (MsgCodec.encode dest n' sender' compose) ↔ n = n' := by
  rw [MsgCodec.amountSd_encode hn, MsgCodec.amountSd_encode hn', Option.some.injEq]

theorem Agree.prices_iff {packet : EndpointSendParams} (a : Agree s asked quoted packet)
    (hlt : a.received < 2 ^ 64) : Prices quoted packet ↔ a.received = s.store.ld2sd a.received := by
  have hsd : s.store.ld2sd a.received < 2 ^ 64 := (Nat.div_le_self _ _).trans_lt hlt
  constructor
  · intro h
    have hamount := h.amountSd
    rw [a.quoted_message, a.sent_message] at hamount
    exact (encode_agrees_iff hlt hsd).mp hamount
  · intro h
    have hsent := a.sent_message
    rw [← h] at hsent
    refine ⟨a.options, ?_, ?_, ?_, ?_, ?_⟩
    · rw [a.quoted_message, hsent, MsgCodec.head_encode, MsgCodec.head_encode]
    · rw [a.quoted_message, hsent, MsgCodec.tail_encode, MsgCodec.tail_encode]
    · rw [a.quoted_message, hsent, MsgCodec.length_encode_eq, MsgCodec.length_encode_eq]
    · rw [a.quoted_message, hsent, MsgCodec.sendTo_encode, MsgCodec.sendTo_encode]
    · rw [a.quoted_message, hsent, MsgCodec.amountSd_encode hlt, MsgCodec.amountSd_encode hlt]

/-- The quote prices the message that is sent exactly when local and shared
units are the same or nothing is credited. -/
theorem quote_prices_iff (hb : FeesBounded s) (hsame : SameRequest asked params)
    (hq : quoteRequest oapp asked s = .ok quoted) (hs : send oapp accounts params s = .ok (s', r)) :
    Prices quoted r.packet ↔
      s.store.ld2sdRate = 1 ∨ netAmount s.store s.mint s.clock.epoch asked.amountLd < s.store.ld2sdRate := by
  obtain ⟨a⟩ := quote_agrees hsame hq hs
  obtain ⟨sent, received, oftFee, ha, he⟩ := computeFee_exact s.mint s.clock.epoch asked.amountLd.isLt
    (hb.effective_lt a.peer_eq)
  have hamounts := a.amounts
  rw [ha, Except.ok.injEq, Prod.mk.injEq, Prod.mk.injEq] at hamounts
  obtain ⟨_, hreceived, _⟩ := hamounts
  rw [hreceived] at he
  have hlt : a.received < 2 ^ 64 := by
    have := he.credited_le
    have := he.sent_le
    omega
  rw [a.prices_iff hlt, ← he.received_eq_zero_iff]
  exact s.store.eq_ld2sd_iff

/-- The peer once `set_peer_config` has given it an address. -/
def scaledPeer : PeerConfig := { PeerConfig.zeroed with peerAddress := pubkey 11, bump := 255 }

/-- An active store on a mint of nine decimals that shares six of them. -/
def scaledStore : StoreState :=
  { sampleStore with
    store := { sampleStore.store with ld2sdRate := 1000, rate_eq := ⟨3, rfl⟩, paused := false }
    peers := Function.update sampleStore.peers 1 (some scaledPeer)
    mint := { sampleMint with decimals := 9 } }

def scaledBalances : TokenAccounts where
  amount key := if key = pubkey 5 then 1000 else 0
  owner key := if key = pubkey 5 then some (pubkey 6) else none

theorem reachable_scaledStore : Reachable sampleSpace scaledStore := by
  have hinit : Initial sampleSpace { scaledStore with
      store := { scaledStore.store with paused := true }, peers := sampleStore.peers } :=
    ⟨sampleOapp, pubkey 2, pubkey 3, { sampleMint with decimals := 9 }, scaledBalances, ⟨0, 0⟩,
      ⟨.adapter, pubkey 4, 6, none⟩, rfl⟩
  have hunpause : Step sampleSpace { scaledStore with
        store := { scaledStore.store with paused := true }, peers := sampleStore.peers }
      (.call (.setOftConfig (pubkey 4) (.paused false)) .done)
      { scaledStore with peers := sampleStore.peers } := .call sampleOapp rfl
  have hpeer : Step sampleSpace { scaledStore with peers := sampleStore.peers }
      (.call (.setPeerConfig (pubkey 4) ⟨1, .peerAddress (pubkey 11)⟩) .done) scaledStore := .call sampleOapp rfl
  exact ⟨_, hinit, _, .cons hunpause (.single hpeer)⟩

def thousandAsked : QuoteSendParams := ⟨1, pubkey 12, 1000, 0, [], none, false⟩

def thousandSent : SendParams := ⟨1, pubkey 12, 1000, 0, [], none, 0, 0⟩

def thousandAccounts : SendAccounts := ⟨pubkey 6, pubkey 5, [pubkey 1, pubkey 9]⟩

theorem sameRequest_thousand : SameRequest thousandAsked thousandSent := by
  constructor <;> rfl

theorem quoted_thousand : ∃ quoted, quoteRequest sampleOapp thousandAsked scaledStore = .ok quoted ∧
    MsgCodec.amountSd quoted.message = some 1000 := ⟨_, rfl, rfl⟩

theorem sent_thousand : ∃ s', ∃ r : SendResult, send sampleOapp thousandAccounts thousandSent scaledStore =
    .ok (s', r) ∧ MsgCodec.amountSd r.packet.message = some 1 := ⟨_, _, rfl, rfl⟩

theorem quote_prices_thousand : ∃ quoted, ∃ r : SendResult,
    Prices quoted r.packet ↔ scaledStore.store.ld2sdRate = 1 ∨
      netAmount scaledStore.store scaledStore.mint scaledStore.clock.epoch thousandAsked.amountLd < 1000 := by
  obtain ⟨quoted, hq, _⟩ := quoted_thousand
  obtain ⟨s', r, hs, _⟩ := sent_thousand
  exact ⟨quoted, r, quote_prices_iff (feesBounded_reachable reachable_scaledStore) sameRequest_thousand hq hs⟩

/-- The quoted message announces a thousand shared units, the sent one a single unit. -/
theorem quote_misprices : ¬ ∀ (space : AddressSpace) (oapp : Oapp) (s s' : StoreState) (accounts : SendAccounts)
    (asked : QuoteSendParams) (params : SendParams) (quoted : QuoteParams) (r : SendResult),
    Reachable space s → SameRequest asked params → quoteRequest oapp asked s = .ok quoted →
    send oapp accounts params s = .ok (s', r) → Prices quoted r.packet := by
  intro h
  obtain ⟨quoted, hq, hthousand⟩ := quoted_thousand
  obtain ⟨s', r, hs, hone⟩ := sent_thousand
  have hprices := h _ _ _ _ _ _ _ _ _ reachable_scaledStore sameRequest_thousand hq hs
  have hamount := hprices.amountSd
  rw [hthousand, hone, Option.some.injEq] at hamount
  cases hamount

end Messages

end SanBridge.Solana.Quotes
