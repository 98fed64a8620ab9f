import SanBridge.Evm.Contract
import SanBridge.Library.Runs

namespace SanBridge.Evm.Program

open Library.Accounts Library.BigEndian Library.Checked Library.Runs Evm.Runtime Evm.Base Evm.Contract

structure Chain where
  now : Nat
  token : SanOFT

inductive Call
  | pause
  | unpause
  | renounceOwnership
  | transferOwnership (newOwner : Address)
  | setPeer (eid : U32) (peer : Bytes32)
  | setOutboundRateLimit (params : RateLimitParams)
  | setInboundRateLimit (params : RateLimitParams)
  | outboundRateLimit
  | inboundRateLimit
  | quoteOFT (params : SendParam)
  | quoteSend (params : SendParam)
  | send (params : SendParam)
  | lzReceive (origin : Origin) (guid : Bytes32) (message : Bytes)
  | transfer (dest : Address) (amount : U256)

inductive Outcome
  | done
  | limits (view : BucketView)
  | quotedOFT (quote : QuoteOFT)
  | quotedSend (fee : Nat)
  | sent (result : SendResult)
  | received (event : OFTReceived)

/-- A state change that returns nothing. -/
def finish (s : Chain) (r : Result SanOFT) : Result (Chain × Outcome) := do
  let token ← r
  .ok ({ s with token := token }, .done)

/-- A view: the state stays, the result becomes the outcome. -/
def view {α : Type} (s : Chain) (f : α → Outcome) (r : Result α) : Result (Chain × Outcome) := do
  let a ← r
  .ok (s, f a)

def exec (oft : OFT) (sender : Address) (s : Chain) : Call → Result (Chain × Outcome)
  | .pause => finish s (pause sender s.token)
  | .unpause => finish s (unpause sender s.token)
  | .renounceOwnership => finish s (renounceOwnership sender s.token)
  | .transferOwnership newOwner => finish s (transferOwnership sender newOwner s.token)
  | .setPeer eid peer => finish s (setPeer sender eid peer s.token)
  | .setOutboundRateLimit params => finish s (setOutboundRateLimit s.now sender params s.token)
  | .setInboundRateLimit params => finish s (setInboundRateLimit s.now sender params s.token)
  | .outboundRateLimit => view s .limits (bucketView s.now s.token.outboundBucket)
  | .inboundRateLimit => view s .limits (bucketView s.now s.token.inboundBucket)
  | .quoteOFT params => view s .quotedOFT (quoteOFT oft s.now params s.token)
  | .quoteSend params => view s .quotedSend (quoteSend oft s.now sender params s.token)
  | .send params => do
    let (token, result) ← send oft s.now sender params s.token
    .ok ({ s with token := token }, .sent result)
  | .lzReceive origin guid message => do
    let (token, event) ← lzReceive oft s.now sender origin guid message s.token
    .ok ({ s with token := token }, .received event)
  | .transfer dest amount => do
    let ledger ← erc20Transfer s.token.ledger sender dest amount
    .ok ({ s with token := { s.token with ledger := ledger } }, .done)

inductive Event
  | call (sender : Address) (c : Call) (o : Outcome)
  | reverted (sender : Address) (c : Call) (e : EvmError)
  | time (now : Nat)

/-- Anybody may call anything at any time; what reverts changes nothing. Time
never goes back. -/
inductive Step : Chain → Event → Chain → Prop
  | call {s s' : Chain} {sender : Address} {c : Call} {o : Outcome} (oft : OFT)
      (h : exec oft sender s c = .ok (s', o)) : Step s (.call sender c o) s'
  | reverted {s : Chain} {sender : Address} {c : Call} {e : EvmError} (oft : OFT)
      (h : exec oft sender s c = .error e) : Step s (.reverted sender c e) s
  | time {s : Chain} (now : Nat) (h : s.now ≤ now) : Step s (.time now) { s with now := now }

def Initial (s : Chain) : Prop :=
  ∃ endpoint delegate, construct s.now endpoint delegate = .ok s.token

def Reachable (s : Chain) : Prop := ∃ s₀, Initial s₀ ∧ Reaches Step s₀ s

theorem Reachable.tail {s t : Chain} {l : Event} (h : Reachable s) (hs : Step s l t) :
    Reachable t := by
  obtain ⟨s₀, hi, hr⟩ := h
  exact ⟨s₀, hi, hr.tail hs⟩

structure InitEffect (s : Chain) : Prop where
  paused : s.token.paused = true
  outbound : s.token.outboundBucket = initializeBucket s.now
  inbound : s.token.inboundBucket = initializeBucket s.now
  supply_zero : s.token.totalSupply = 0
  no_peers : s.token.peers = fun _ => zeroBytes32

theorem initial_effect {s : Chain} (h : Initial s) : InitEffect s := by
  obtain ⟨endpoint, delegate, h⟩ := h
  obtain ⟨_, _, h⟩ := bind_eq_ok.mp h
  constructor <;> simp [← Except.ok.inj h, SanOFT.totalSupply]

section Effects

variable {oft : OFT} {sender : Address} {now : Nat} {t t' : SanOFT}

structure SendEffect (oft : OFT) (now : Nat) (sender : Address) (params : SendParam) (t t' : SanOFT)
    (r : SendResult) where
  amount : Nat
  ledger : Balances
  bucket : TokenBucket
  unpaused : t.paused = false
  view_eq : oft.debitView params.amountLD params.minAmountLD params.dstEid = .ok (amount, amount)
  burned : erc20Burn t.ledger sender amount = .ok ledger
  consumed : consume now false amount t.outboundBucket = .ok bucket
  state_eq : t' = { t with ledger := ledger, outboundBucket := bucket }
  peer_ne : t.peers params.dstEid ≠ zeroBytes32
  receiver_eq : r.receiver = t.peers params.dstEid
  message_eq : oft.buildMsg sender params amount = .ok r.message
  event_eq : r.event = ⟨r.receipt.guid, params.dstEid, sender, amount, amount⟩

theorem debitView_ok {amountLD minAmountLD sent received : Nat} {dstEid : U32}
    (h : debitView oft now amountLD minAmountLD dstEid t = .ok (sent, received)) :
    t.paused = false ∧ sent = received ∧
      oft.debitView amountLD minAmountLD dstEid = .ok (sent, received) := by
  obtain ⟨_, hp, h⟩ := bind_eq_ok.mp h
  obtain ⟨⟨sent', received'⟩, hv, h⟩ := bind_eq_ok.mp h
  obtain ⟨_, _, h⟩ := bind_eq_ok.mp h
  obtain ⟨_, _, h⟩ := bind_eq_ok.mp h
  obtain ⟨rfl, rfl⟩ := Prod.mk.inj (Except.ok.inj h)
  exact ⟨by simpa [requireNotPaused] using hp, oft.debitView_same _ _ _ _ _ hv, hv⟩

theorem getPeerOrRevert_ok {eid : U32} {peer : Bytes32} (h : getPeerOrRevert eid t = .ok peer) :
    t.peers eid ≠ zeroBytes32 ∧ peer = t.peers eid := by
  obtain ⟨_, hp, h⟩ := bind_eq_ok.mp h
  exact ⟨by simpa using hp, (Except.ok.inj h).symm⟩

theorem send_effect {params : SendParam} {r : SendResult}
    (h : send oft now sender params t = .ok (t', r)) :
    Nonempty (SendEffect oft now sender params t t' r) := by
  obtain ⟨⟨debited, sent, received⟩, hd, h⟩ := bind_eq_ok.mp h
  obtain ⟨message, hm, h⟩ := bind_eq_ok.mp h
  obtain ⟨peer, hp, h⟩ := bind_eq_ok.mp h
  obtain ⟨receipt, _, h⟩ := bind_eq_ok.mp h
  obtain ⟨rfl, rfl⟩ := Prod.mk.inj (Except.ok.inj h)
  obtain ⟨⟨sent', received'⟩, hv, hd⟩ := bind_eq_ok.mp hd
  obtain ⟨ledger, hl, hd⟩ := bind_eq_ok.mp hd
  obtain ⟨bucket, hb, hd⟩ := bind_eq_ok.mp hd
  cases hd
  obtain ⟨hu, rfl, hv⟩ := debitView_ok hv
  obtain ⟨hne, hpeer⟩ := getPeerOrRevert_ok hp
  exact ⟨{
    amount := sent
    ledger := ledger
    bucket := bucket
    unpaused := hu
    view_eq := hv
    burned := hl
    consumed := hb
    state_eq := rfl
    peer_ne := hne
    receiver_eq := hpeer
    message_eq := hm
    event_eq := rfl }⟩

namespace SendEffect

variable {params : SendParam} {r : SendResult}

theorem ledger_eq (e : SendEffect oft now sender params t t' r) : t'.ledger = e.ledger :=
  congrArg SanOFT.ledger e.state_eq

theorem paused_eq (e : SendEffect oft now sender params t t' r) : t'.paused = t.paused := by
  rw [e.state_eq]

theorem peers_eq (e : SendEffect oft now sender params t t' r) : t'.peers = t.peers := by
  rw [e.state_eq]

theorem outbound_eq (e : SendEffect oft now sender params t t' r) : t'.outboundBucket = e.bucket :=
  congrArg SanOFT.outboundBucket e.state_eq

theorem inbound_eq (e : SendEffect oft now sender params t t' r) : t'.inboundBucket = t.inboundBucket := by
  rw [e.state_eq]

end SendEffect

structure ReceiveEffect (oft : OFT) (now : Nat) (sender : Address) (origin : Origin) (message : Bytes)
    (t t' : SanOFT) (r : OFTReceived) where
  toAddress : Address
  amount : Nat
  ledger : Balances
  bucket : TokenBucket
  sender_eq : t.endpoint = sender
  peer_ne : t.peers origin.srcEid ≠ zeroBytes32
  peer_eq : t.peers origin.srcEid = origin.sender
  unpaused : t.paused = false
  message_eq : oft.readMsg message = .ok (toAddress, amount)
  consumed : consume now true amount t.inboundBucket = .ok bucket
  minted : erc20Mint t.ledger (oft.creditTo toAddress) amount = .ok ledger
  state_eq : t' = { t with ledger := ledger, inboundBucket := bucket }
  amount_eq : r.amountReceivedLD = amount

theorem lzReceive_effect {origin : Origin} {guid : Bytes32} {message : Bytes} {r : OFTReceived}
    (h : lzReceive oft now sender origin guid message t = .ok (t', r)) :
    Nonempty (ReceiveEffect oft now sender origin message t t' r) := by
  obtain ⟨_, he, h⟩ := bind_eq_ok.mp h
  obtain ⟨peer, hp, h⟩ := bind_eq_ok.mp h
  obtain ⟨_, ho, h⟩ := bind_eq_ok.mp h
  obtain ⟨⟨toAddress, amount⟩, hm, h⟩ := bind_eq_ok.mp h
  obtain ⟨credited, hc, h⟩ := bind_eq_ok.mp h
  obtain ⟨rfl, rfl⟩ := Prod.mk.inj (Except.ok.inj h)
  obtain ⟨_, hu, hc⟩ := bind_eq_ok.mp hc
  obtain ⟨bucket, hb, hc⟩ := bind_eq_ok.mp hc
  obtain ⟨ledger, hl, hc⟩ := bind_eq_ok.mp hc
  cases hc
  obtain ⟨hne, rfl⟩ := getPeerOrRevert_ok hp
  exact ⟨{
    toAddress := toAddress
    amount := amount
    ledger := ledger
    bucket := bucket
    sender_eq := by simpa using he
    peer_ne := hne
    peer_eq := by simpa using ho
    unpaused := by simpa [requireNotPaused] using hu
    message_eq := hm
    consumed := hb
    minted := hl
    state_eq := rfl
    amount_eq := rfl }⟩

theorem lzReceive_event {origin : Origin} {guid : Bytes32} {message : Bytes} {r : OFTReceived}
    (h : lzReceive oft now sender origin guid message t = .ok (t', r)) :
    ∃ toAddress amount, oft.readMsg message = .ok (toAddress, amount) ∧
      r = ⟨guid, origin.srcEid, toAddress, amount⟩ := by
  obtain ⟨_, _, h⟩ := bind_eq_ok.mp h
  obtain ⟨_, _, h⟩ := bind_eq_ok.mp h
  obtain ⟨_, _, h⟩ := bind_eq_ok.mp h
  obtain ⟨⟨toAddress, amount⟩, hm, h⟩ := bind_eq_ok.mp h
  obtain ⟨_, _, h⟩ := bind_eq_ok.mp h
  cases h
  exact ⟨toAddress, amount, hm, rfl⟩

namespace ReceiveEffect

variable {origin : Origin} {message : Bytes} {r : OFTReceived}

theorem ledger_eq (e : ReceiveEffect oft now sender origin message t t' r) : t'.ledger = e.ledger :=
  congrArg SanOFT.ledger e.state_eq

theorem paused_eq (e : ReceiveEffect oft now sender origin message t t' r) : t'.paused = t.paused := by
  rw [e.state_eq]

theorem peers_eq (e : ReceiveEffect oft now sender origin message t t' r) : t'.peers = t.peers := by
  rw [e.state_eq]

theorem inbound_eq (e : ReceiveEffect oft now sender origin message t t' r) : t'.inboundBucket = e.bucket :=
  congrArg SanOFT.inboundBucket e.state_eq

theorem outbound_eq (e : ReceiveEffect oft now sender origin message t t' r) :
    t'.outboundBucket = t.outboundBucket := by
  rw [e.state_eq]

end ReceiveEffect

end Effects

section Exec

variable {oft : OFT} {sender : Address} {s s' : Chain} {o : Outcome} {α : Type}

theorem finish_eq_ok {r : Result SanOFT} : finish s r = .ok (s', o) ↔
    ∃ token, r = .ok token ∧ s' = { s with token := token } ∧ o = .done := by
  simp only [finish, bind_eq_ok, Except.ok.injEq, Prod.mk.injEq]
  grind

theorem view_eq_ok {f : α → Outcome} {r : Result α} : view s f r = .ok (s', o) ↔
    s' = s ∧ ∃ a, r = .ok a ∧ o = f a := by
  simp only [view, bind_eq_ok, Except.ok.injEq, Prod.mk.injEq]
  grind

theorem exec_send {params : SendParam} : exec oft sender s (.send params) = .ok (s', o) ↔
    ∃ token r, send oft s.now sender params s.token = .ok (token, r) ∧
      s' = { s with token := token } ∧ o = .sent r := by
  simp only [exec, bind_eq_ok, Except.ok.injEq, Prod.mk.injEq, Prod.exists]
  grind

theorem exec_lzReceive {origin : Origin} {guid : Bytes32} {message : Bytes} :
    exec oft sender s (.lzReceive origin guid message) = .ok (s', o) ↔
      ∃ token r, lzReceive oft s.now sender origin guid message s.token = .ok (token, r) ∧
        s' = { s with token := token } ∧ o = .received r := by
  simp only [exec, bind_eq_ok, Except.ok.injEq, Prod.mk.injEq, Prod.exists]
  grind

theorem exec_transfer {dest : Address} {amount : U256} :
    exec oft sender s (.transfer dest amount) = .ok (s', o) ↔
      ∃ ledger, erc20Transfer s.token.ledger sender dest amount = .ok ledger ∧
        s' = { s with token := { s.token with ledger := ledger } } ∧ o = .done := by
  simp only [exec, bind_eq_ok, Except.ok.injEq, Prod.mk.injEq]
  grind

theorem onlyOwner_ok {t : SanOFT} {u : Unit} (h : onlyOwner sender t = .ok u) : t.owner = sender := by
  simpa [onlyOwner] using h

theorem setOutboundLimit_ok {t t' : SanOFT} {now : Nat} {params : RateLimitParams}
    (h : setOutboundRateLimit now sender params t = .ok t') : t.owner = sender ∧
      ∃ b, configureBucket now params.capacity params.refillAmount params.refillDuration
        t.outboundBucket = .ok b ∧ t' = { t with outboundBucket := b } := by
  obtain ⟨_, ho, h⟩ := bind_eq_ok.mp h
  obtain ⟨b, hb, h⟩ := bind_eq_ok.mp h
  exact ⟨onlyOwner_ok ho, b, hb, (Except.ok.inj h).symm⟩

theorem setInboundLimit_ok {t t' : SanOFT} {now : Nat} {params : RateLimitParams}
    (h : setInboundRateLimit now sender params t = .ok t') : t.owner = sender ∧
      ∃ b, configureBucket now params.capacity params.refillAmount params.refillDuration
        t.inboundBucket = .ok b ∧ t' = { t with inboundBucket := b } := by
  obtain ⟨_, ho, h⟩ := bind_eq_ok.mp h
  obtain ⟨b, hb, h⟩ := bind_eq_ok.mp h
  exact ⟨onlyOwner_ok ho, b, hb, (Except.ok.inj h).symm⟩

inductive CallEffect (oft : OFT) (sender : Address) (s : Chain) : Call → Chain → Outcome → Prop
  | pause (owner : s.token.owner = sender) (unpaused : s.token.paused = false) :
      CallEffect oft sender s .pause { s with token := { s.token with paused := true } } .done
  | unpause (owner : s.token.owner = sender) (paused : s.token.paused = true) :
      CallEffect oft sender s .unpause { s with token := { s.token with paused := false } } .done
  | transferOwnership (newOwner : Address) (owner : s.token.owner = sender) (valid : newOwner ≠ 0) :
      CallEffect oft sender s (.transferOwnership newOwner)
        { s with token := { s.token with owner := newOwner } } .done
  | setPeer (eid : U32) (peer : Bytes32) (owner : s.token.owner = sender) :
      CallEffect oft sender s (.setPeer eid peer)
        { s with token := { s.token with peers := Function.update s.token.peers eid peer } } .done
  | setOutboundRateLimit (params : RateLimitParams) (bucket : TokenBucket)
      (owner : s.token.owner = sender)
      (configured : configureBucket s.now params.capacity params.refillAmount params.refillDuration
        s.token.outboundBucket = .ok bucket) :
      CallEffect oft sender s (.setOutboundRateLimit params)
        { s with token := { s.token with outboundBucket := bucket } } .done
  | setInboundRateLimit (params : RateLimitParams) (bucket : TokenBucket)
      (owner : s.token.owner = sender)
      (configured : configureBucket s.now params.capacity params.refillAmount params.refillDuration
        s.token.inboundBucket = .ok bucket) :
      CallEffect oft sender s (.setInboundRateLimit params)
        { s with token := { s.token with inboundBucket := bucket } } .done
  | outboundRateLimit (v : BucketView) (viewed : bucketView s.now s.token.outboundBucket = .ok v) :
      CallEffect oft sender s .outboundRateLimit s (.limits v)
  | inboundRateLimit (v : BucketView) (viewed : bucketView s.now s.token.inboundBucket = .ok v) :
      CallEffect oft sender s .inboundRateLimit s (.limits v)
  | quoteOFT (params : SendParam) (quote : QuoteOFT)
      (quoted : quoteOFT oft s.now params s.token = .ok quote) :
      CallEffect oft sender s (.quoteOFT params) s (.quotedOFT quote)
  | quoteSend (params : SendParam) (fee : Nat)
      (quoted : quoteSend oft s.now sender params s.token = .ok fee) :
      CallEffect oft sender s (.quoteSend params) s (.quotedSend fee)
  | send (params : SendParam) (token : SanOFT) (r : SendResult)
      (e : SendEffect oft s.now sender params s.token token r) :
      CallEffect oft sender s (.send params) { s with token := token } (.sent r)
  | lzReceive (origin : Origin) (guid : Bytes32) (message : Bytes) (token : SanOFT) (r : OFTReceived)
      (e : ReceiveEffect oft s.now sender origin message s.token token r) :
      CallEffect oft sender s (.lzReceive origin guid message) { s with token := token } (.received r)
  | transfer (dest : Address) (amount : U256) (ledger : Balances)
      (moved : erc20Transfer s.token.ledger sender dest amount = .ok ledger) :
      CallEffect oft sender s (.transfer dest amount)
        { s with token := { s.token with ledger := ledger } } .done

theorem exec_effect {c : Call} (h : exec oft sender s c = .ok (s', o)) :
    CallEffect oft sender s c s' o := by
  cases c with
  | pause =>
    obtain ⟨token, ht, rfl, rfl⟩ := finish_eq_ok.mp h
    obtain ⟨_, ho, ht⟩ := bind_eq_ok.mp ht
    obtain ⟨_, hp, ht⟩ := bind_eq_ok.mp ht
    cases ht
    exact .pause (onlyOwner_ok ho) (by simpa [requireNotPaused] using hp)
  | unpause =>
    obtain ⟨token, ht, rfl, rfl⟩ := finish_eq_ok.mp h
    obtain ⟨_, ho, ht⟩ := bind_eq_ok.mp ht
    obtain ⟨_, hp, ht⟩ := bind_eq_ok.mp ht
    cases ht
    exact .unpause (onlyOwner_ok ho) (by simpa using hp)
  | transferOwnership newOwner =>
    obtain ⟨token, ht, rfl, rfl⟩ := finish_eq_ok.mp h
    obtain ⟨_, ho, ht⟩ := bind_eq_ok.mp ht
    obtain ⟨_, hn, ht⟩ := bind_eq_ok.mp ht
    cases ht
    exact .transferOwnership newOwner (onlyOwner_ok ho) (by simpa using hn)
  | setPeer eid peer =>
    obtain ⟨token, ht, rfl, rfl⟩ := finish_eq_ok.mp h
    obtain ⟨_, ho, ht⟩ := bind_eq_ok.mp ht
    cases ht
    exact .setPeer eid peer (onlyOwner_ok ho)
  | renounceOwnership =>
    obtain ⟨token, ht, _⟩ := finish_eq_ok.mp h
    obtain ⟨_, _, ht⟩ := bind_eq_ok.mp ht
    cases ht
  | setOutboundRateLimit params =>
    obtain ⟨token, ht, rfl, rfl⟩ := finish_eq_ok.mp h
    obtain ⟨ho, b, hb, rfl⟩ := setOutboundLimit_ok ht
    exact .setOutboundRateLimit params b ho hb
  | setInboundRateLimit params =>
    obtain ⟨token, ht, rfl, rfl⟩ := finish_eq_ok.mp h
    obtain ⟨ho, b, hb, rfl⟩ := setInboundLimit_ok ht
    exact .setInboundRateLimit params b ho hb
  | outboundRateLimit =>
    obtain ⟨rfl, v, hv, rfl⟩ := view_eq_ok.mp h
    exact .outboundRateLimit v hv
  | inboundRateLimit =>
    obtain ⟨rfl, v, hv, rfl⟩ := view_eq_ok.mp h
    exact .inboundRateLimit v hv
  | quoteOFT params =>
    obtain ⟨rfl, quote, hq, rfl⟩ := view_eq_ok.mp h
    exact .quoteOFT params quote hq
  | quoteSend params =>
    obtain ⟨rfl, fee, hq, rfl⟩ := view_eq_ok.mp h
    exact .quoteSend params fee hq
  | send params =>
    obtain ⟨token, r, hr, rfl, rfl⟩ := exec_send.mp h
    obtain ⟨e⟩ := send_effect hr
    exact .send params token r e
  | lzReceive origin guid message =>
    obtain ⟨token, r, hr, rfl, rfl⟩ := exec_lzReceive.mp h
    obtain ⟨e⟩ := lzReceive_effect hr
    exact .lzReceive origin guid message token r e
  | transfer dest amount =>
    obtain ⟨ledger, hl, rfl, rfl⟩ := exec_transfer.mp h
    exact .transfer dest amount ledger hl

theorem exec_peers {c : Call} (h : exec oft sender s c = .ok (s', o)) :
    s'.token.peers = s.token.peers ∨ ∃ eid peer, c = .setPeer eid peer ∧
      s'.token.peers = Function.update s.token.peers eid peer := by
  cases exec_effect h with
  | setPeer eid peer owner => exact Or.inr ⟨eid, peer, rfl, rfl⟩
  | send params token r e => exact Or.inl e.peers_eq
  | lzReceive origin guid message token r e => exact Or.inl e.peers_eq
  | _ => exact Or.inl rfl

end Exec

end SanBridge.Evm.Program
