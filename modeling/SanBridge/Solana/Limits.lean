import SanBridge.Solana.Buckets
import SanBridge.Solana.Program

namespace SanBridge.Solana.Limits

open Library.Checked Library.Runs
open Solana.Runtime Solana.State Solana.Instructions Solana.Effects Solana.Program Solana.Buckets

/-- The two limiters of a peer, named by the traffic that consumes them. -/
inductive Direction
  | outbound | inbound
  deriving DecidableEq, Repr

def Direction.other : Direction → Direction
  | .outbound => .inbound
  | .inbound => .outbound

def Direction.limiter : Direction → PeerConfig → Option RateLimiter
  | .outbound, peer => peer.outboundRateLimiter
  | .inbound, peer => peer.inboundRateLimiter

/-- The limiter update a peer configuration makes in a direction, if it makes one. -/
def Direction.rateLimit : Direction → PeerConfigParam → Option (Option RateLimitParams)
  | .outbound, .outboundRateLimit params => some params
  | .inbound, .inboundRateLimit params => some params
  | _, _ => none

def Direction.config : Direction → Option RateLimitParams → PeerConfigParam
  | .outbound, params => .outboundRateLimit params
  | .inbound, params => .inboundRateLimit params

def limiterOf (eid : U32) (d : Direction) (s : StoreState) : Option RateLimiter :=
  (s.peers eid).bind d.limiter

/-- The amount a call moves through a peer in a direction: `amount_received_ld`
of a `send`, the local amount of the message of an `lz_receive`. -/
def flow (eid : U32) : Direction → StoreState × Event → Nat
  | .outbound, (_, .call (.send _ params) (.sent r)) =>
    if params.dstEid = eid then r.oftReceipt.amountReceivedLd else 0
  | .inbound, (s, .call (.lzReceive _ params) (.received _)) =>
    if params.srcEid = eid then
      match MsgCodec.amountSd params.message with
      | some amountSd => amountSd * s.store.ld2sdRate
      | none => 0
    else 0
  | _, _ => 0

def timeCredit (eid : U32) (d : Direction) : StoreState × Event → Nat
  | (s, .clock c) => (limiterOf eid d s).elim 0 fun r => elapsed s.clock c * r.refillPerSecond
  | _ => 0

def reconfigures (eid : U32) (d : Direction) : Event → Bool
  | .call (.setPeerConfig _ params) _ =>
    params.remoteEid = eid ∧ (d.rateLimit params.config).isSome
  | _ => false

def restarts (eid : U32) (d : Direction) : Event → Bool
  | .call (.setPeerConfig _ params) _ =>
    params.remoteEid = eid ∧ (d.rateLimit params.config).any fun p => p.all (·.capacity.isSome)
  | _ => false

variable {space : AddressSpace} {oapp : Oapp} {s s' : StoreState} {eid : U32} {d : Direction}
variable {l : Event} {r : RateLimiter} {c : Clock} {n : Nat}

/-- What one event can do to a limiter of a peer. The flows are those of the
event, so a limiter whose own traffic did not move has flow zero. -/
inductive LimiterMove (eid : U32) (d : Direction) (s : StoreState) (l : Event) (s' : StoreState) :
    Option RateLimiter → Option RateLimiter → Prop
  | idle (o : Option RateLimiter) (hc : s'.clock = s.clock)
      (hf : o.isSome → flow eid d (s, l) = 0) : LimiterMove eid d s l s' o o
  | consume {r r' : RateLimiter} (hc : s'.clock = s.clock)
      (h : r.tryConsume s.clock (flow eid d (s, l)) = .ok r') :
      LimiterMove eid d s l s' (some r) (some r')
  | refill {r r' : RateLimiter} (hc : s'.clock = s.clock) (hf : flow eid d (s, l) = 0)
      (h : r.refill s.clock (flow eid d.other (s, l)) = .ok r') :
      LimiterMove eid d s l s' (some r) (some r')
  | setRate {r r' : RateLimiter} {rate : Nat} (hc : s'.clock = s.clock)
      (hl : reconfigures eid d l = true) (hf : flow eid d (s, l) = 0) (h : r.setRate s.clock rate = .ok r') :
      LimiterMove eid d s l s' (some r) (some r')
  | clock (o : Option RateLimiter) (c : Clock) (hl : l = .clock c) (hc : s'.clock = c) :
      LimiterMove eid d s l s' o o
  | create {r' : RateLimiter} (hv : Valid r') : LimiterMove eid d s l s' none (some r')
  | restart (o o' : Option RateLimiter) (hl : restarts eid d l = true)
      (hv : ∀ r' ∈ o', Valid r') : LimiterMove eid d s l s' o o'

section Configuration

variable {o o' : Option RateLimiter} {rate : Option U64} {peer peer' : PeerConfig}
variable {config : PeerConfigParam}

/-- Setting the capacity fills the limiter, whatever it held and whatever else is set. -/
theorem updateRateLimiter_capacity {capacity : U64}
    (h : updateRateLimiter c o (some ⟨rate, some capacity⟩) = .ok o') :
    ∃ r', o' = some r' ∧ Valid r' ∧ r'.capacity = capacity ∧ r'.tokens = capacity ∧
      settled r' c = capacity := by
  obtain ⟨r₁, h₁, h⟩ := bind_eq_ok.mp h
  obtain ⟨now, hn, h₁⟩ := bind_eq_ok.mp h₁
  obtain ⟨_, hnow⟩ := Clock.currentTime_eq_ok.mp hn
  have hcap : r₁.capacity = capacity ∧ r₁.tokens = capacity ∧
      r₁.lastRefillTime = c.unixTimestamp.toNat := by
    rw [← Except.ok.inj h₁]
    exact ⟨rfl, rfl, hnow⟩
  obtain ⟨hc, ht, hl⟩ := hcap
  have hb := capacity.isLt
  have hv : Valid r₁ := ⟨by omega, by unfold u64Max; omega⟩
  have hs : settled r₁ c = capacity := by
    simp only [settled_eq hv, accrued, hc, ht, hl, Nat.sub_self, Nat.zero_mul]
    omega
  cases rate with
  | none => exact ⟨r₁, (Except.ok.inj h).symm, hv, hc, ht, hs⟩
  | some rate =>
    obtain ⟨r₂, h₂, h⟩ := bind_eq_ok.mp h
    obtain ⟨hv', hs'⟩ := settled_setRate hv h₂
    refine ⟨r₂, (Except.ok.inj h).symm, hv', ?_⟩
    obtain ⟨_, rfl⟩ := (setRate_eq_ok hv).mp h₂
    exact ⟨hc, hs, hs'.trans hs⟩

theorem updateRateLimiter_rate (h : updateRateLimiter c o (some ⟨rate, none⟩) = .ok o') :
    ∃ r', o' = some r' ∧ (r' = o.getD .default ∨
      ∃ rate : Nat, (o.getD .default).setRate c rate = .ok r') := by
  cases rate with
  | none => exact ⟨_, (Except.ok.inj h).symm, Or.inl rfl⟩
  | some rate =>
    rw [updateRateLimiter, ok_bind] at h
    obtain ⟨r', hr, h⟩ := bind_eq_ok.mp h
    exact ⟨r', (Except.ok.inj h).symm, Or.inr ⟨rate, hr⟩⟩

theorem applyPeerConfig_limiter (d : Direction)
    (h : applyPeerConfig oapp c peer config = .ok peer') :
    match d.rateLimit config with
    | none => d.limiter peer' = d.limiter peer
    | some params => updateRateLimiter c (d.limiter peer) params = .ok (d.limiter peer') := by
  cases config with
  | peerAddress address =>
    cases h
    cases d <;> rfl
  | feeBps feeBps =>
    obtain ⟨_, _, h⟩ := bind_eq_ok.mp h
    cases h
    cases d <;> rfl
  | enforcedOptions send sendAndCall =>
    obtain ⟨_, _, h⟩ := bind_eq_ok.mp h
    obtain ⟨_, _, h⟩ := bind_eq_ok.mp h
    cases h
    cases d <;> rfl
  | outboundRateLimit params =>
    obtain ⟨limiter, hl, h⟩ := bind_eq_ok.mp h
    cases h
    cases d with
    | outbound => exact hl
    | inbound => rfl
  | inboundRateLimit params =>
    obtain ⟨limiter, hl, h⟩ := bind_eq_ok.mp h
    cases h
    cases d with
    | outbound => rfl
    | inbound => exact hl

end Configuration

/-- A configuration of the peer itself: nothing, a new rate, or a restart. -/
theorem move_applyPeerConfig {admin : Pubkey} {params : SetPeerConfigParams} {out : Outcome}
    {peer peer' : PeerConfig} (hl : l = .call (.setPeerConfig admin params) out)
    (heid : params.remoteEid = eid) (hc : s'.clock = s.clock)
    (hv : ∀ r ∈ d.limiter peer, Valid r)
    (h : applyPeerConfig oapp s.clock peer params.config = .ok peer') :
    LimiterMove eid d s l s' (d.limiter peer) (d.limiter peer') := by
  have hf : flow eid d (s, l) = 0 := by
    subst hl
    cases d <;> rfl
  have ha := applyPeerConfig_limiter d h
  cases hp : d.rateLimit params.config with
  | none =>
    rw [hp] at ha
    rw [ha]
    exact .idle _ hc fun _ => hf
  | some limit =>
    rw [hp] at ha
    have hl' : reconfigures eid d l = true := by
      subst hl
      simp [reconfigures, heid, hp]
    have hrestart : (limit.all (·.capacity.isSome)) = true → restarts eid d l = true := by
      intro hr
      subst hl
      simp [restarts, heid, hp, hr]
    cases limit with
    | none =>
      have hn : d.limiter peer' = none := (Except.ok.inj ha).symm
      refine .restart _ _ (hrestart rfl) fun r hr => ?_
      rw [hn] at hr
      cases hr
    | some limit =>
      obtain ⟨rate, capacity⟩ := limit
      cases capacity with
      | some capacity =>
        obtain ⟨r', ho, hv', _⟩ := updateRateLimiter_capacity ha
        refine .restart _ _ (hrestart rfl) fun r hr => ?_
        rw [ho] at hr
        cases hr
        exact hv'
      | none =>
        obtain ⟨r', ho, hr⟩ := updateRateLimiter_rate ha
        rw [ho]
        cases hpeer : d.limiter peer with
        | none =>
          rw [hpeer] at hr
          rcases hr with rfl | ⟨rate, hr⟩
          · exact .create valid_default
          · exact .create (settled_setRate valid_default hr).1
        | some r =>
          rw [hpeer] at hr
          rcases hr with rfl | ⟨rate, hr⟩
          · exact .idle _ hc fun _ => hf
          · exact .setRate hc hl' hf hr

theorem limiterOf_of_peer {peer : PeerConfig} (h : s.peers eid = some peer) :
    limiterOf eid d s = d.limiter peer := by
  simp [limiterOf, h]

theorem limiterOf_update {key : U32} {peer : PeerConfig} (hk : key ≠ eid)
    (h : s'.peers = Function.update s.peers key (some peer)) :
    limiterOf eid d s' = limiterOf eid d s := by
  simp [limiterOf, h, Function.update_of_ne hk.symm]

theorem limiterOf_update_self {peer : PeerConfig}
    (h : s'.peers = Function.update s.peers eid (some peer)) :
    limiterOf eid d s' = d.limiter peer := by
  simp [limiterOf, h]

theorem move_consumed {o o' : Option RateLimiter} (hc : s'.clock = s.clock)
    (hf : flow eid d (s, l) = n) (h : onSome (·.tryConsume s.clock n) o = .ok o') :
    LimiterMove eid d s l s' o o' := by
  subst hf
  cases o with
  | none =>
    rw [onSome_none.mp h]
    exact .idle none hc (by simp)
  | some r =>
    obtain ⟨r', hr, rfl⟩ := onSome_some.mp h
    exact .consume hc hr

theorem move_refilled {o o' : Option RateLimiter} (hc : s'.clock = s.clock)
    (hf : flow eid d (s, l) = 0) (hn : flow eid d.other (s, l) = n)
    (h : onSome (·.refill s.clock n) o = .ok o') : LimiterMove eid d s l s' o o' := by
  subst hn
  cases o with
  | none =>
    rw [onSome_none.mp h]
    exact .idle none hc (by simp)
  | some r =>
    obtain ⟨r', hr, rfl⟩ := onSome_some.mp h
    exact .refill hc hf hr

theorem move_send {accounts : SendAccounts} {params : SendParams} {r : SendResult}
    (e : SendEffect oapp accounts params s s' r) :
    LimiterMove eid d s (.call (.send accounts params) (.sent r)) s' (limiterOf eid d s)
      (limiterOf eid d s') := by
  by_cases heid : params.dstEid = eid
  · subst heid
    have hf : flow params.dstEid .outbound (s, .call (.send accounts params) (.sent r)) =
        e.received := by
      simp [flow, e.oftReceipt_eq]
    rw [limiterOf_of_peer e.peer_eq, limiterOf_update_self e.peers_eq]
    cases d with
    | outbound => exact move_consumed e.clock_eq hf e.consumed
    | inbound => exact move_refilled e.clock_eq rfl hf e.refilled
  · rw [limiterOf_update heid e.peers_eq]
    refine .idle _ e.clock_eq fun _ => ?_
    cases d with
    | outbound => simp [flow, heid]
    | inbound => rfl

theorem move_receive {accounts : LzReceiveAccounts} {params : LzReceiveParams} {r : OFTReceived}
    (e : ReceiveEffect space oapp accounts params s s' r) :
    LimiterMove eid d s (.call (.lzReceive accounts params) (.received r)) s' (limiterOf eid d s)
      (limiterOf eid d s') := by
  by_cases heid : params.srcEid = eid
  · subst heid
    have hf : flow params.srcEid .inbound (s, .call (.lzReceive accounts params) (.received r)) =
        e.amountLd := by
      obtain ⟨_, ha⟩ := mul_eq_ok.mp e.amountLd_eq
      simp [flow, e.amountSd_eq, ha]
    rw [limiterOf_of_peer e.peer_eq, limiterOf_update_self e.peers_eq]
    cases d with
    | inbound => exact move_consumed e.clock_eq hf e.consumed
    | outbound => exact move_refilled e.clock_eq rfl hf e.refilled
  · rw [limiterOf_update heid e.peers_eq]
    refine .idle _ e.clock_eq fun _ => ?_
    cases d with
    | outbound => rfl
    | inbound => simp [flow, heid]

theorem limiter_call {call : Call} {out : Outcome}
    (hv : ∀ r ∈ limiterOf eid d s, Valid r) (h : exec space oapp s call = .ok (s', out)) :
    LimiterMove eid d s (.call call out) s' (limiterOf eid d s) (limiterOf eid d s') := by
  have hidle (hp : s'.peers eid = s.peers eid) (hc : s'.clock = s.clock)
      (hf : flow eid d (s, .call call out) = 0) :
      LimiterMove eid d s (.call call out) s' (limiterOf eid d s) (limiterOf eid d s') := by
    rw [show limiterOf eid d s' = limiterOf eid d s by simp [limiterOf, hp]]
    exact .idle _ hc fun _ => hf
  cases exec_effect h with
  | send accounts params s' r e => exact move_send e
  | lzReceive accounts params s' r e => exact move_receive e
  | setPeerConfig admin params peer bump _ applied =>
    by_cases heid : params.remoteEid = eid
    · have hold : limiterOf eid d s = d.limiter ((s.peers params.remoteEid).getD .zeroed) := by
        rw [heid]
        cases hp : s.peers eid with
        | none => cases d <;> simp [limiterOf, hp, PeerConfig.zeroed, Direction.limiter]
        | some peer => simp [limiterOf, hp]
      have hnew : d.limiter { peer with bump := bump } = d.limiter peer := by
        cases d <;> rfl
      rw [hold] at hv ⊢
      rw [limiterOf_update_self (by rw [heid]), hnew]
      exact move_applyPeerConfig rfl heid rfl hv applied
    · have hsame := Function.update_of_ne (Ne.symm heid) (some { peer with bump := bump }) s.peers
      exact hidle hsame rfl (by cases d <;> rfl)
  | _ => exact hidle rfl rfl (by cases d <;> rfl)

theorem limiter_step (hv : ∀ r ∈ limiterOf eid d s, Valid r) (h : Step space s l s') :
    LimiterMove eid d s l s' (limiterOf eid d s) (limiterOf eid d s') := by
  cases h with
  | call oapp h => exact limiter_call hv h
  | aborted oapp h => exact .idle _ rfl fun _ => by cases d <;> rfl
  | tokens t ha ho => exact .idle _ rfl fun _ => by cases d <;> rfl
  | mint m hm => exact .idle _ rfl fun _ => by cases d <;> rfl
  | clock c => exact .clock _ c rfl rfl

theorem LimiterMove.valid {o o' : Option RateLimiter} (h : LimiterMove eid d s l s' o o')
    (hv : ∀ r ∈ o, Valid r) : ∀ r ∈ o', Valid r := by
  cases h with
  | idle _ _ _ => exact hv
  | consume _ h => simpa using (settled_tryConsume (hv _ rfl) h).1
  | refill _ _ h => simpa using valid_refill (hv _ rfl) h
  | setRate _ _ _ h => simpa using (settled_setRate (hv _ rfl) h).1
  | clock _ _ _ _ => exact hv
  | create hr => simpa using hr
  | restart _ _ _ hr => exact hr

theorem LimiterMove.persists {o' : Option RateLimiter} (h : LimiterMove eid d s l s' (some r) o')
    (hv : Valid r) (hn : restarts eid d l = false) : ∃ r', o' = some r' ∧ r'.capacity = r.capacity := by
  cases h with
  | idle _ _ _ => exact ⟨r, rfl, rfl⟩
  | consume _ h =>
    obtain ⟨_, _, rfl⟩ := (tryConsume_eq_ok hv).mp h
    exact ⟨_, rfl, rfl⟩
  | refill _ _ h =>
    obtain ⟨_, rfl⟩ := (refill_eq_ok hv).mp h
    exact ⟨_, rfl, rfl⟩
  | setRate _ _ _ h =>
    obtain ⟨_, rfl⟩ := (setRate_eq_ok hv).mp h
    exact ⟨_, rfl, rfl⟩
  | clock _ _ _ _ => exact ⟨r, rfl, rfl⟩
  | restart _ _ hl _ =>
    rw [hl] at hn
    cases hn

theorem reconfigures_of_restarts (h : restarts eid d l = true) : reconfigures eid d l = true := by
  unfold restarts at h
  split at h
  · rename_i admin params out
    obtain ⟨heid, hr⟩ := of_decide_eq_true h
    cases hp : d.rateLimit params.config with
    | none => simp [hp] at hr
    | some p => simp [reconfigures, heid, hp]
  · cases h

theorem LimiterMove.unchanged {o' : Option RateLimiter} (h : LimiterMove eid d s l s' (some r) o')
    (hv : Valid r) (hn : reconfigures eid d l = false) :
    ∃ r', o' = some r' ∧ r'.capacity = r.capacity ∧ r'.refillPerSecond = r.refillPerSecond := by
  cases h with
  | idle _ _ _ => exact ⟨r, rfl, rfl, rfl⟩
  | consume _ h =>
    obtain ⟨_, _, rfl⟩ := (tryConsume_eq_ok hv).mp h
    exact ⟨_, rfl, rfl, rfl⟩
  | refill _ _ h =>
    obtain ⟨_, rfl⟩ := (refill_eq_ok hv).mp h
    exact ⟨_, rfl, rfl, rfl⟩
  | clock _ _ _ _ => exact ⟨r, rfl, rfl, rfl⟩
  | setRate _ hl _ _ =>
    rw [hl] at hn
    cases hn
  | restart _ _ hl _ =>
    rw [reconfigures_of_restarts hl] at hn
    cases hn

theorem valid_reachable (h : Reachable space s) : ∀ r ∈ limiterOf eid d s, Valid r := by
  obtain ⟨s₀, hi, hr⟩ := h
  refine hr.invariant (I := fun s => ∀ r ∈ limiterOf eid d s, Valid r)
    (fun s l t hv hs => (limiter_step hv hs).valid hv) ?_
  simp [limiterOf, (initial_effect hi).no_peers]

def level (eid : U32) (d : Direction) (s : StoreState) : Nat :=
  (limiterOf eid d s).elim 0 fun r => settled r s.clock

theorem LimiterMove.budget (h : LimiterMove eid d s l s' (limiterOf eid d s) (limiterOf eid d s'))
    (hv : ∀ r ∈ limiterOf eid d s, Valid r) (hp : (limiterOf eid d s).isSome)
    (hn : restarts eid d l = false) :
    flow eid d (s, l) + level eid d s' ≤
      level eid d s + (flow eid d.other (s, l) + timeCredit eid d (s, l)) := by
  obtain ⟨r, hr⟩ := Option.isSome_iff_exists.mp hp
  have hvr := hv r hr
  simp only [level]
  rw [hr] at h ⊢
  generalize limiterOf eid d s' = o' at h ⊢
  cases h with
  | idle _ hc hf =>
    have hz := hf rfl
    simp only [Option.elim_some, hc, hz]
    omega
  | consume hc h =>
    have hs := (settled_tryConsume hvr h).2
    simp only [Option.elim_some, hc]
    omega
  | refill hc hf h =>
    have hb := (bucket r s.clock).level_fill_le (flow eid d.other (s, l))
    rw [← bucket_refill hvr h] at hb
    simp only [Option.elim_some, hc, hf, settled]
    omega
  | setRate hc _ hf h =>
    have hs := (settled_setRate hvr h).2
    simp only [Option.elim_some, hc, hf, hs]
    omega
  | clock _ c hl hc =>
    subst hl
    have hf : flow eid d (s, .clock c) = 0 := by cases d <;> rfl
    have hs : settled r c ≤ settled r s.clock + elapsed s.clock c * r.refillPerSecond :=
      settled_clock_le hvr
    simp only [Option.elim_some, hc, hf, timeCredit, hr]
    omega
  | restart _ _ hl _ =>
    rw [hl] at hn
    cases hn

theorem flow_le (hv : ∀ r ∈ limiterOf eid d s, Valid r) (hp : (limiterOf eid d s).isSome)
    {tr : List (StoreState × Event)} (h : Run (Step space) s tr s')
    (hn : ∀ p ∈ tr, restarts eid d p.2 = false) :
    total (flow eid d) tr + level eid d s' ≤
      level eid d s + (total (flow eid d.other) tr + total (timeCredit eid d) tr) := by
  have hg := h.restrict (G := fun p => restarts eid d p.2 = false) hn
  have hb := hg.budget (I := fun s => (∀ r ∈ limiterOf eid d s, Valid r) ∧ (limiterOf eid d s).isSome)
    (level eid d) (flow eid d) (fun p => flow eid d.other p + timeCredit eid d p) ?_ ?_ ⟨hv, hp⟩
  · have hsum : total (fun p => flow eid d.other p + timeCredit eid d p) tr =
        total (flow eid d.other) tr + total (timeCredit eid d) tr := by
      simp [total, List.sum_map_add]
    rw [← hsum]
    exact hb
  · rintro s l t ⟨hv, hp⟩ ⟨hl, hs⟩
    have hm : LimiterMove eid d s l t (limiterOf eid d s) (limiterOf eid d t) := limiter_step hv hs
    refine ⟨hm.valid hv, ?_⟩
    obtain ⟨r, hr⟩ := Option.isSome_iff_exists.mp hp
    rw [hr] at hm
    obtain ⟨r', hr', _⟩ := hm.persists (hv r hr) hl
    rw [hr']
    rfl
  · rintro s l t ⟨hv, hp⟩ ⟨hl, hs⟩
    exact (limiter_step hv hs).budget hv hp hl

/-- The net flow through a peer in either direction is bounded by what its
limiter holds and gains, a new capacity restarts the bound at that capacity, and
no limiter ever holds more than its capacity. The clock may even be set back. -/
theorem net_flow_bounded (h : Reachable space s) (eid : U32) (d : Direction) :
    (∀ r, limiterOf eid d s = some r →
      r.tokens ≤ r.capacity ∧ settled r s.clock ≤ r.tokens + accrued r s.clock) ∧
    (∀ r tr t, limiterOf eid d s = some r → Run (Step space) s tr t →
      (∀ p ∈ tr, restarts eid d p.2 = false) →
      ((total (flow eid d) tr : Nat) : Int) - (total (flow eid d.other) tr : Nat) ≤
        (settled r s.clock : Nat) + (total (timeCredit eid d) tr : Nat)) ∧
    (∀ oapp admin rate capacity s',
      setPeerConfig space oapp admin ⟨eid, d.config (some ⟨rate, some capacity⟩)⟩ s = .ok s' →
      ∃ r, limiterOf eid d s' = some r ∧ r.capacity = capacity ∧ r.tokens = capacity ∧
        settled r s'.clock = (capacity : Nat)) := by
  have hv : ∀ r ∈ limiterOf eid d s, Valid r := valid_reachable h
  refine ⟨fun r hr => ⟨(hv r hr).tokens_le, ?_⟩, fun r tr t hr ht hn => ?_, ?_⟩
  · rw [settled_eq (hv r hr)]
    exact min_le_right _ _
  · have hf := flow_le hv (by rw [hr]; rfl) ht hn
    have hl : level eid d s = settled r s.clock := by simp [level, hr]
    rw [hl] at hf
    omega
  · intro oapp admin rate capacity s' hs
    obtain ⟨_, peer, bump, ha, rfl⟩ := setPeerConfig_effect hs
    have hu := applyPeerConfig_limiter d ha
    have hd : d.rateLimit (d.config (some ⟨rate, some capacity⟩)) = some (some ⟨rate, some capacity⟩) := by
      cases d <;> rfl
    simp only [hd] at hu
    obtain ⟨r, hr, _, hcap, htok, hset⟩ := updateRateLimiter_capacity hu
    refine ⟨r, ?_, hcap, htok, hset⟩
    rw [limiterOf_update_self rfl, ← hr]
    cases d <;> rfl

/-- A send of 99 and three seconds, within the 100 of a full limiter and the 30 that time adds. -/
theorem net_flow_bounded_traded :
    let tr := [(limitedStore, Event.call (.send tradeAccounts tradeParams) (.sent tradeResult)),
      (tradedStore, .clock ⟨3, 0⟩)]
    total (flow 1 .outbound) tr = 99 ∧ total (timeCredit 1 .outbound) tr = 30 ∧
      ((total (flow 1 .outbound) tr : Nat) : Int) - (total (flow 1 .inbound) tr : Nat) ≤
        (settled ⟨100, 100, 10, 0⟩ limitedStore.clock : Nat) + (total (timeCredit 1 .outbound) tr : Nat) :=
  ⟨rfl, rfl, (net_flow_bounded reachable_limited 1 .outbound).2.1 _ _ _ rfl
    (Run.cons step_traded (Run.single (.clock _))) (by decide)⟩

end SanBridge.Solana.Limits
