import SanBridge.System.Conservation

namespace SanBridge.System.Delivery

open Library.CeilFee Library.Checked Library.Runs
open Solana.Runtime Solana.State Solana.Instructions System.Bridge System.Routing System.Conservation

/-- The profile the production plan asks for: the limiters of the two chains in
both directions have one capacity, and those of Solana refill. -/
structure Matched (w : Wiring) (capacity : Nat) (s : State) : Prop where
  solana : ∀ d, ∃ r, Solana.Limits.limiterOf w.robinhoodEid d s.solana = some r ∧
    r.capacity = capacity ∧ 0 < r.refillPerSecond
  evm : ∀ inbound, (Evm.Limits.bucketOf inbound s.evm).capacity = capacity

def reconfigures (w : Wiring) : Label → Bool
  | .solana e => Solana.Limits.reconfigures w.robinhoodEid .outbound e ||
    Solana.Limits.reconfigures w.robinhoodEid .inbound e
  | .evm e => Evm.Limits.reconfigures false e || Evm.Limits.reconfigures true e
  | _ => false

variable {w : Wiring} {s t : State} {l : Label} {capacity : Nat}

theorem solana_not_reconfigured {e : Solana.Program.Event} (d : Solana.Limits.Direction)
    (hn : reconfigures w l = false)
    (h : (localSolana w e ∧ l = .solana e) ∨ ∀ eid d, Solana.Limits.reconfigures eid d e = false) :
    Solana.Limits.reconfigures w.robinhoodEid d e = false := by
  rcases h with ⟨_, rfl⟩ | h
  · simp only [reconfigures, Bool.or_eq_false_iff] at hn
    cases d with
    | outbound => exact hn.1
    | inbound => exact hn.2
  · exact h _ _

theorem evm_not_reconfigured {e : Evm.Program.Event} (inbound : Bool) (hn : reconfigures w l = false)
    (h : (localEvm w e ∧ l = .evm e) ∨ ∀ inbound, Evm.Limits.reconfigures inbound e = false) :
    Evm.Limits.reconfigures inbound e = false := by
  rcases h with ⟨_, rfl⟩ | h
  · simp only [reconfigures, Bool.or_eq_false_iff] at hn
    cases inbound with
    | false => exact hn.1
    | true => exact hn.2
  · exact h _

theorem matched_step (hi : Invariant w s) (hm : Matched w capacity s) (h : Step w s l t)
    (hn : reconfigures w l = false) : Matched w capacity t where
  solana d := by
    rcases solana_step h with he | ⟨e, hs, hl⟩
    · rw [he]
      exact hm.solana d
    · have hv : ∀ r ∈ Solana.Limits.limiterOf w.robinhoodEid d s.solana, Solana.Buckets.Valid r :=
        Solana.Limits.valid_reachable hi.solana
      have hmove := Solana.Limits.limiter_step hv hs
      obtain ⟨r, hr, hc, hp⟩ := hm.solana d
      rw [hr] at hmove
      obtain ⟨r', hr', hc', hp'⟩ := hmove.unchanged (hv r hr) (solana_not_reconfigured d hn hl)
      exact ⟨r', hr', hc'.trans hc, hp'.symm ▸ hp⟩
  evm inbound := by
    rcases evm_step h with he | ⟨e, hs, hl⟩
    · rw [he]
      exact hm.evm inbound
    · have hok : Evm.Limits.BucketOk inbound s.evm := Evm.Limits.bucketOk_reachable hi.evm
      have hmove : Evm.Limits.BucketMove inbound s.evm e t.evm := Evm.Limits.bucket_step hs
      exact (hmove.unchanged hok (evm_not_reconfigured inbound hn hl)).trans (hm.evm inbound)

theorem matched_run (hi : Invariant w s) (hm : Matched w capacity s) {tr : List (State × Label)}
    (h : Run (Step w) s tr t) (hn : ∀ p ∈ tr, reconfigures w p.2 = false) :
    Invariant w t ∧ Matched w capacity t := by
  have hg := h.restrict (G := fun p => reconfigures w p.2 = false) hn
  refine hg.invariant (I := fun s => Invariant w s ∧ Matched w capacity s) ?_ ⟨hi, hm⟩
  rintro s l t ⟨hi, hm⟩ ⟨hl, hs⟩
  exact ⟨invariant_step hi hs, matched_step hi hm hs hl⟩

theorem rate_run {tr : List (State × Label)} (h : Run (Step w) s tr t) :
    t.solana.store.ld2sdRate = s.solana.store.ld2sdRate := by
  refine h.invariant (I := fun t => t.solana.store.ld2sdRate = s.solana.store.ld2sdRate) ?_ rfl
  intro x l y hx hs
  exact (same_identity hs).rate.trans hx

/-- The inbound bucket of SanOFT releases any amount up to its capacity once the
time to refill the capacity has passed. -/
theorem evm_releases (hi : Invariant w s) (hm : Matched w capacity s) {amount now : Nat}
    (ha : amount ≤ capacity)
    (hw : s.evm.token.inboundBucket.lastUpdated + ceilDiv
      (capacity * s.evm.token.inboundBucket.refillDuration) s.evm.token.inboundBucket.refillAmount ≤ now)
    (hn : now < 2 ^ 192) : ∃ b, Evm.Contract.consume now true amount s.evm.token.inboundBucket = .ok b := by
  have hok : Evm.Limits.BucketOk true s.evm := Evm.Limits.bucketOk_reachable hi.evm
  have hv : Evm.Buckets.Valid s.evm.token.inboundBucket := hok.valid
  have hc : s.evm.token.inboundBucket.capacity = capacity := hm.evm true
  have hwait : ceilDiv (capacity * s.evm.token.inboundBucket.refillDuration)
      s.evm.token.inboundBucket.refillAmount ≤ now - s.evm.token.inboundBucket.lastUpdated := by
    omega
  have hfull := (ceilDiv_le_iff hv.refill_pos).mp hwait
  rw [← hc] at hfull
  refine Evm.Buckets.consume_ok hv hn ?_
  rw [Evm.Buckets.volumeAt_full hfull, hc]
  exact Nat.mul_le_mul_right _ ha

/-- The same for the inbound limiter of the store. -/
theorem solana_releases (hi : Invariant w s) {r : RateLimiter}
    (hr : Solana.Limits.limiterOf w.robinhoodEid .inbound s.solana = some r)
    (hp : 0 < r.refillPerSecond) {amount : Nat} (ha : amount ≤ r.capacity) {clock : Clock}
    (hw : (r.lastRefillTime + ceilDiv r.capacity r.refillPerSecond : Nat) ≤ clock.unixTimestamp) :
    ∃ r', r.tryConsume clock amount = .ok r' := by
  have hv := Solana.Limits.valid_reachable hi.solana r hr
  have hfull : Solana.Buckets.settled r clock = r.capacity :=
    Solana.Buckets.settled_full hv (le_ceilDiv_mul hp) (by omega)
  exact ⟨_, (Solana.Buckets.tryConsume_eq_ok hv).mpr ⟨by omega, hfull ▸ ha, rfl⟩⟩

/-- What leaves Solana fits the capacity: the outbound limiter has let it through. -/
theorem Matched.solanaSend (hm : Matched w capacity s) (hi : Invariant w s) (hrouted : Routed w s)
    (hrate : s.solana.store.ld2sdRate = 1) {oapp : Oapp} {accounts : SendAccounts} {params : SendParams}
    {r : SendResult} {y : StoreState} (h : send oapp accounts params s.solana = .ok (y, r)) :
    ∃ amount, Solana.MsgCodec.amountSd r.packet.message = some amount ∧ amount ≤ capacity := by
  obtain ⟨e⟩ := Solana.Effects.send_effect h
  obtain ⟨hlt, _, _⟩ := e.debited.adapter hi.adapter
  obtain ⟨heid, _⟩ := hrouted.peer _ _ e.peer_eq
  obtain ⟨limiter, hlimiter, hc, _⟩ := hm.solana .outbound
  have hv := Solana.Limits.valid_reachable hi.solana limiter hlimiter
  rw [← heid, Solana.Limits.limiterOf_of_peer e.peer_eq] at hlimiter
  have hconsumed := e.consumed
  rw [show e.peer.outboundRateLimiter = some limiter from hlimiter] at hconsumed
  obtain ⟨_, hconsume, _⟩ := onSome_some.mp hconsumed
  obtain ⟨_, hle, _⟩ := (Solana.Buckets.tryConsume_eq_ok hv).mp hconsume
  have hsd : s.solana.store.ld2sd e.received = e.received := by
    rw [OFTStore.ld2sd, hrate, Nat.div_one]
  refine ⟨e.received, ?_, hc ▸ hle.trans Solana.Buckets.settled_le_capacity⟩
  rw [e.message_eq, hsd, Solana.MsgCodec.amountSd_encode (by omega)]

theorem Matched.evmSend (hm : Matched w capacity s) (hi : Invariant w s) {oft : Evm.Base.OFT} {now : Nat}
    {sender : Evm.Runtime.Address} {params : Evm.Base.SendParam} {r : Evm.Contract.SendResult} {y : Evm.Contract.SanOFT}
    (h : Evm.Contract.send oft now sender params s.evm.token = .ok (y, r)) :
    ∃ amount, Solana.MsgCodec.amountSd r.message = some amount ∧ amount ≤ capacity ∧ amount < 2 ^ 64 := by
  obtain ⟨e⟩ := Evm.Program.send_effect h
  have hok : Evm.Limits.BucketOk false s.evm := Evm.Limits.bucketOk_reachable hi.evm
  obtain ⟨hmessage, hle⟩ := evmPacket_amount hok.valid e
  have hcap := hok.valid.capacity_le
  have hle' : e.amount ≤ (Evm.Limits.bucketOf false s.evm).capacity := hle
  exact ⟨e.amount, hmessage, hle.trans_eq (hm.evm false), by omega⟩

/-- Under a matched profile every transfer one chain accepts fits the inbound
limiter of the other and passes it once that limiter has had the time to refill
its capacity. -/
theorem delivery_passes {capacity : Nat} {x : State} (h : Reachable w x)
    (hm : Matched w capacity x) (hrate : x.solana.store.ld2sdRate = 1) :
    (∀ accounts params r y tr z, Step w x (.solanaSend accounts params r) y → Run (Step w) y tr z →
      (∀ q ∈ tr, reconfigures w q.2 = false) →
      ∃ amount, Solana.MsgCodec.amountSd r.packet.message = some amount ∧ amount ≤ capacity ∧
        ∀ now, z.evm.token.inboundBucket.lastUpdated + ceilDiv
            (capacity * z.evm.token.inboundBucket.refillDuration)
            z.evm.token.inboundBucket.refillAmount ≤ now → now < 2 ^ 192 →
          ∃ b, Evm.Contract.consume now true amount z.evm.token.inboundBucket = .ok b) ∧
    (∀ sender params r y tr z, Step w x (.evmSend sender params r) y → Run (Step w) y tr z →
      (∀ q ∈ tr, reconfigures w q.2 = false) →
      ∃ amount limiter, Solana.MsgCodec.amountSd r.message = some amount ∧ amount ≤ capacity ∧
        z.solana.store.sd2ld amount = .ok amount ∧
        Solana.Limits.limiterOf w.robinhoodEid .inbound z.solana = some limiter ∧
        ∀ clock : Clock, (limiter.lastRefillTime + ceilDiv capacity limiter.refillPerSecond : Nat) ≤
            clock.unixTimestamp →
          ∃ limiter', limiter.tryConsume clock amount = .ok limiter') := by
  have hi := invariant_reachable h
  refine ⟨?_, ?_⟩
  · intro accounts params r y tr z hs ht hn
    obtain ⟨hz, hmz⟩ := matched_run (invariant_step hi hs) (matched_step hi hm hs rfl) ht hn
    cases hs with
    | solanaSend oapp hsend =>
      obtain ⟨amount, hmessage, hcap⟩ := hm.solanaSend hi (routed_reachable h) hrate hsend
      exact ⟨amount, hmessage, hcap, fun now hw hnow => evm_releases hz hmz hcap hw hnow⟩
  · intro sender params r y tr z hs ht hn
    obtain ⟨hz, hmz⟩ := matched_run (invariant_step hi hs) (matched_step hi hm hs rfl) ht hn
    have hrz : z.solana.store.ld2sdRate = 1 := (rate_run (Run.cons hs ht)).trans hrate
    obtain ⟨limiter, hlimiter, hc, hp⟩ := hmz.solana .inbound
    cases hs with
    | evmSend oft hsend =>
      obtain ⟨amount, hmessage, hcap, hlt⟩ := hm.evmSend hi hsend
      refine ⟨amount, limiter, hmessage, hcap, ?_, hlimiter, fun clock hw => ?_⟩
      · rw [OFTStore.sd2ld, hrz]
        exact mul_eq_ok.mpr ⟨by omega, (Nat.mul_one _).symm⟩
      · exact solana_releases hz hlimiter hp (hc ▸ hcap) (hc ▸ hw)

theorem matched_sample : Matched sampleWiring 500000000000 (sampleState matchedStore) where
  solana d := by
    cases d with
    | outbound => exact ⟨sampleLimiter, rfl, rfl, by decide⟩
    | inbound => exact ⟨sampleLimiter, rfl, rfl, by decide⟩
  evm inbound := by cases inbound <;> rfl

/-- A day after its deployment SanOFT releases the 100 tokens just sent to it. -/
theorem delivery_passes_sent : ∃ amount,
    Solana.MsgCodec.amountSd sampleResult.packet.message = some amount ∧
      ∃ b, Evm.Contract.consume 86400 true amount sentState.evm.token.inboundBucket = .ok b := by
  obtain ⟨amount, ha, _, hb⟩ := (delivery_passes reachable_matched matched_sample rfl).1 _ _ _ _ _ _
    step_sent (Run.nil sentState) (by simp)
  exact ⟨amount, ha, hb 86400 (by decide) (by decide)⟩

end SanBridge.System.Delivery
