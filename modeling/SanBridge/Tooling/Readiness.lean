import SanBridge.Library.Matching
import SanBridge.System.Delivery
import SanBridge.Tooling.Policy

namespace SanBridge.Tooling.Readiness

open Library.CeilFee Library.Checked Library.Runs Solana.State Solana.Instructions System.Bridge System.Routing
open System.Conservation System.Delivery Tooling.Runtime Tooling.Policy

section Profiles

def productionRateLimitProfiles : List (String × ProductionRateLimitProfile) :=
  [("canary", ⟨500000000000, 5787037⟩), ("publicLaunch", ⟨30000000000000, 347222222⟩),
    ("normal", ⟨50000000000000, 578703703⟩), ("mature", ⟨100000000000000, 1157407407⟩)]

def productionRateLimitProfile (name : String) : Result ProductionRateLimitProfile :=
  ofOption "Production rate-limit profile must be one of: canary, publicLaunch, normal, mature"
    (productionRateLimitProfiles.lookup name)

def solanaLimit (r : RateLimiter) : DirectionalRateLimit := ⟨r.capacity, some r.tokens, r.refillPerSecond, none⟩

def robinhoodLimit (v : Evm.Contract.BucketView) : DirectionalRateLimit :=
  ⟨v.capacity, some v.available, v.refillAmount, some v.refillDuration⟩

/-- The limits of `collectProductionMainnetObservation`, from the peer and the two views. -/
def observedRateLimits (peer : PeerConfig) (outbound inbound : Evm.Contract.BucketView) :
    Result ProductionRateLimitPlan := do
  let solanaOutbound ← ofOption "Solana peer is missing a required directional limiter" peer.outboundRateLimiter
  let solanaInbound ← ofOption "Solana peer is missing a required directional limiter" peer.inboundRateLimiter
  .ok ⟨some ⟨solanaLimit solanaOutbound, solanaLimit solanaInbound⟩,
    some ⟨robinhoodLimit outbound, robinhoodLimit inbound⟩⟩

/-- A capacity and a rate that refills it in a day and a second. -/
structure Daily (profile : ProductionRateLimitProfile) (capacity rate : Nat) : Prop where
  capacity_eq : profile.capacity = capacity
  rate_eq : profile.refillPerSecond = rate
  capacity_pos : 0 < capacity
  rate_pos : 0 < rate
  wait_le : ceilDiv capacity rate ≤ 86401

theorem profile_daily {name : String} {profile : ProductionRateLimitProfile}
    (h : productionRateLimitProfile name = .ok profile) : ∃ capacity rate, Daily profile capacity rate := by
  have hmem := Library.Matching.mem_of_lookup (ofOption_eq_ok.mp h)
  simp only [productionRateLimitProfiles, List.mem_cons, Prod.mk.injEq, List.not_mem_nil, or_false] at hmem
  rcases hmem with ⟨_, rfl⟩ | ⟨_, rfl⟩ | ⟨_, rfl⟩ | ⟨_, rfl⟩ <;> exact ⟨_, _, rfl, rfl, by decide, by decide, by decide⟩

end Profiles

section Plan

variable {w : Wiring} {s t : State} {l : Label} {capacity rate : Nat}

structure Profiled (w : Wiring) (capacity rate : Nat) (s : State) : Prop where
  solana : ∀ d, ∃ r, Solana.Limits.limiterOf w.robinhoodEid d s.solana = some r ∧
    r.capacity = capacity ∧ r.refillPerSecond = rate
  evm : ∀ inbound, (Evm.Limits.bucketOf inbound s.evm).capacity = capacity ∧
    (Evm.Limits.bucketOf inbound s.evm).refillAmount = capacity ∧
    (Evm.Limits.bucketOf inbound s.evm).refillDuration = 86400

theorem requireDirection_eq_ok {name : String} {value : Option DirectionalRateLimit} {evm : Bool}
    {limit : DirectionalRateLimit} : requireDirection name value evm = .ok limit ↔
      value = some limit ∧ 0 < limit.capacity ∧ 0 < limit.refill ∧
        (evm = false ∨ limit.durationSeconds = some 86400) := by
  simp only [requireDirection, bind_eq_ok, ofOption_eq_ok, require_eq_ok, decide_eq_true_eq, exists_const,
    Except.ok.injEq]
  constructor
  · rintro ⟨_, hv, ⟨hc, hr⟩, hd, rfl⟩
    exact ⟨hv, hc, hr, hd⟩
  · rintro ⟨hv, hc, hr, hd⟩
    exact ⟨_, hv, ⟨hc, hr⟩, hd, rfl⟩

theorem validatePlan_eq_ok {solana robinhood : ChainRateLimits} {profile : ProductionRateLimitProfile} :
    validateProductionRateLimitPlan ⟨some solana, some robinhood⟩ profile = .ok () ↔
      (∀ limit ∈ [solana.outbound, solana.inbound, robinhood.outbound, robinhood.inbound],
        0 < limit.capacity ∧ 0 < limit.refill ∧ limit.capacity = profile.capacity) ∧
      (∀ limit ∈ [solana.outbound, solana.inbound], limit.refill = profile.refillPerSecond) ∧
      ∀ limit ∈ [robinhood.outbound, robinhood.inbound],
        limit.refill = profile.capacity ∧ limit.durationSeconds = some 86400 := by
  simp only [validateProductionRateLimitPlan, bind_eq_ok, requireDirection_eq_ok, require_eq_ok, decide_eq_true_eq,
    Option.map_some, Option.some.injEq, List.all_eq_true, List.forall_mem_cons, List.not_mem_nil, IsEmpty.forall_iff,
    implies_true, and_true, exists_and_left, true_or, Bool.true_eq_false, false_or, exists_const]
  constructor
  · rintro ⟨_, ⟨rfl, hc₁, hr₁⟩, _, ⟨rfl, hc₂, hr₂⟩, _, ⟨rfl, hc₃, hr₃, hd₃⟩, _, ⟨rfl, hc₄, hr₄, hd₄⟩,
      ⟨h₁, h₂, h₃, h₄⟩, hrates, hout, hin⟩
    exact ⟨⟨⟨hc₁, hr₁, h₁⟩, ⟨hc₂, hr₂, h₂⟩, ⟨hc₃, hr₃, h₃⟩, hc₄, hr₄, h₄⟩, hrates, ⟨hout, hd₃⟩, hin, hd₄⟩
  · rintro ⟨⟨⟨hc₁, hr₁, h₁⟩, ⟨hc₂, hr₂, h₂⟩, ⟨hc₃, hr₃, h₃⟩, hc₄, hr₄, h₄⟩, hrates, ⟨hout, hd₃⟩, hin, hd₄⟩
    exact ⟨_, ⟨rfl, hc₁, hr₁⟩, _, ⟨rfl, hc₂, hr₂⟩, _, ⟨rfl, hc₃, hr₃, hd₃⟩, _, ⟨rfl, hc₄, hr₄, hd₄⟩,
      ⟨h₁, h₂, h₃, h₄⟩, hrates, hout, hin⟩

/-- The audit accepts the limits it reads exactly when they are those of the profile. -/
theorem plan_accepted_iff {peer : PeerConfig} {now : Nat} {token : Evm.Contract.SanOFT}
    {outbound inbound : Evm.Contract.BucketView} {profile : ProductionRateLimitProfile}
    (hprofile : Daily profile capacity rate)
    (hout : Evm.Contract.bucketView now token.outboundBucket = .ok outbound)
    (hin : Evm.Contract.bucketView now token.inboundBucket = .ok inbound) :
    (∃ plan, observedRateLimits peer outbound inbound = .ok plan ∧
      validateProductionRateLimitPlan plan profile = .ok ()) ↔
    (∀ r ∈ [peer.outboundRateLimiter, peer.inboundRateLimiter], ∃ r', r = some r' ∧ r'.capacity = capacity ∧
      r'.refillPerSecond = rate) ∧
    ∀ b ∈ [token.outboundBucket, token.inboundBucket],
      b.capacity = capacity ∧ b.refillAmount = capacity ∧ b.refillDuration = 86400 := by
  obtain ⟨⟨available, remainder⟩, _, hout⟩ := bind_eq_ok.mp hout
  obtain ⟨⟨available', remainder'⟩, _, hin⟩ := bind_eq_ok.mp hin
  obtain rfl := Except.ok.inj hout
  obtain rfl := Except.ok.inj hin
  have hcapacity := hprofile.capacity_pos
  have hrate := hprofile.rate_pos
  constructor
  · rintro ⟨_, hobserved, hvalid⟩
    obtain ⟨r, hr, hobserved⟩ := bind_eq_ok.mp hobserved
    obtain ⟨r', hr', hobserved⟩ := bind_eq_ok.mp hobserved
    obtain rfl := Except.ok.inj hobserved
    obtain ⟨hcapacities, hrates, hrefills⟩ := validatePlan_eq_ok.mp hvalid
    simp [solanaLimit, robinhoodLimit, hprofile.capacity_eq, hprofile.rate_eq] at hcapacities hrates hrefills
    simp [ofOption_eq_ok.mp hr, ofOption_eq_ok.mp hr']
    omega
  · rintro ⟨hlimiters, hbuckets⟩
    simp only [List.forall_mem_cons, List.not_mem_nil, IsEmpty.forall_iff, implies_true, and_true] at hlimiters hbuckets
    obtain ⟨⟨r, hr, hc, hp⟩, r', hr', hc', hp'⟩ := hlimiters
    refine ⟨_, bind_eq_ok.mpr ⟨_, ofOption_eq_ok.mpr hr, bind_eq_ok.mpr ⟨_, ofOption_eq_ok.mpr hr', rfl⟩⟩,
      validatePlan_eq_ok.mpr ?_⟩
    simp [solanaLimit, robinhoodLimit, hprofile.capacity_eq, hprofile.rate_eq]
    omega

theorem profiled_step (hi : Invariant w s) (hp : Profiled w capacity rate s) (h : Step w s l t)
    (hn : reconfigures w l = false) : Profiled w capacity rate t where
  solana d := by
    rcases solana_step h with he | ⟨e, hs, hl⟩
    · rw [he]
      exact hp.solana d
    · have hv : ∀ r ∈ Solana.Limits.limiterOf w.robinhoodEid d s.solana, Solana.Buckets.Valid r :=
        Solana.Limits.valid_reachable hi.solana
      have hmove := Solana.Limits.limiter_step hv hs
      obtain ⟨r, hr, hc, hrate⟩ := hp.solana d
      rw [hr] at hmove
      obtain ⟨r', hr', hc', hrate'⟩ := hmove.unchanged (hv r hr) (solana_not_reconfigured d hn hl)
      exact ⟨r', hr', hc'.trans hc, hrate'.trans hrate⟩
  evm inbound := by
    rcases evm_step h with he | ⟨e, hs, hl⟩
    · rw [he]
      exact hp.evm inbound
    · have hok : Evm.Limits.BucketOk inbound s.evm := Evm.Limits.bucketOk_reachable hi.evm
      have hmove : Evm.Limits.BucketMove inbound s.evm e t.evm := Evm.Limits.bucket_step hs
      obtain ⟨hc, ha, hd⟩ := hmove.parameters hok (evm_not_reconfigured inbound hn hl)
      obtain ⟨hc', ha', hd'⟩ := hp.evm inbound
      exact ⟨hc.trans hc', ha.trans ha', hd.trans hd'⟩

def Undisturbed (w : Wiring) (s t : State) : Prop :=
  ∃ tr, Run (Step w) s tr t ∧ ∀ q ∈ tr, reconfigures w q.2 = false

/-- What the limits of a profile need to release a transfer. -/
structure Ready (w : Wiring) (capacity rate : Nat) (s : State) : Prop where
  invariant : Invariant w s
  routed : Routed w s
  profiled : Profiled w capacity rate s
  rate_one : s.solana.store.ld2sdRate = 1

theorem Ready.step (hs : Ready w capacity rate s) (h : Step w s l t) (hn : reconfigures w l = false) :
    Ready w capacity rate t :=
  ⟨invariant_step hs.invariant h, routed_step hs.routed h, profiled_step hs.invariant hs.profiled h hn,
    (same_identity h).rate.trans hs.rate_one⟩

theorem Ready.run (hs : Ready w capacity rate s) (h : Undisturbed w s t) : Ready w capacity rate t := by
  obtain ⟨tr, hr, hn⟩ := h
  have hg := hr.restrict (G := fun p => reconfigures w p.2 = false) hn
  exact hg.invariant (fun s l t hs ⟨hl, hstep⟩ => hs.step hstep hl) hs

theorem Ready.matched (hs : Ready w capacity rate s) (hrate : 0 < rate) : Matched w capacity s where
  solana d := by
    obtain ⟨r, hr, hc, hp⟩ := hs.profiled.solana d
    exact ⟨r, hr, hc, hp ▸ hrate⟩
  evm inbound := (hs.profiled.evm inbound).1

theorem ready_of_plan {peer : PeerConfig} {outbound inbound : Evm.Contract.BucketView} {plan : ProductionRateLimitPlan}
    {profile : ProductionRateLimitProfile} (hprofile : Daily profile capacity rate) (h : Reachable w s)
    (hone : s.solana.store.ld2sdRate = 1) (hpeer : s.solana.peers w.robinhoodEid = some peer)
    (hout : Evm.Contract.bucketView s.evm.now s.evm.token.outboundBucket = .ok outbound)
    (hin : Evm.Contract.bucketView s.evm.now s.evm.token.inboundBucket = .ok inbound)
    (hplan : observedRateLimits peer outbound inbound = .ok plan)
    (hvalid : validateProductionRateLimitPlan plan profile = .ok ()) : Ready w capacity rate s := by
  obtain ⟨hsolana, hevm⟩ := (plan_accepted_iff hprofile hout hin).mp ⟨plan, hplan, hvalid⟩
  refine ⟨invariant_reachable h, routed_reachable h, ⟨fun d => ?_, fun incoming => ?_⟩, hone⟩
  · rw [Solana.Limits.limiterOf_of_peer hpeer]
    cases d with
    | outbound => exact hsolana _ List.mem_cons_self
    | inbound => exact hsolana _ (List.mem_cons_of_mem _ List.mem_cons_self)
  · cases incoming with
    | false => exact hevm _ List.mem_cons_self
    | true => exact hevm _ (List.mem_cons_of_mem _ List.mem_cons_self)

/-- Once the audit has accepted the limits it read under one of the named profiles, and
until one of them is reconfigured, whatever either chain lets out the other lets in within
a day and a second of the last use of its limiter. -/
theorem checked_limits_deliver {name : String} {profile : ProductionRateLimitProfile} {peer : PeerConfig}
    {outbound inbound : Evm.Contract.BucketView} {plan : ProductionRateLimitPlan}
    (hprofile : productionRateLimitProfile name = .ok profile) (h : Reachable w s)
    (hone : s.solana.store.ld2sdRate = 1) (hpeer : s.solana.peers w.robinhoodEid = some peer)
    (hout : Evm.Contract.bucketView s.evm.now s.evm.token.outboundBucket = .ok outbound)
    (hin : Evm.Contract.bucketView s.evm.now s.evm.token.inboundBucket = .ok inbound)
    (hplan : observedRateLimits peer outbound inbound = .ok plan)
    (hvalid : validateProductionRateLimitPlan plan profile = .ok ()) {x : State} (hx : Undisturbed w s x) :
    (∀ accounts params r y z, Step w x (.solanaSend accounts params r) y → Undisturbed w y z →
      ∃ amount, Solana.MsgCodec.amountSd r.packet.message = some amount ∧
        ∀ now, z.evm.token.inboundBucket.lastUpdated + 86400 ≤ now → now < 2 ^ 192 →
          ∃ b, Evm.Contract.consume now true amount z.evm.token.inboundBucket = .ok b) ∧
    ∀ sender params r y z, Step w x (.evmSend sender params r) y → Undisturbed w y z →
      ∃ amount limiter, Solana.MsgCodec.amountSd r.message = some amount ∧ z.solana.store.sd2ld amount = .ok amount ∧
        Solana.Limits.limiterOf w.robinhoodEid .inbound z.solana = some limiter ∧
        ∀ clock : Solana.Runtime.Clock, (limiter.lastRefillTime + 86401 : Nat) ≤ clock.unixTimestamp →
          ∃ limiter', limiter.tryConsume clock amount = .ok limiter' := by
  obtain ⟨capacity, rate, hdaily⟩ := profile_daily hprofile
  have hready := (ready_of_plan hdaily h hone hpeer hout hin hplan hvalid).run hx
  have hfits := hready.matched hdaily.rate_pos
  refine ⟨fun accounts params r y z hs hz => ?_, fun sender params r y z hs hz => ?_⟩
  · have hlater := (hready.step hs rfl).run hz
    have hmatched := hlater.matched hdaily.rate_pos
    cases hs with
    | solanaSend oapp hsend =>
      obtain ⟨amount, hamount, hle⟩ := hfits.solanaSend hready.invariant hready.routed hready.rate_one hsend
      refine ⟨amount, hamount, fun now hwait hnow => evm_releases hlater.invariant hmatched hle ?_ hnow⟩
      obtain ⟨_, hrefill, hduration⟩ := hlater.profiled.evm true
      have hday : ceilDiv (capacity * 86400) capacity ≤ 86400 :=
        (ceilDiv_le_iff hdaily.capacity_pos).mpr (Nat.mul_comm _ _).le
      rw [show z.evm.token.inboundBucket.refillAmount = capacity from hrefill,
        show z.evm.token.inboundBucket.refillDuration = 86400 from hduration]
      omega
  · have hlater := (hready.step hs rfl).run hz
    cases hs with
    | evmSend oft hsend =>
      obtain ⟨amount, hamount, hle, hlt⟩ := hfits.evmSend hready.invariant hsend
      obtain ⟨limiter, hlimiter, hc, hp⟩ := hlater.profiled.solana .inbound
      refine ⟨amount, limiter, hamount, ?_, hlimiter, fun clock hwait => ?_⟩
      · rw [OFTStore.sd2ld, hlater.rate_one]
        exact mul_eq_ok.mpr ⟨by omega, (Nat.mul_one _).symm⟩
      · have hday := hdaily.wait_le
        refine solana_releases hlater.invariant hlimiter (hp ▸ hdaily.rate_pos) (hc ▸ hle) ?_
        rw [hc, hp]
        omega

/-- The canary limits of the wired bridge, and the 100 tokens sent from it. -/
theorem checked_limits_deliver_sent : ∃ amount,
    Solana.MsgCodec.amountSd sampleResult.packet.message = some amount ∧
      ∃ b, Evm.Contract.consume 86400 true amount sentState.evm.token.inboundBucket = .ok b := by
  have hnone : ∀ x : State, Undisturbed sampleWiring x x := fun x => ⟨[], .nil x, by simp⟩
  have hprofile : productionRateLimitProfile "canary" = .ok _ := rfl
  have hdeliver := checked_limits_deliver hprofile reachable_matched rfl rfl rfl rfl rfl rfl (hnone _)
  obtain ⟨amount, hamount, hrelease⟩ := hdeliver.1 _ _ _ _ _ step_sent (hnone _)
  exact ⟨amount, hamount, hrelease 86400 (by decide) (by decide)⟩

end Plan

end SanBridge.Tooling.Readiness
