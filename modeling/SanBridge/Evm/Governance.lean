import SanBridge.Evm.Limits

namespace SanBridge.Evm.Governance

open Library.Checked Library.Runs Evm.Runtime Evm.Base Evm.Contract Evm.Program Evm.Limits

/-- What the owner decides about a bucket: capacity, refill amount and refill duration. -/
abbrev BucketTerms := Nat × Nat × Nat

def bucketTerms (b : TokenBucket) : BucketTerms := (b.capacity, b.refillAmount, b.refillDuration)

def paramTerms (p : RateLimitParams) : BucketTerms := (p.capacity, p.refillAmount, p.refillDuration)

structure Config where
  owner : Address
  paused : Bool
  peers : U32 → Bytes32
  outbound : BucketTerms
  inbound : BucketTerms

def config (t : SanOFT) : Config where
  owner := t.owner
  paused := t.paused
  peers := t.peers
  outbound := bucketTerms t.outboundBucket
  inbound := bucketTerms t.inboundBucket

/-- What an event makes of a configuration: the owner's calls that succeed change what
they name, and nothing else changes anything. -/
def Config.apply (c : Config) : Event → Config
  | .call _ .pause _ => { c with paused := true }
  | .call _ .unpause _ => { c with paused := false }
  | .call _ (.transferOwnership newOwner) _ => { c with owner := newOwner }
  | .call _ (.setPeer eid peer) _ => { c with peers := Function.update c.peers eid peer }
  | .call _ (.setOutboundRateLimit params) _ => { c with outbound := paramTerms params }
  | .call _ (.setInboundRateLimit params) _ => { c with inbound := paramTerms params }
  | _ => c

/-- Terms under which a bucket fits 64 bits and refills, in some time, without overfilling. -/
def BucketTerms.Sound (terms : BucketTerms) : Prop :=
  0 < terms.2.1 ∧ terms.2.1 ≤ terms.1 ∧ terms.1 < 2 ^ 64 ∧ 0 < terms.2.2

/-- A configuration somebody can change and that lets traffic through sooner or later. -/
structure Config.Sound (c : Config) : Prop where
  owner_ne : c.owner ≠ 0
  outbound : BucketTerms.Sound c.outbound
  inbound : BucketTerms.Sound c.inbound

def Config.Authorises (c : Config) : Event → Prop
  | .call sender .pause _ => c.owner = sender ∧ c.paused = false
  | .call sender .unpause _ => c.owner = sender ∧ c.paused = true
  | .call sender (.transferOwnership newOwner) _ => c.owner = sender ∧ newOwner ≠ 0
  | .call sender (.setPeer _ _) _ => c.owner = sender
  | .call sender (.setOutboundRateLimit params) _ | .call sender (.setInboundRateLimit params) _ =>
    c.owner = sender ∧ BucketTerms.Sound (paramTerms params)
  | .call _ .renounceOwnership _ => False
  | .call _ (.send params) _ => c.paused = false ∧ c.peers params.dstEid ≠ zeroBytes32
  | .call _ (.lzReceive origin _ _) _ => c.paused = false ∧ c.peers origin.srcEid = origin.sender
  | _ => True

variable {oft : OFT} {sender : Address} {s s' : Chain} {l : Event} {o : Outcome}

theorem bucketTerms_refill {now : Nat} {b b' : TokenBucket} (h : refill now b = .ok b') :
    bucketTerms b' = bucketTerms b := by
  obtain ⟨_, _, h⟩ := bind_eq_ok.mp h
  rw [← Except.ok.inj h]
  rfl

theorem bucketTerms_consume {now amount : Nat} {inbound : Bool} {b b' : TokenBucket}
    (h : consume now inbound amount b = .ok b') : bucketTerms b' = bucketTerms b := by
  obtain ⟨settled, hs, h⟩ := bind_eq_ok.mp h
  obtain ⟨_, _, h⟩ := bind_eq_ok.mp h
  rw [← Except.ok.inj h, ← bucketTerms_refill hs]
  rfl

theorem bucketTerms_configure {now : Nat} {params : RateLimitParams} {b b' : TokenBucket}
    (h : configureBucket now params.capacity params.refillAmount params.refillDuration b = .ok b') :
    bucketTerms b' = paramTerms params := by
  obtain ⟨_, _, h⟩ := bind_eq_ok.mp h
  obtain ⟨_, _, h⟩ := bind_eq_ok.mp h
  rw [← Except.ok.inj h]
  rfl

theorem sound_configure {now : Nat} {params : RateLimitParams} {b b' : TokenBucket}
    (h : configureBucket now params.capacity params.refillAmount params.refillDuration b = .ok b') :
    BucketTerms.Sound (paramTerms params) := by
  obtain ⟨_, hvalid, _⟩ := bind_eq_ok.mp h
  obtain ⟨_, hcapacity, hamount, hle, hduration⟩ := of_decide_eq_true (require_eq_ok.mp hvalid)
  have hbound : params.capacity.val < 2 ^ 64 := by omega
  exact ⟨Nat.pos_of_ne_zero hamount, hle, hbound, Nat.pos_of_ne_zero hduration⟩

theorem config_call {c : Call} (h : exec oft sender s c = .ok (s', o)) :
    config s'.token = (config s.token).apply (.call sender c o) ∧ (config s.token).Authorises (.call sender c o) := by
  cases exec_effect h with
  | pause owner unpaused => exact ⟨rfl, owner, unpaused⟩
  | unpause owner paused => exact ⟨rfl, owner, paused⟩
  | transferOwnership newOwner owner valid => exact ⟨rfl, owner, valid⟩
  | setPeer eid peer owner => exact ⟨rfl, owner⟩
  | setOutboundRateLimit params bucket owner configured =>
    refine ⟨?_, owner, sound_configure configured⟩
    rw [config, bucketTerms_configure configured]
    rfl
  | setInboundRateLimit params bucket owner configured =>
    refine ⟨?_, owner, sound_configure configured⟩
    rw [config, bucketTerms_configure configured]
    rfl
  | send params token r e =>
    refine ⟨?_, e.unpaused, e.peer_ne⟩
    rw [e.state_eq, config, bucketTerms_consume e.consumed]
    rfl
  | lzReceive origin guid message token r e =>
    refine ⟨?_, e.unpaused, e.peer_eq⟩
    rw [e.state_eq, config, bucketTerms_consume e.consumed]
    rfl
  | _ => exact ⟨rfl, trivial⟩

theorem config_step (h : Step s l s') :
    config s'.token = (config s.token).apply l ∧ (config s.token).Authorises l := by
  cases h with
  | call oft h => exact config_call h
  | reverted _ _ | time _ _ => exact ⟨rfl, trivial⟩

def canaryTerms : BucketTerms := (canaryCapacity, canaryRefillAmount, canaryRefillDuration)

theorem sound_canary : BucketTerms.Sound canaryTerms := by
  unfold BucketTerms.Sound
  decide

def Config.initial (delegate : Address) : Config where
  owner := delegate
  paused := true
  peers := fun _ => zeroBytes32
  outbound := canaryTerms
  inbound := canaryTerms

theorem config_initial (h : Initial s) : config s.token = .initial s.token.owner ∧ s.token.owner ≠ 0 := by
  obtain ⟨endpoint, delegate, h⟩ := h
  obtain ⟨_, hvalid, h⟩ := bind_eq_ok.mp h
  rw [← Except.ok.inj h]
  exact ⟨rfl, bne_iff_ne.mp (require_eq_ok.mp hvalid)⟩

theorem sound_initial {delegate : Address} (h : delegate ≠ 0) : (Config.initial delegate).Sound where
  owner_ne := h
  outbound := sound_canary
  inbound := sound_canary

theorem sound_apply {c : Config} (hc : c.Sound) (h : c.Authorises l) : (c.apply l).Sound := by
  cases l with
  | reverted _ _ _ | time _ => exact hc
  | call sender call o =>
    cases call with
    | transferOwnership newOwner => exact ⟨h.2, hc.outbound, hc.inbound⟩
    | setOutboundRateLimit params => exact ⟨hc.owner_ne, h.2, hc.inbound⟩
    | setInboundRateLimit params => exact ⟨hc.owner_ne, hc.outbound, h.2⟩
    | pause | unpause | setPeer _ _ => exact ⟨hc.owner_ne, hc.outbound, hc.inbound⟩
    | _ => exact hc

theorem sound_run {s₀ : Chain} {tr : List (Chain × Event)} (hi : Initial s₀) (h : Run Step s₀ tr s) :
    (config s.token).Sound := by
  refine h.invariant (I := fun s => (config s.token).Sound) ?_ ?_
  · intro s l t hs hstep
    obtain ⟨hconfig, hauthorised⟩ := config_step hstep
    rw [hconfig]
    exact sound_apply hs hauthorised
  · obtain ⟨hconfig, howner⟩ := config_initial hi
    rw [hconfig]
    exact sound_initial howner

/-- The configuration of SanOFT is what its events, one after the other, have made of the
one it was deployed with, whoever changed it was its owner at the time, and no run can leave
it without an owner or with a bucket that never refills. -/
theorem ownership_replayed {s₀ : Chain} {tr : List (Chain × Event)} (hi : Initial s₀) (h : Run Step s₀ tr s) :
    config s.token = tr.foldl (fun c p => c.apply p.2) (.initial s₀.token.owner) ∧
      (∀ p ∈ tr, (config p.1.token).Authorises p.2) ∧ (config s.token).Sound := by
  refine ⟨?_, ?_, sound_run hi h⟩
  · rw [← (config_initial hi).1]
    exact h.replay (I := fun _ => True) (fun s => config s.token) (fun c p => c.apply p.2) (fun _ _ _ _ _ => trivial)
      (fun s l t _ hs => (config_step hs).1) trivial
  · exact h.forall_steps (I := fun _ => True) (fun _ _ _ _ _ => trivial) (fun s l t _ hs => (config_step hs).2) trivial

theorem ownership_replayed_transferred : ∃ s, Step deployed (.call 1 (.transferOwnership 3) .done) s ∧
    config s.token = (Config.initial 1).apply (.call 1 (.transferOwnership 3) .done) := by
  have hs : Step deployed (.call 1 (.transferOwnership 3) .done)
      { deployed with token := { deployed.token with owner := 3 } } := .call standard rfl
  exact ⟨_, hs, (ownership_replayed initial_deployed (Run.single hs)).1⟩

end SanBridge.Evm.Governance
