import SanBridge.Solana.Program

namespace SanBridge.Solana.Governance

open Library.Checked Library.Runs Solana.Runtime Solana.State Solana.Instructions Solana.Program

/-- Capacity and rate of a limiter, whatever it holds at the moment. -/
abbrev LimiterTerms := Nat × Nat

def limiterTerms (r : RateLimiter) : LimiterTerms := (r.capacity, r.refillPerSecond)

structure PeerTerms where
  peerAddress : Pubkey
  enforcedOptions : EnforcedOptions
  outbound : Option LimiterTerms
  inbound : Option LimiterTerms
  feeBps : Option Nat

def peerTerms (p : PeerConfig) : PeerTerms where
  peerAddress := p.peerAddress
  enforcedOptions := p.enforcedOptions
  outbound := p.outboundRateLimiter.map limiterTerms
  inbound := p.inboundRateLimiter.map limiterTerms
  feeBps := p.feeBps

structure Config where
  admin : Pubkey
  defaultFeeBps : Nat
  paused : Bool
  pauser : Option Pubkey
  unpauser : Option Pubkey
  peers : U32 → Option PeerTerms

def config (s : StoreState) : Config where
  admin := s.store.admin
  defaultFeeBps := s.store.defaultFeeBps
  paused := s.store.paused
  pauser := s.store.pauser
  unpauser := s.store.unpauser
  peers := fun eid => (s.peers eid).map peerTerms

/-- What a setting leaves open stays; without a limiter it starts from nothing. -/
def updateTerms (terms : Option LimiterTerms) : Option RateLimitParams → Option LimiterTerms
  | some param =>
    let old := terms.getD (0, 0)
    some ((param.capacity.map Fin.val).getD old.1, (param.refillPerSecond.map Fin.val).getD old.2)
  | none => none

def PeerTerms.apply (p : PeerTerms) : PeerConfigParam → PeerTerms
  | .peerAddress address => { p with peerAddress := address }
  | .feeBps feeBps => { p with feeBps := feeBps.map Fin.val }
  | .enforcedOptions send sendAndCall => { p with enforcedOptions := ⟨send, sendAndCall⟩ }
  | .outboundRateLimit params => { p with outbound := updateTerms p.outbound params }
  | .inboundRateLimit params => { p with inbound := updateTerms p.inbound params }

/-- What an event makes of a configuration: the four governance calls that succeed
change what they name, and nothing else changes anything. -/
def Config.apply (c : Config) : Event → Config
  | .call (.setOftConfig _ (.admin admin)) _ => { c with admin := admin }
  | .call (.setOftConfig _ (.defaultFee feeBps)) _ => { c with defaultFeeBps := feeBps }
  | .call (.setOftConfig _ (.paused paused)) _ => { c with paused := paused }
  | .call (.setOftConfig _ (.pauser pauser)) _ => { c with pauser := pauser }
  | .call (.setOftConfig _ (.unpauser unpauser)) _ => { c with unpauser := unpauser }
  | .call (.setPause _ paused) _ => { c with paused := paused }
  | .call (.setPeerConfig _ params) _ =>
    let old := (c.peers params.remoteEid).getD (peerTerms .zeroed)
    { c with peers := Function.update c.peers params.remoteEid (some (old.apply params.config)) }
  | _ => c

def Config.Authorises (c : Config) : Event → Prop
  | .call (.setOftConfig admin _) _ => c.admin = admin
  | .call (.setPeerConfig admin _) _ => c.admin = admin
  | .call (.setPause signer true) _ => c.pauser = some signer
  | .call (.setPause signer false) _ => c.unpauser = some signer
  | .call (.withdrawFee accounts _) _ => c.admin = accounts.admin
  | _ => True

variable {space : AddressSpace} {oapp : Oapp} {s s' : StoreState} {l : Event} {o : Outcome}

section Limiters

variable {r r' : RateLimiter} {clock : Clock} {n : Nat}

theorem limiterTerms_refill (h : r.refill clock n = .ok r') : limiterTerms r' = limiterTerms r := by
  obtain ⟨_, _, h⟩ := bind_eq_ok.mp h
  rw [← Except.ok.inj h]
  rfl

theorem limiterTerms_tryConsume (h : r.tryConsume clock n = .ok r') : limiterTerms r' = limiterTerms r := by
  obtain ⟨settled, hrefill, h⟩ := bind_eq_ok.mp h
  rw [← limiterTerms_refill hrefill]
  split at h
  · rw [← Except.ok.inj h]
    rfl
  · cases h

theorem setCapacity_terms (h : r.setCapacity clock n = .ok r') : limiterTerms r' = (n, (limiterTerms r).2) := by
  obtain ⟨_, _, h⟩ := bind_eq_ok.mp h
  rw [← Except.ok.inj h]
  rfl

theorem setRate_terms (h : r.setRate clock n = .ok r') : limiterTerms r' = ((limiterTerms r).1, n) := by
  obtain ⟨settled, hrefill, h⟩ := bind_eq_ok.mp h
  rw [← Except.ok.inj h, ← limiterTerms_refill hrefill]
  rfl

theorem onSome_terms {f : RateLimiter → Result RateLimiter} {limiter limiter' : Option RateLimiter}
    (hf : ∀ r r', f r = .ok r' → limiterTerms r' = limiterTerms r) (h : onSome f limiter = .ok limiter') :
    limiter'.map limiterTerms = limiter.map limiterTerms := by
  cases limiter with
  | none =>
    rw [onSome_none.mp h]
  | some r =>
    obtain ⟨r', hr, rfl⟩ := onSome_some.mp h
    rw [Option.map_some, Option.map_some, hf r r' hr]

theorem updateRateLimiter_terms {limiter limiter' : Option RateLimiter} {params : Option RateLimitParams}
    (h : updateRateLimiter clock limiter params = .ok limiter') :
    limiter'.map limiterTerms = updateTerms (limiter.map limiterTerms) params := by
  cases params with
  | none =>
    cases h
    rfl
  | some param =>
    obtain ⟨rate, capacity⟩ := param
    have hold : (limiter.map limiterTerms).getD (0, 0) = limiterTerms (limiter.getD .default) := by
      cases limiter <;> rfl
    rw [updateTerms, hold]
    cases capacity with
    | none =>
      cases rate with
      | none =>
        rw [← Except.ok.inj h]
        rfl
      | some rate =>
        simp only [updateRateLimiter, ok_bind, bind_eq_ok] at h
        obtain ⟨r, hr, hset⟩ := h
        cases hset
        rw [Option.map_some, setRate_terms hr]
        rfl
    | some capacity =>
      obtain ⟨r, hr, hset⟩ := bind_eq_ok.mp h
      cases rate with
      | none =>
        cases hset
        rw [Option.map_some, setCapacity_terms hr]
        rfl
      | some rate =>
        obtain ⟨r', hr', hset⟩ := bind_eq_ok.mp hset
        cases hset
        rw [Option.map_some, setRate_terms hr', setCapacity_terms hr]
        rfl

end Limiters

theorem applyPeerConfig_terms {clock : Clock} {peer peer' : PeerConfig} {param : PeerConfigParam}
    (h : applyPeerConfig oapp clock peer param = .ok peer') : peerTerms peer' = (peerTerms peer).apply param := by
  cases param with
  | peerAddress address =>
    rw [← Except.ok.inj h]
    rfl
  | feeBps feeBps =>
    obtain ⟨_, _, h⟩ := bind_eq_ok.mp h
    rw [← Except.ok.inj h]
    rfl
  | enforcedOptions send sendAndCall =>
    obtain ⟨_, _, h⟩ := bind_eq_ok.mp h
    obtain ⟨_, _, h⟩ := bind_eq_ok.mp h
    rw [← Except.ok.inj h]
    rfl
  | outboundRateLimit params =>
    obtain ⟨limiter, hlimiter, h⟩ := bind_eq_ok.mp h
    rw [← Except.ok.inj h, peerTerms, updateRateLimiter_terms hlimiter]
    rfl
  | inboundRateLimit params =>
    obtain ⟨limiter, hlimiter, h⟩ := bind_eq_ok.mp h
    rw [← Except.ok.inj h, peerTerms, updateRateLimiter_terms hlimiter]
    rfl

theorem config_traffic {eid : U32} {peer : PeerConfig} {outbound inbound : Option RateLimiter}
    (hpeer : s.peers eid = some peer) (hout : outbound.map limiterTerms = peer.outboundRateLimiter.map limiterTerms)
    (hin : inbound.map limiterTerms = peer.inboundRateLimiter.map limiterTerms) :
    (fun key => (Function.update s.peers eid (some
      { peer with outboundRateLimiter := outbound, inboundRateLimiter := inbound }) key).map peerTerms) =
        (config s).peers := by
  funext key
  by_cases hk : key = eid
  · subst hk
    have hterms : (config s).peers key = some (peerTerms peer) := by
      change (s.peers key).map peerTerms = _
      rw [hpeer, Option.map_some]
    rw [Function.update_self, Option.map_some, hterms, peerTerms, hout, hin]
    rfl
  · rw [Function.update_of_ne hk]
    rfl

theorem config_setOftConfig {admin : Pubkey} {params : SetOFTConfigParams}
    (h : setOftConfig oapp admin params s = .ok s') :
    config s' = (config s).apply (.call (.setOftConfig admin params) o) ∧ s.store.admin = admin := by
  obtain ⟨_, hadmin, h⟩ := bind_eq_ok.mp h
  refine ⟨?_, by simpa [requireOft] using hadmin⟩
  cases params with
  | delegate delegate =>
    obtain ⟨_, _, h⟩ := bind_eq_ok.mp h
    rw [← Except.ok.inj h]
    rfl
  | defaultFee feeBps =>
    obtain ⟨_, _, h⟩ := bind_eq_ok.mp h
    rw [← Except.ok.inj h]
    rfl
  | admin _ | paused _ | pauser _ | unpauser _ =>
    rw [← Except.ok.inj h]
    rfl

theorem config_call {c : Call} (h : exec space oapp s c = .ok (s', o)) :
    config s' = (config s).apply (.call c o) ∧ (config s).Authorises (.call c o) := by
  cases c with
  | setOftConfig admin params => exact config_setOftConfig (exec_setOftConfig.mp h).1
  | setPeerConfig admin params =>
    cases exec_effect h with
    | setPeerConfig _ _ peer bump isAdmin applied =>
      refine ⟨?_, isAdmin⟩
      have hterms : peerTerms { peer with bump := bump } =
          (((config s).peers params.remoteEid).getD (peerTerms .zeroed)).apply params.config := by
        change peerTerms peer = _
        rw [applyPeerConfig_terms applied]
        change _ = (((s.peers params.remoteEid).map peerTerms).getD (peerTerms .zeroed)).apply params.config
        cases s.peers params.remoteEid <;> rfl
      have hpeers : (config { s with
            peers := Function.update s.peers params.remoteEid (some { peer with bump := bump }) }).peers =
          Function.update (config s).peers params.remoteEid (some (peerTerms { peer with bump := bump })) := by
        funext key
        change (Function.update s.peers params.remoteEid _ key).map peerTerms = _
        by_cases hk : key = params.remoteEid
        · subst hk
          rw [Function.update_self, Function.update_self, Option.map_some]
        · rw [Function.update_of_ne hk, Function.update_of_ne hk]
          rfl
      rw [hterms] at hpeers
      exact congrArg (fun peers => { config s with peers := peers }) hpeers
  | setPause signer paused =>
    cases exec_effect h with
    | setPause _ _ valid =>
      refine ⟨rfl, ?_⟩
      cases paused with
      | true => exact beq_iff_eq.mp valid
      | false => exact beq_iff_eq.mp valid
  | withdrawFee accounts feeLd =>
    obtain ⟨hw, rfl⟩ := exec_withdrawFee.mp h
    obtain ⟨_, hadmin, hw⟩ := bind_eq_ok.mp hw
    cases exec_effect h with
    | withdrawFee _ _ _ _ _ _ => exact ⟨rfl, beq_iff_eq.mp (require_eq_ok.mp hadmin)⟩
  | quoteOft params =>
    obtain ⟨rfl, _⟩ := exec_quoteOft.mp h
    exact ⟨rfl, trivial⟩
  | quoteSend params =>
    obtain ⟨rfl, _⟩ := exec_quoteSend.mp h
    exact ⟨rfl, trivial⟩
  | send accounts params =>
    cases exec_effect h with
    | send _ _ _ r e =>
      refine ⟨?_, trivial⟩
      have hpeers := config_traffic e.peer_eq (onSome_terms (fun _ _ => limiterTerms_tryConsume) e.consumed)
        (onSome_terms (fun _ _ => limiterTerms_refill) e.refilled)
      rw [e.state_eq]
      exact congrArg (fun peers => { config s with peers := peers }) hpeers
  | lzReceive accounts params =>
    cases exec_effect h with
    | lzReceive _ _ _ r e =>
      refine ⟨?_, trivial⟩
      have hpeers := config_traffic e.peer_eq (onSome_terms (fun _ _ => limiterTerms_refill) e.refilled)
        (onSome_terms (fun _ _ => limiterTerms_tryConsume) e.consumed)
      rw [e.state_eq]
      exact congrArg (fun peers => { config s with peers := peers }) hpeers

theorem config_step (h : Step space s l s') : config s' = (config s).apply l ∧ (config s).Authorises l := by
  cases h with
  | call oapp h => exact config_call h
  | aborted _ _ | tokens _ _ _ | mint _ _ | clock _ => exact ⟨rfl, trivial⟩

def Config.initial (admin : Pubkey) : Config := ⟨admin, 0, true, none, none, fun _ => none⟩

theorem config_initial (h : Initial space s) : config s = .initial s.store.admin := by
  have e := initial_effect h
  have hpeers : (fun eid => (s.peers eid).map peerTerms) = fun _ => none := by simp [e.no_peers]
  rw [config, e.no_fee, e.paused, e.no_pauser, e.no_unpauser, hpeers]
  rfl

/-- The configuration of a store is what its events, one after the other, have made of the
one it was launched with, and whoever changed it was entitled to at the time. -/
theorem configuration_replayed {s₀ : StoreState} {tr : List (StoreState × Event)} (hi : Initial space s₀)
    (h : Run (Step space) s₀ tr s) :
    config s = tr.foldl (fun c p => c.apply p.2) (.initial s₀.store.admin) ∧
      ∀ p ∈ tr, (config p.1).Authorises p.2 := by
  constructor
  · rw [← config_initial hi]
    exact h.replay (I := fun _ => True) config (fun c p => c.apply p.2) (fun _ _ _ _ _ => trivial)
      (fun s l t _ hs => (config_step hs).1) trivial
  · exact h.forall_steps (I := fun _ => True) (fun _ _ _ _ _ => trivial) (fun s l t _ hs => (config_step hs).2) trivial

theorem configuration_replayed_unpaused : ∃ s, Step sampleSpace sampleStore
    (.call (.setOftConfig (pubkey 4) (.paused false)) .done) s ∧
      config s = (Config.initial (pubkey 4)).apply (.call (.setOftConfig (pubkey 4) (.paused false)) .done) := by
  have hs : Step sampleSpace sampleStore (.call (.setOftConfig (pubkey 4) (.paused false)) .done)
      { sampleStore with store := { sampleStore.store with paused := false } } := .call sampleOapp rfl
  exact ⟨_, hs, (configuration_replayed initial_sampleStore (Run.single hs)).1⟩

end SanBridge.Solana.Governance
