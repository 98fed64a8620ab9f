import SanBridge.System.Bridge

namespace SanBridge.System.Routing

open Library.Runs Solana.Runtime Solana.State Solana.Instructions System.Bridge

variable {w : Wiring} {s t : State} {l : Label}

/-- A step of the bridge is a step of the store or leaves the store alone; a
configuration of the store is nothing else for the bridge. -/
theorem solana_step (h : Step w s l t) : t.solana = s.solana ∨
    ∃ e, Solana.Program.Step w.space s.solana e t.solana ∧
      ((localSolana w e ∧ l = .solana e) ∨
        ∀ eid d, Solana.Limits.reconfigures eid d e = false) := by
  cases h with
  | solana hl h => exact Or.inr ⟨_, h, Or.inl ⟨hl, rfl⟩⟩
  | solanaSend oapp h =>
    refine Or.inr ⟨_, .call oapp (Solana.Program.exec_send.mpr ⟨_, h, rfl⟩), Or.inr ?_⟩
    exact fun _ _ => rfl
  | solanaReceive oapp hp hr h =>
    refine Or.inr ⟨_, .call oapp (Solana.Program.exec_lzReceive.mpr ⟨_, h, rfl⟩), Or.inr ?_⟩
    exact fun _ _ => rfl
  | evm _ _ | evmSend _ _ | evmReceive _ _ _ _ => exact Or.inl rfl

theorem evm_step (h : Step w s l t) : t.evm = s.evm ∨
    ∃ e, Evm.Program.Step s.evm e t.evm ∧
      ((localEvm w e ∧ l = .evm e) ∨ ∀ inbound, Evm.Limits.reconfigures inbound e = false) := by
  cases h with
  | evm hl h => exact Or.inr ⟨_, h, Or.inl ⟨hl, rfl⟩⟩
  | evmSend oft h =>
    refine Or.inr ⟨_, .call oft (Evm.Program.exec_send.mpr ⟨_, _, h, rfl, rfl⟩), Or.inr ?_⟩
    exact fun inbound => by cases inbound <;> rfl
  | evmReceive oft hp hr h =>
    refine Or.inr ⟨_, .call oft (Evm.Program.exec_lzReceive.mpr ⟨_, _, h, rfl, rfl⟩), Or.inr ?_⟩
    exact fun inbound => by cases inbound <;> rfl
  | solana _ _ | solanaSend _ _ | solanaReceive _ _ _ _ => exact Or.inl rfl

theorem same_identity (h : Step w s l t) : Solana.Program.SameIdentity s.solana t.solana := by
  rcases solana_step h with he | ⟨e, he, _⟩
  · rw [he]
    exact Solana.Program.SameIdentity.refl _
  · exact he.sameIdentity

/-- The two applications know no other peers, and every message in flight is on
its way from one of them to the other. A Solana peer that has no address yet
holds the zero address. -/
structure Routed (w : Wiring) (s : State) : Prop where
  key : s.solana.key = w.store
  peer : ∀ eid peer, s.solana.peers eid = some peer → eid = w.robinhoodEid ∧
    (peer.peerAddress = w.sanOft ∨ peer.peerAddress = PeerConfig.zeroed.peerAddress)
  evmPeer : ∀ eid, s.evm.token.peers eid ≠ Evm.Runtime.zeroBytes32 →
    eid = w.solanaEid ∧ s.evm.token.peers eid = w.store
  toRobinhood : ∀ p ∈ s.toRobinhood, p.dstEid = w.robinhoodEid ∧ p.sender = w.store ∧
    (p.receiver = w.sanOft ∨ p.receiver = PeerConfig.zeroed.peerAddress)
  toSolana : ∀ p ∈ s.toSolana, p.dstEid = w.solanaEid ∧ p.sender = w.sanOft ∧ p.receiver = w.store

theorem solanaPeer_step (hr : Routed w s) {x : StoreState} {e : Solana.Program.Event}
    (h : Solana.Program.Step w.space s.solana e x)
    (hl : localSolana w e ∨ ∀ admin params o, e ≠ .call (.setPeerConfig admin params) o) :
    ∀ eid peer, x.peers eid = some peer → eid = w.robinhoodEid ∧
      (peer.peerAddress = w.sanOft ∨ peer.peerAddress = PeerConfig.zeroed.peerAddress) := by
  intro eid peer hp
  cases h with
  | @call _ c o oapp h =>
    rcases Solana.Program.exec_peers h hp with ⟨old, hold, ha⟩ | ⟨admin, params, rfl, rfl, ha⟩
    · rw [ha]
      exact hr.peer eid old hold
    · rcases hl with hl | hl
      · refine ⟨hl.1, ?_⟩
        rcases ha with ⟨old, hold, ha⟩ | ha | ha
        · rw [ha]
          exact (hr.peer _ old hold).2
        · exact Or.inr ha
        · exact Or.inl (hl.2 _ ha)
      · exact absurd rfl (hl _ _ _)
  | aborted _ _ | tokens _ _ _ | mint _ _ | clock _ => exact hr.peer eid peer hp

theorem evmPeer_step (hr : Routed w s) {x : Evm.Program.Chain} {e : Evm.Program.Event}
    (h : Evm.Program.Step s.evm e x)
    (hl : localEvm w e ∨ ∀ sender eid peer o, e ≠ .call sender (.setPeer eid peer) o) :
    ∀ eid, x.token.peers eid ≠ Evm.Runtime.zeroBytes32 →
      eid = w.solanaEid ∧ x.token.peers eid = w.store := by
  intro eid hp
  cases h with
  | @call _ sender c o oft h =>
    rcases Evm.Program.exec_peers h with he | ⟨key, peer, rfl, he⟩
    · rw [he] at hp ⊢
      exact hr.evmPeer eid hp
    · rcases hl with hl | hl
      · obtain ⟨hkey, hpeer⟩ := hl
        rw [he] at hp ⊢
        by_cases hk : eid = key
        · subst hk
          rw [Function.update_self] at hp ⊢
          exact ⟨hkey, hpeer.resolve_right hp⟩
        · rw [Function.update_of_ne hk] at hp ⊢
          exact hr.evmPeer eid hp
      · exact absurd rfl (hl _ _ _ _)
  | reverted _ _ | time _ _ => exact hr.evmPeer eid hp

theorem routed_step (hr : Routed w s) (h : Step w s l t) : Routed w t := by
  have hkey := (same_identity h).key.trans hr.key
  cases h with
  | solana hl h =>
    exact ⟨hkey, solanaPeer_step hr h (Or.inl hl), hr.evmPeer, hr.toRobinhood, hr.toSolana⟩
  | evm hl h =>
    exact ⟨hkey, hr.peer, evmPeer_step hr h (Or.inl hl), hr.toRobinhood, hr.toSolana⟩
  | @solanaSend x accounts params r oapp h =>
    have hs : Solana.Program.Step w.space s.solana (.call (.send accounts params) (.sent r)) x :=
      .call oapp (Solana.Program.exec_send.mpr ⟨r, h, rfl⟩)
    obtain ⟨e⟩ := Solana.Effects.send_effect h
    obtain ⟨heid, haddress⟩ := hr.peer _ _ e.peer_eq
    refine ⟨hkey, solanaPeer_step hr hs (Or.inr (by simp)), hr.evmPeer, ?_, hr.toSolana⟩
    intro p hp
    rcases Multiset.mem_cons.mp hp with rfl | hp
    · refine ⟨e.dstEid_eq.trans heid, hr.key, ?_⟩
      simpa only [solanaPacket, e.receiver_eq] using haddress
    · exact hr.toRobinhood p hp
  | @solanaReceive x accounts p r oapp hp hreceiver h =>
    have hs : Solana.Program.Step w.space s.solana
        (.call (.lzReceive accounts (p.solanaParams w)) (.received r)) x :=
      .call oapp (Solana.Program.exec_lzReceive.mpr ⟨r, h, rfl⟩)
    refine ⟨hkey, solanaPeer_step hr hs (Or.inr (by simp)), hr.evmPeer, hr.toRobinhood, ?_⟩
    exact fun p hp => hr.toSolana p (Multiset.mem_of_mem_erase hp)
  | @evmSend x sender params r oft h =>
    obtain ⟨e⟩ := Evm.Program.send_effect h
    obtain ⟨heid, hpeer⟩ := hr.evmPeer _ e.peer_ne
    refine ⟨hkey, hr.peer, ?_, hr.toRobinhood, ?_⟩
    · intro eid hp
      simp only [e.peers_eq] at hp ⊢
      exact hr.evmPeer eid hp
    · intro p hp
      rcases Multiset.mem_cons.mp hp with rfl | hp
      · refine ⟨?_, rfl, e.receiver_eq.trans hpeer⟩
        simpa only [evmPacket, e.event_eq] using heid
      · exact hr.toSolana p hp
  | @evmReceive x sender p r oft hp hreceiver h =>
    obtain ⟨e⟩ := Evm.Program.lzReceive_effect h
    refine ⟨hkey, hr.peer, ?_, ?_, hr.toSolana⟩
    · intro eid hp
      simp only [e.peers_eq] at hp ⊢
      exact hr.evmPeer eid hp
    · exact fun p hp => hr.toRobinhood p (Multiset.mem_of_mem_erase hp)

theorem routed_initial (h : Initial w s) : Routed w s where
  key := h.key
  peer := by simp [(Solana.Program.initial_effect h.solana).no_peers]
  evmPeer := by simp [(Evm.Program.initial_effect h.evm).no_peers]
  toRobinhood := by simp [h.toRobinhood]
  toSolana := by simp [h.toSolana]

theorem routed_reachable (h : Reachable w s) : Routed w s := by
  obtain ⟨s₀, hi, hr⟩ := h
  exact hr.invariant (fun _ _ _ hi hs => routed_step hi hs) (routed_initial hi)

end SanBridge.System.Routing
