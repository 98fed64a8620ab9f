import SanBridge.System.Routing

namespace SanBridge.System.Conservation

open Library.Checked Library.LockMint Library.Runs
open Solana.Runtime Solana.State Solana.Instructions System.Bridge System.Routing

/-- The books of the bridge in local decimals: the locked value, the supply and
the amounts in flight. -/
def books (s : State) : Books Nat where
  locked := s.solana.store.tvlLd
  issued := s.solana.store.ld2sdRate * s.evm.token.totalSupply
  outgoing := s.toRobinhood.map fun p => s.solana.store.ld2sdRate * p.amountSd
  returning := s.toSolana.map fun p => s.solana.store.ld2sdRate * p.amountSd

structure Invariant (w : Wiring) (s : State) : Prop where
  solana : Solana.Program.Reachable w.space s.solana
  evm : Evm.Program.Reachable s.evm
  adapter : s.solana.store.oftType = .adapter
  tvl_lt : s.solana.store.tvlLd < 2 ^ 64
  readable : ∀ p ∈ s.toSolana, (Solana.MsgCodec.amountSd p.message).isSome
  balanced : Balanced (books s)

variable {w : Wiring} {s t : State} {l : Label}

theorem localSolana_tvl {x y : StoreState} {e : Solana.Program.Event} (hl : localSolana w e)
    (h : Solana.Program.Step w.space x e y) : y.store.tvlLd = x.store.tvlLd := by
  cases h with
  | @call _ c o oapp h =>
    by_cases hm : c.movesFunds = false
    · exact (Solana.Program.exec_sameFunds hm h).tvl
    cases c with
    | withdrawFee accounts feeLd =>
      have hs := Solana.Custody.withdrawFee_surplus (Solana.Program.exec_withdrawFee.mp h).1
      rw [hs.1]
    | send _ _ | lzReceive _ _ => exact hl.elim
    | setOftConfig _ _ | setPeerConfig _ _ | setPause _ _ | quoteOft _ | quoteSend _ => cases hm rfl
  | aborted _ _ | tokens _ _ _ | mint _ _ | clock _ => rfl

theorem localEvm_supply {x y : Evm.Program.Chain} {e : Evm.Program.Event} (hl : localEvm w e)
    (h : Evm.Program.Step x e y) : y.token.totalSupply = x.token.totalSupply := by
  have hs := Evm.Limits.supply_step h
  cases h with
  | @call _ sender c o oft h =>
    cases c with
    | send _ | lzReceive _ _ _ => exact hl.elim
    | _ => exact hs
  | reverted _ _ | time _ _ => rfl

/-- The message of a `send` carries exactly what was locked for it. -/
theorem solanaPacket_amount {x y : StoreState} {oapp : Oapp} {accounts : SendAccounts}
    {params : SendParams} {r : SendResult} (ht : x.store.oftType = .adapter)
    (e : Solana.Effects.SendEffect oapp accounts params x y r) :
    x.store.ld2sdRate * (solanaPacket x r).amountSd = e.received := by
  obtain ⟨hlt, _, _⟩ := e.debited.adapter ht
  obtain ⟨_, k, hk⟩ := Solana.Amounts.computeFee_adapter ht e.amounts
  have hsd : x.store.ld2sd e.received < 2 ^ 64 :=
    (Nat.div_le_self _ _).trans_lt (by omega)
  have hn : (solanaPacket x r).amountSd = x.store.ld2sd e.received := by
    simp only [Packet.amountSd, solanaPacket, e.message_eq, Solana.MsgCodec.amountSd_encode hsd,
      Option.getD_some]
  rw [hn, OFTStore.ld2sd, hk, Nat.mul_div_cancel_left _ x.store.rate_pos]

/-- The message of a `SanOFT.send` carries exactly what was burned for it. -/
theorem evmPacket_amount {oft : Evm.Base.OFT} {now : Nat} {sender : Evm.Runtime.Address}
    {params : Evm.Base.SendParam} {x y : Evm.Contract.SanOFT} {r : Evm.Contract.SendResult}
    (hv : Evm.Buckets.Valid x.outboundBucket)
    (e : Evm.Program.SendEffect oft now sender params x y r) :
    Solana.MsgCodec.amountSd r.message = some e.amount ∧ e.amount ≤ x.outboundBucket.capacity := by
  obtain ⟨_, _, _, _, _, _, hle⟩ := Evm.Buckets.consume_spec hv e.consumed
  have hcap := hv.capacity_le
  have hm := oft.buildMsg_amount _ _ _ _ e.message_eq
  rw [Nat.mod_eq_of_lt (by omega)] at hm
  exact ⟨hm, hle⟩

/-- Every step of the two programs is a move of the lock-and-mint bridge. -/
theorem step_move (hi : Invariant w s) (h : Step w s l t) : Move (books s) (books t) := by
  have hrate := (same_identity h).rate
  cases h with
  | @solana y e hl h =>
    have hrate : y.store.ld2sdRate = s.solana.store.ld2sdRate := hrate
    have hb : books { s with solana := y } = books s := by
      simp only [books, localSolana_tvl hl h, hrate]
    rw [hb]
    exact .stay _
  | @evm y e hl h =>
    have hb : books { s with evm := y } = books s := by
      simp only [books, localEvm_supply hl h]
    rw [hb]
    exact .stay _
  | @solanaSend y accounts params r oapp h =>
    have hrate : y.store.ld2sdRate = s.solana.store.ld2sdRate := hrate
    obtain ⟨e⟩ := Solana.Effects.send_effect h
    have hb : books { s with solana := y, toRobinhood := solanaPacket s.solana r ::ₘ s.toRobinhood } =
        { books s with locked := (books s).locked + e.received,
                       outgoing := e.received ::ₘ (books s).outgoing } := by
      simp only [books, hrate, e.tvl_eq hi.adapter, Multiset.map_cons, solanaPacket_amount hi.adapter e]
    rw [hb]
    exact .lock _ _
  | @solanaReceive y accounts p r oapp hp hr h =>
    have hrate : y.store.ld2sdRate = s.solana.store.ld2sdRate := hrate
    obtain ⟨e⟩ := Solana.Effects.lzReceive_effect h
    obtain ⟨hle, htvl⟩ := e.tvl_eq hi.adapter
    obtain ⟨_, hamount⟩ := mul_eq_ok.mp e.amountLd_eq
    have hsd : p.amountSd = e.amountSd := by
      rw [Packet.amountSd, show Solana.MsgCodec.amountSd p.message = some e.amountSd from e.amountSd_eq]
      rfl
    have hmem := Multiset.mem_map_of_mem (fun p => s.solana.store.ld2sdRate * p.amountSd) hp
    have hb : books { s with solana := y, toSolana := s.toSolana.erase p } =
        { books s with locked := s.solana.store.tvlLd - e.amountLd,
                       returning := (books s).returning.erase (s.solana.store.ld2sdRate * p.amountSd) } := by
      simp only [books, hrate, htvl, Multiset.map_erase_of_mem _ _ hp]
    rw [hb]
    refine .release _ hmem ?_
    rw [hsd, Nat.mul_comm, ← hamount]
    exact Nat.sub_add_cancel hle
  | @evmSend y sender params r oft h =>
    obtain ⟨e⟩ := Evm.Program.send_effect h
    have hok : Evm.Limits.BucketOk false s.evm := Evm.Limits.bucketOk_reachable hi.evm
    obtain ⟨hm, _⟩ := evmPacket_amount hok.valid e
    have hsd : (evmPacket w r).amountSd = e.amount := by
      simp only [Packet.amountSd, evmPacket, hm, Option.getD_some]
    have hsupply := Evm.Runtime.supply_erc20Burn e.burned
    have hb : books { s with evm := { s.evm with token := y }, toSolana := evmPacket w r ::ₘ s.toSolana } =
        { books s with issued := s.solana.store.ld2sdRate * y.totalSupply,
                       returning := s.solana.store.ld2sdRate * e.amount ::ₘ (books s).returning } := by
      simp only [books, Multiset.map_cons, hsd]
    rw [hb]
    refine .destroy _ ?_
    rw [← Nat.mul_add, Evm.Contract.SanOFT.totalSupply, e.ledger_eq, hsupply]
    rfl
  | @evmReceive y sender p r oft hp hr h =>
    obtain ⟨e⟩ := Evm.Program.lzReceive_effect h
    have hm := oft.readMsg_amount _ _ _ e.message_eq
    have hsd : p.amountSd = e.amount := by
      rw [Packet.amountSd, hm]
      rfl
    have hsupply := Evm.Runtime.supply_erc20Mint e.minted
    have hmem := Multiset.mem_map_of_mem (fun p => s.solana.store.ld2sdRate * p.amountSd) hp
    have hb : books { s with evm := { s.evm with token := y }, toRobinhood := s.toRobinhood.erase p } =
        { books s with issued := (books s).issued + s.solana.store.ld2sdRate * p.amountSd,
                       outgoing := (books s).outgoing.erase (s.solana.store.ld2sdRate * p.amountSd) } := by
      simp only [books, Multiset.map_erase_of_mem _ _ hp, Evm.Contract.SanOFT.totalSupply, e.ledger_eq,
        hsupply, Nat.mul_add, hsd]
    rw [hb]
    exact .issue _ hmem

theorem tvl_lt_step (hi : Invariant w s) (h : Step w s l t) : t.solana.store.tvlLd < 2 ^ 64 := by
  have hlt := hi.tvl_lt
  cases h with
  | @solana y e hl h =>
    rw [localSolana_tvl hl h]
    exact hlt
  | @solanaSend y accounts params r oapp h =>
    obtain ⟨e⟩ := Solana.Effects.send_effect h
    rw [e.tvl_eq hi.adapter]
    exact (e.debited.adapter hi.adapter).1
  | @solanaReceive y accounts p r oapp hp hr h =>
    obtain ⟨e⟩ := Solana.Effects.lzReceive_effect h
    rw [(e.tvl_eq hi.adapter).2]
    exact (Nat.sub_le _ _).trans_lt hlt
  | evm _ _ | evmSend _ _ | evmReceive _ _ _ _ => exact hlt

/-- What a step puts on its way can be read where it arrives. -/
theorem readable_step (h : Step w s l t) :
    (∀ p ∈ t.toRobinhood, p ∈ s.toRobinhood ∨ (Solana.MsgCodec.amountSd p.message).isSome) ∧
    ∀ p ∈ t.toSolana, p ∈ s.toSolana ∨ (Solana.MsgCodec.amountSd p.message).isSome := by
  cases h with
  | @solanaSend y accounts params r oapp h =>
    obtain ⟨e⟩ := Solana.Effects.send_effect h
    refine ⟨fun p hp => ?_, fun p hp => .inl hp⟩
    rcases Multiset.mem_cons.mp hp with rfl | hp
    · right
      rw [show (solanaPacket s.solana r).message = r.packet.message from rfl, e.message_eq,
        Solana.MsgCodec.amountSd_encode_mod]
      rfl
    · exact .inl hp
  | @evmSend y sender params r oft h =>
    obtain ⟨e⟩ := Evm.Program.send_effect h
    refine ⟨fun p hp => .inl hp, fun p hp => ?_⟩
    rcases Multiset.mem_cons.mp hp with rfl | hp
    · right
      rw [show (evmPacket w r).message = r.message from rfl, oft.buildMsg_amount _ _ _ _ e.message_eq]
      rfl
    · exact .inl hp
  | solanaReceive oapp hp hr h => exact ⟨fun p hp => .inl hp, fun p hp => .inl (Multiset.mem_of_mem_erase hp)⟩
  | evmReceive oft hp _ h => exact ⟨fun p hp => .inl (Multiset.mem_of_mem_erase hp), fun p hp => .inl hp⟩
  | solana _ _ | evm _ _ => exact ⟨fun p hp => .inl hp, fun p hp => .inl hp⟩

theorem invariant_step (hi : Invariant w s) (h : Step w s l t) : Invariant w t where
  solana := by
    rcases solana_step h with he | ⟨e, he, _⟩
    · rw [he]
      exact hi.solana
    · exact hi.solana.tail he
  evm := by
    rcases evm_step h with he | ⟨e, he, _⟩
    · rw [he]
      exact hi.evm
    · exact hi.evm.tail he
  adapter := (same_identity h).oftType.trans hi.adapter
  tvl_lt := tvl_lt_step hi h
  readable p hp := ((readable_step h).2 p hp).elim (hi.readable p) id
  balanced := (step_move hi h).balanced hi.balanced

theorem invariant_initial (h : Initial w s) : Invariant w s where
  solana := ⟨s.solana, h.solana, Reaches.refl _⟩
  evm := ⟨s.evm, h.evm, Reaches.refl _⟩
  adapter := h.adapter
  tvl_lt := by
    rw [(Solana.Program.initial_effect h.solana).tvl_zero]
    decide
  readable := by simp [h.toSolana]
  balanced := by
    have hz := (Solana.Program.initial_effect h.solana).tvl_zero
    have hs := (Evm.Program.initial_effect h.evm).supply_zero
    simp [Library.LockMint.Balanced, books, h.toRobinhood, h.toSolana, hz, hs]

theorem invariant_reachable (h : Reachable w s) : Invariant w s := by
  obtain ⟨s₀, hi, hr⟩ := h
  exact hr.invariant (fun _ _ _ hi hs => invariant_step hi hs) (invariant_initial hi)

/-- Value is conserved across the two chains and the messages between them, so
whatever is on its way back to Solana can be paid out. -/
theorem value_conserved (h : Reachable w s) :
    s.solana.store.tvlLd = s.solana.store.ld2sdRate *
      (s.evm.token.totalSupply + (inFlight s.toRobinhood + inFlight s.toSolana)) ∧
    s.evm.token.totalSupply * s.solana.store.ld2sdRate ≤ s.solana.store.tvlLd ∧
    ∀ p ∈ s.toSolana, ∃ amountSd amountLd, Solana.MsgCodec.amountSd p.message = some amountSd ∧
      s.solana.store.sd2ld amountSd = .ok amountLd ∧ amountLd ≤ s.solana.store.tvlLd ∧
      amountLd ≤ s.solana.escrow := by
  have hi := invariant_reachable h
  have hb := hi.balanced
  refine ⟨?_, ?_, fun p hp => ?_⟩
  · rw [inFlight, inFlight, Nat.mul_add, Nat.mul_add, ← Multiset.sum_map_mul_left,
      ← Multiset.sum_map_mul_left, ← Nat.add_assoc]
    exact hb
  · rw [Nat.mul_comm]
    exact hb.issued_le
  · have hle : s.solana.store.ld2sdRate * p.amountSd ≤ s.solana.store.tvlLd :=
      hb.returning_le (Multiset.mem_map_of_mem _ hp)
    have hlt := hi.tvl_lt
    have hc := (Solana.Custody.invariant_reachable hi.solana).backed hi.adapter
    obtain ⟨amountSd, ha⟩ := Option.isSome_iff_exists.mp (hi.readable p hp)
    have hsd : p.amountSd = amountSd := by
      rw [Packet.amountSd, ha]
      rfl
    rw [hsd, Nat.mul_comm] at hle
    exact ⟨amountSd, amountSd * s.solana.store.ld2sdRate, ha, mul_eq_ok.mpr ⟨by omega, rfl⟩, hle,
      hle.trans hc⟩

theorem value_conserved_sent : sentState.solana.store.tvlLd = sentState.solana.store.ld2sdRate *
    (sentState.evm.token.totalSupply + (inFlight sentState.toRobinhood + inFlight sentState.toSolana)) :=
  (value_conserved reachable_sent).1

end SanBridge.System.Conservation
