import SanBridge.Library.Matching
import SanBridge.Solana.ReceiveTypes
import SanBridge.System.Delivery

namespace SanBridge.System.Channels

open Library.BigEndian Library.Checked Library.Matching Library.Runs
open Solana.Runtime Solana.State Solana.Instructions System.Bridge System.Routing System.Conservation System.Delivery

/-- What an event tells about a transfer: its GUID and its amount in the local decimals of the store. -/
abbrev Notice := Evm.Runtime.Bytes32 × Nat

def notice (rate : Nat) (p : Packet) : Notice := (p.guid, rate * p.amountSd)

def sentFromSolana : State × Label → Multiset Notice
  | (_, .solanaSend _ _ r) => {(r.event.guid, r.event.amountReceivedLd)}
  | _ => 0

def receivedOnRobinhood (rate : Nat) : State × Label → Multiset Notice
  | (_, .evmReceive _ _ r) => {(r.guid, rate * r.amountReceivedLD)}
  | _ => 0

def sentFromRobinhood (rate : Nat) : State × Label → Multiset Notice
  | (_, .evmSend _ _ r) => {(r.event.guid, rate * r.event.amountReceivedLD)}
  | _ => 0

def carried (s : StoreState) (message : Bytes) : Nat :=
  s.store.ld2sdRate * (Solana.MsgCodec.amountSd message).getD 0

/-- What the token program withholds when a message is paid out in a state. -/
def withheld (s : StoreState) (message : Bytes) : Nat := s.mint.epochFee s.clock.epoch (carried s message)

/-- The `OFTReceived` of the store, with what was withheld from it. -/
def receivedOnSolana : State × Label → Multiset Notice
  | (s, .solanaReceive _ p r) => {(r.guid, r.amountReceivedLd + withheld s.solana p.message)}
  | _ => 0

variable {w : Wiring} {s t : State} {l : Label} {rate : Nat}

/-- What the value of the two channels depends on. -/
def Kept (w : Wiring) (rate : Nat) (s : State) : Prop :=
  Invariant w s ∧ s.solana.store.ld2sdRate = rate

theorem kept_step (hk : Kept w rate s) (h : Step w s l t) : Kept w rate t :=
  ⟨invariant_step hk.1 h, (same_identity h).rate.trans hk.2⟩

theorem map_erase {q : Multiset Packet} {p : Packet} (hp : p ∈ q) :
    q.map (notice rate) = (q.erase p).map (notice rate) + {notice rate p} := by
  rw [← Multiset.cons_erase hp, Multiset.map_cons, Multiset.erase_cons_head, add_comm]
  rfl

theorem solanaSend_notice {x y : StoreState} {oapp : Oapp} {accounts : SendAccounts} {params : SendParams}
    {r : SendResult} (ht : x.store.oftType = .adapter)
    (e : Solana.Effects.SendEffect oapp accounts params x y r) :
    (r.event.guid, r.event.amountReceivedLd) = notice x.store.ld2sdRate (solanaPacket x r) := by
  rw [notice, solanaPacket_amount ht e, e.event_eq]
  rfl

theorem evmReceive_notice {oft : Evm.Base.OFT} {now : Nat} {sender : Evm.Runtime.Address} {p : Packet}
    {x y : Evm.Contract.SanOFT} {r : Evm.Contract.OFTReceived}
    (h : Evm.Contract.lzReceive oft now sender (p.origin w) p.guid p.message x = .ok (y, r)) :
    (r.guid, rate * r.amountReceivedLD) = notice rate p := by
  obtain ⟨toAddress, amount, hm, rfl⟩ := Evm.Program.lzReceive_event h
  rw [notice, Packet.amountSd, oft.readMsg_amount _ _ _ hm]
  rfl

theorem evmSend_notice {oft : Evm.Base.OFT} {now : Nat} {sender : Evm.Runtime.Address}
    {params : Evm.Base.SendParam} {x y : Evm.Contract.SanOFT} {r : Evm.Contract.SendResult}
    (hv : Evm.Buckets.Valid x.outboundBucket) (e : Evm.Program.SendEffect oft now sender params x y r) :
    (r.event.guid, rate * r.event.amountReceivedLD) = notice rate (evmPacket w r) := by
  obtain ⟨hm, _⟩ := evmPacket_amount hv e
  rw [notice, Packet.amountSd, show (evmPacket w r).message = r.message from rfl, hm, e.event_eq]
  rfl

theorem solanaReceive_amount {space : AddressSpace} {x y : StoreState} {oapp : Oapp} {accounts : LzReceiveAccounts}
    {params : LzReceiveParams} {r : OFTReceived} (ht : x.store.oftType = .adapter)
    (h : lzReceive space oapp accounts params x = .ok (y, r)) :
    r.guid = params.guid ∧ r.amountReceivedLd + withheld x params.message = carried x params.message := by
  obtain ⟨compose, hrequest⟩ := Solana.ReceiveTypes.lzReceive_request h
  obtain ⟨toAddress, amountSd, amountLd, arrived, hreads⟩ := Solana.ReceiveTypes.lzReceiveRequest_reads hrequest
  obtain ⟨_, hamount⟩ := mul_eq_ok.mp hreads.amountLd_eq
  have hcarried : carried x params.message = amountLd := by
    rw [carried, hreads.amountSd_eq, Nat.mul_comm]
    exact hamount.symm
  have harrived := hreads.arrived_eq
  rw [Solana.ReceiveTypes.plannedAmount, ht] at harrived
  dsimp only at harrived
  rw [Solana.Amounts.getPostFeeAmountLd_eq, Except.ok.injEq] at harrived
  have hle := x.mint.epochFee_le x.clock.epoch amountLd
  refine ⟨by rw [hreads.event_eq], ?_⟩
  rw [hreads.event_eq, withheld, hcarried, ← harrived]
  exact Nat.sub_add_cancel hle

theorem solanaReceive_notice {x y : StoreState} {oapp : Oapp} {accounts : LzReceiveAccounts} {p : Packet}
    {r : OFTReceived} (ht : x.store.oftType = .adapter)
    (h : lzReceive w.space oapp accounts (p.solanaParams w) x = .ok (y, r)) :
    (r.guid, r.amountReceivedLd + withheld x p.message) = notice x.store.ld2sdRate p := by
  obtain ⟨hguid, hamount⟩ := solanaReceive_amount ht h
  exact Prod.ext hguid hamount

theorem robinhood_step (hk : Kept w rate s) (h : Step w s l t) :
    s.toRobinhood.map (notice rate) + sentFromSolana (s, l) =
      t.toRobinhood.map (notice rate) + receivedOnRobinhood rate (s, l) := by
  obtain ⟨hi, rfl⟩ := hk
  cases h with
  | @solanaSend y accounts params r oapp h =>
    obtain ⟨e⟩ := Solana.Effects.send_effect h
    simp only [sentFromSolana, receivedOnRobinhood, solanaSend_notice hi.adapter e, Multiset.map_cons, add_zero]
    exact add_comm _ _
  | evmReceive oft hp hr h =>
    simp only [sentFromSolana, receivedOnRobinhood, evmReceive_notice h, add_zero]
    exact map_erase hp
  | solana _ _ | evm _ _ | solanaReceive _ _ _ _ | evmSend _ _ => rfl

theorem solana_step (hk : Kept w rate s) (h : Step w s l t) :
    s.toSolana.map (notice rate) + sentFromRobinhood rate (s, l) =
      t.toSolana.map (notice rate) + receivedOnSolana (s, l) := by
  obtain ⟨hi, rfl⟩ := hk
  cases h with
  | @evmSend y sender params r oft h =>
    obtain ⟨e⟩ := Evm.Program.send_effect h
    have hok : Evm.Limits.BucketOk false s.evm := Evm.Limits.bucketOk_reachable hi.evm
    have hn : (r.event.guid, _) = notice s.solana.store.ld2sdRate (evmPacket w r) := evmSend_notice hok.valid e
    simp only [sentFromRobinhood, receivedOnSolana, hn, Multiset.map_cons, add_zero]
    exact add_comm _ _
  | solanaReceive oapp hp hr h =>
    simp only [sentFromRobinhood, receivedOnSolana, solanaReceive_notice hi.adapter h, add_zero]
    exact map_erase hp
  | solana _ _ | evm _ _ | solanaSend _ _ | evmReceive _ _ _ _ => rfl

theorem channels_run {s₀ : State} {tr : List (State × Label)} (hi : Initial w s₀) (h : Run (Step w) s₀ tr s) :
    total sentFromSolana tr = total (receivedOnRobinhood s₀.solana.store.ld2sdRate) tr +
      s.toRobinhood.map (notice s₀.solana.store.ld2sdRate) ∧
    total (sentFromRobinhood s₀.solana.store.ld2sdRate) tr = total receivedOnSolana tr +
      s.toSolana.map (notice s₀.solana.store.ld2sdRate) := by
  have hk : Kept w s₀.solana.store.ld2sdRate s₀ := ⟨invariant_initial hi, rfl⟩
  have hrobinhood := h.account (I := Kept w s₀.solana.store.ld2sdRate)
    (fun s => s.toRobinhood.map (notice s₀.solana.store.ld2sdRate)) sentFromSolana
    (receivedOnRobinhood s₀.solana.store.ld2sdRate) (fun _ _ _ hk hs => kept_step hk hs)
    (fun _ _ _ hk hs => robinhood_step hk hs) hk
  have hsolana := h.account (I := Kept w s₀.solana.store.ld2sdRate)
    (fun s => s.toSolana.map (notice s₀.solana.store.ld2sdRate))
    (sentFromRobinhood s₀.solana.store.ld2sdRate) receivedOnSolana (fun _ _ _ hk hs => kept_step hk hs)
    (fun _ _ _ hk hs => solana_step hk hs) hk
  simp only [hi.toRobinhood, hi.toSolana, Multiset.map_zero, zero_add] at hrobinhood hsolana
  exact ⟨hrobinhood.trans (add_comm _ _), hsolana.trans (add_comm _ _)⟩

def unreceived (sent received : Multiset Notice) : Multiset Notice :=
  sent.filter fun n => n.1 ∉ received.map Prod.fst

/-- What the events of two chains say about a channel is what it holds: no
transfer is received that was not sent, none twice and none with another amount,
and those in flight are the ones sent and not received. -/
structure Reconciled (sent received flight : Multiset Notice) : Prop where
  received_le : received ≤ sent
  once : (received.map Prod.fst).Nodup
  flight_eq : flight = unreceived sent received

theorem reconciled_of_account {sent received flight : Multiset Notice} (h : sent = received + flight)
    (hn : (sent.map Prod.fst).Nodup) : Reconciled sent received flight where
  received_le := h ▸ Multiset.le_add_right _ _
  once := nodup_closed h hn
  flight_eq := pending_eq_filter h hn

def value (q : Multiset Notice) : Nat := (q.map Prod.snd).sum

theorem value_notice (rate : Nat) (q : Multiset Packet) : value (q.map (notice rate)) = rate * inFlight q := by
  rw [value, Multiset.map_map, inFlight, ← Multiset.sum_map_mul_left]
  rfl

structure Events where
  sentFromSolana : Multiset Notice
  receivedOnRobinhood : Multiset Notice
  sentFromRobinhood : Multiset Notice
  receivedOnSolana : Multiset Notice

def Events.add (e f : Events) : Events where
  sentFromSolana := e.sentFromSolana + f.sentFromSolana
  receivedOnRobinhood := e.receivedOnRobinhood + f.receivedOnRobinhood
  sentFromRobinhood := e.sentFromRobinhood + f.sentFromRobinhood
  receivedOnSolana := e.receivedOnSolana + f.receivedOnSolana

def eventsOf (rate : Nat) (tr : List (State × Label)) : Events where
  sentFromSolana := total sentFromSolana tr
  receivedOnRobinhood := total (receivedOnRobinhood rate) tr
  sentFromRobinhood := total (sentFromRobinhood rate) tr
  receivedOnSolana := total receivedOnSolana tr

/-- The Endpoints give every message of a direction a GUID of its own. -/
structure Events.Distinct (e : Events) : Prop where
  solana : (e.sentFromSolana.map Prod.fst).Nodup
  robinhood : (e.sentFromRobinhood.map Prod.fst).Nodup

/-- The events of the two chains account for every transfer and for the value
that backs it, at whatever point of a run the chains are read. -/
theorem events_reconcile {s₀ : State} {tr : List (State × Label)} {e : Events} (hi : Initial w s₀)
    (h : Run (Step w) s₀ tr s) (he : eventsOf s.solana.store.ld2sdRate tr = e) (hd : e.Distinct) :
    Reconciled e.sentFromSolana e.receivedOnRobinhood (s.toRobinhood.map (notice s.solana.store.ld2sdRate)) ∧
    Reconciled e.sentFromRobinhood e.receivedOnSolana (s.toSolana.map (notice s.solana.store.ld2sdRate)) ∧
    s.solana.store.tvlLd = s.solana.store.ld2sdRate * s.evm.token.totalSupply +
      value (unreceived e.sentFromSolana e.receivedOnRobinhood) +
      value (unreceived e.sentFromRobinhood e.receivedOnSolana) := by
  subst he
  have hrate := rate_run h
  obtain ⟨hr, hs⟩ := channels_run hi h
  rw [← hrate] at hr hs
  have hrobinhood := reconciled_of_account hr hd.solana
  have hsolana := reconciled_of_account hs hd.robinhood
  have hbalanced : s.solana.store.tvlLd = _ + _ + _ :=
    (h.invariant (fun _ _ _ hi hs => invariant_step hi hs) (invariant_initial hi)).balanced
  refine ⟨hrobinhood, hsolana, ?_⟩
  have hout := value_notice s.solana.store.ld2sdRate s.toRobinhood
  have hin := value_notice s.solana.store.ld2sdRate s.toSolana
  rw [hrobinhood.flight_eq, inFlight, ← Multiset.sum_map_mul_left] at hout
  rw [hsolana.flight_eq, inFlight, ← Multiset.sum_map_mul_left] at hin
  rw [hbalanced]
  exact congrArg₂ (_ + · + ·) hout.symm hin.symm

theorem events_sent : ∃ tr, Run (Step sampleWiring) (sampleState Solana.Program.sampleStore) tr sentState ∧
    eventsOf 1 tr = ⟨{(Solana.Program.pubkey 7, 100)}, 0, 0, 0⟩ := by
  obtain ⟨tr, h, hl⟩ := run_matched
  have hlocal : ∀ cost : State × Label → Multiset Notice, (∀ x l, cost (x, .solana l) = 0) → total cost tr = 0 := by
    intro cost hc
    refine List.sum_eq_zero fun n hn => ?_
    obtain ⟨⟨x, l⟩, hq, rfl⟩ := List.mem_map.mp hn
    obtain ⟨l, rfl⟩ := hl _ hq
    exact hc x l
  refine ⟨_, h.append (Run.single step_sent), ?_⟩
  rw [eventsOf, total_append, total_append, total_append, total_append, hlocal sentFromSolana fun _ _ => rfl,
    hlocal (receivedOnRobinhood 1) fun _ _ => rfl, hlocal (sentFromRobinhood 1) fun _ _ => rfl,
    hlocal receivedOnSolana fun _ _ => rfl]
  rfl

/-- The 100 tokens of the first transfer are all that is unreceived. -/
theorem events_reconcile_sent : ∃ tr e, Run (Step sampleWiring) (sampleState Solana.Program.sampleStore) tr sentState ∧
    eventsOf 1 tr = e ∧ e.sentFromSolana = {(Solana.Program.pubkey 7, 100)} ∧
    Reconciled e.sentFromSolana e.receivedOnRobinhood {notice 1 (solanaPacket matchedStore sampleResult)} := by
  obtain ⟨tr, h, he⟩ := events_sent
  exact ⟨tr, _, h, he, rfl, (events_reconcile initial_sampleState h he ⟨by simp, by simp⟩).1⟩

end SanBridge.System.Channels
