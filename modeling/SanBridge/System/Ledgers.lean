import SanBridge.System.Channels

namespace SanBridge.System.Ledgers

open Library.Checked Library.Runs Solana.Runtime Solana.State Solana.Instructions System.Channels

theorem value_add (p q : Multiset Notice) : value (p + q) = value p + value q := by
  rw [value, Multiset.map_add, Multiset.sum_add]
  rfl

theorem value_total {S L : Type} (f : S × L → Multiset Notice) (tr : List (S × L)) :
    value (total f tr) = total (fun p => value (f p)) tr := by
  induction tr with
  | nil => rfl
  | cons p tr ih => rw [total_cons, total_cons, value_add, ih]

section Solana

open Solana.Program

def sentByStore : StoreState × Event → Multiset Notice
  | (_, .call (.send _ _) (.sent r)) => {(r.event.guid, r.event.amountReceivedLd)}
  | _ => 0

/-- The `OFTReceived` of a store on its own chain, with what was withheld from it. -/
def receivedByStore : StoreState × Event → Multiset Notice
  | (s, .call (.lzReceive _ params) (.received r)) =>
    {(r.guid, r.amountReceivedLd + withheld s params.message)}
  | _ => 0

variable {space : AddressSpace} {s t : StoreState} {l : Event}

/-- What is locked moves with the events and with nothing else. -/
theorem tvl_step (ht : s.store.oftType = .adapter) (h : Step space s l t) :
    s.store.tvlLd + value (sentByStore (s, l)) = t.store.tvlLd + value (receivedByStore (s, l)) := by
  cases h with
  | @call _ c o oapp h =>
    cases c with
    | send accounts params =>
      obtain ⟨r, hsend, rfl⟩ := exec_send.mp h
      obtain ⟨e⟩ := Solana.Effects.send_effect hsend
      rw [e.tvl_eq ht]
      simp [sentByStore, receivedByStore, value, e.event_eq]
    | lzReceive accounts params =>
      obtain ⟨r, hreceive, rfl⟩ := exec_lzReceive.mp h
      obtain ⟨_, hamount⟩ := solanaReceive_amount ht hreceive
      obtain ⟨e⟩ := Solana.Effects.lzReceive_effect hreceive
      obtain ⟨hle, htvl⟩ := e.tvl_eq ht
      obtain ⟨_, hld⟩ := mul_eq_ok.mp e.amountLd_eq
      have hcarried : carried s params.message = e.amountLd := by
        rw [carried, e.amountSd_eq, Nat.mul_comm]
        exact hld.symm
      rw [htvl]
      simp only [sentByStore, receivedByStore, hamount, hcarried, value, Multiset.map_zero, Multiset.sum_zero,
        Multiset.map_singleton, Multiset.sum_singleton]
      omega
    | withdrawFee accounts feeLd =>
      obtain ⟨hw, rfl⟩ := exec_withdrawFee.mp h
      rw [(Solana.Custody.withdrawFee_surplus hw).1]
      rfl
    | setOftConfig _ _ | setPeerConfig _ _ | setPause _ _ | quoteOft _ | quoteSend _ =>
      rw [(exec_sameFunds rfl h).tvl]
      rfl
  | aborted _ _ | tokens _ _ _ | mint _ _ | clock _ => rfl

theorem tvl_run {tr : List (StoreState × Event)} (hi : Initial space s) (ht : s.store.oftType = .adapter)
    (h : Run (Step space) s tr t) :
    t.store.tvlLd + value (total receivedByStore tr) = value (total sentByStore tr) := by
  have ha := h.account (I := fun s => s.store.oftType = .adapter) (fun s => s.store.tvlLd)
    (fun p => value (sentByStore p)) (fun p => value (receivedByStore p))
    (fun s l t hs hstep => hstep.sameIdentity.oftType.trans hs) (fun s l t hs hstep => tvl_step hs hstep) ht
  rw [(initial_effect hi).tvl_zero, zero_add] at ha
  rw [value_total, value_total]
  exact ha.symm

end Solana

section Robinhood

open Evm.Program

def sentBySanOft : Chain × Event → Multiset Notice
  | (_, .call _ (.send _) (.sent r)) => {(r.event.guid, r.event.amountReceivedLD)}
  | _ => 0

def receivedBySanOft : Chain × Event → Multiset Notice
  | (_, .call _ (.lzReceive _ _ _) (.received r)) => {(r.guid, r.amountReceivedLD)}
  | _ => 0

variable {s t : Chain} {l : Event}

theorem supply_step (h : Step s l t) :
    s.token.totalSupply + value (receivedBySanOft (s, l)) = t.token.totalSupply + value (sentBySanOft (s, l)) := by
  have hs := Evm.Limits.supply_step h
  cases h with
  | call oft h => cases exec_effect h <;> exact hs.symm
  | reverted _ _ | time _ _ => rfl

theorem supply_run {tr : List (Chain × Event)} (hi : Initial s) (h : Run Step s tr t) :
    t.token.totalSupply + value (total sentBySanOft tr) = value (total receivedBySanOft tr) := by
  have ha := h.account (I := fun _ => True) (fun s => s.token.totalSupply)
    (fun p => value (receivedBySanOft p)) (fun p => value (sentBySanOft p))
    (fun _ _ _ _ _ => trivial) (fun s l t _ hstep => supply_step hstep) trivial
  rw [(initial_effect hi).supply_zero, zero_add] at ha
  rw [value_total, value_total]
  exact ha.symm

end Robinhood

section Projection

open System.Bridge

variable {w : Wiring} {s t : State} {l : Label}

theorem localSolana_emits {x : StoreState} {e : Solana.Program.Event} (hl : localSolana w e) :
    sentByStore (x, e) = 0 ∧ receivedByStore (x, e) = 0 := by
  cases e with
  | call c o =>
    cases c with
    | send _ _ | lzReceive _ _ => exact hl.elim
    | _ => exact ⟨rfl, rfl⟩
  | _ => exact ⟨rfl, rfl⟩

theorem localEvm_emits {x : Evm.Program.Chain} {e : Evm.Program.Event} (hl : localEvm w e) :
    sentBySanOft (x, e) = 0 ∧ receivedBySanOft (x, e) = 0 := by
  cases e with
  | call sender c o =>
    cases c with
    | send _ | lzReceive _ _ _ => exact hl.elim
    | _ => exact ⟨rfl, rfl⟩
  | _ => exact ⟨rfl, rfl⟩

/-- What a step of the bridge emits, the chain it is taken on emits on its own. -/
theorem step_projected (h : Step w s l t) : ∃ xs ys, Run (Solana.Program.Step w.space) s.solana xs t.solana ∧
    Run Evm.Program.Step s.evm ys t.evm ∧ eventsOf 1 [(s, l)] =
      ⟨total sentByStore xs, total receivedBySanOft ys, total sentBySanOft ys, total receivedByStore xs⟩ := by
  cases h with
  | @solana y e hl h =>
    obtain ⟨hsent, hreceived⟩ := localSolana_emits (x := s.solana) hl
    refine ⟨_, [], .single h, .nil _, ?_⟩
    simp [eventsOf, hsent, hreceived, sentFromSolana, receivedOnRobinhood, sentFromRobinhood, receivedOnSolana]
  | @evm y e hl h =>
    obtain ⟨hsent, hreceived⟩ := localEvm_emits (x := s.evm) hl
    refine ⟨[], _, .nil _, .single h, ?_⟩
    simp [eventsOf, hsent, hreceived, sentFromSolana, receivedOnRobinhood, sentFromRobinhood, receivedOnSolana]
  | @solanaSend y accounts params r oapp h =>
    exact ⟨_, [], .single (.call oapp (Solana.Program.exec_send.mpr ⟨r, h, rfl⟩)), .nil _, rfl⟩
  | @solanaReceive y accounts p r oapp hp hr h =>
    exact ⟨_, [], .single (.call oapp (Solana.Program.exec_lzReceive.mpr ⟨r, h, rfl⟩)), .nil _, rfl⟩
  | @evmSend y sender params r oft h =>
    refine ⟨[], _, .nil _, .single (.call oft (Evm.Program.exec_send.mpr ⟨_, r, h, rfl, rfl⟩)), ?_⟩
    simp [eventsOf, sentFromSolana, receivedOnRobinhood, sentFromRobinhood, receivedOnSolana, sentBySanOft,
      receivedBySanOft]
  | @evmReceive y sender p r oft hp hr h =>
    refine ⟨[], _, .nil _, .single (.call oft (Evm.Program.exec_lzReceive.mpr ⟨_, r, h, rfl, rfl⟩)), ?_⟩
    simp [eventsOf, sentFromSolana, receivedOnRobinhood, sentFromRobinhood, receivedOnSolana, sentBySanOft,
      receivedBySanOft]

theorem run_projected {tr : List (State × Label)} (h : Run (Step w) s tr t) : ∃ xs ys,
    Run (Solana.Program.Step w.space) s.solana xs t.solana ∧ Run Evm.Program.Step s.evm ys t.evm ∧
    eventsOf 1 tr =
      ⟨total sentByStore xs, total receivedBySanOft ys, total sentBySanOft ys, total receivedByStore xs⟩ := by
  induction h with
  | nil s => exact ⟨[], [], .nil _, .nil _, rfl⟩
  | @cons s t u l tr hs _ ih =>
    obtain ⟨xs, ys, hx, hy, he⟩ := step_projected hs
    obtain ⟨xs', ys', hx', hy', he'⟩ := ih
    refine ⟨xs ++ xs', ys ++ ys', hx.append hx', hy.append hy', ?_⟩
    simp only [eventsOf, Events.mk.injEq, total_append, total_cons, total_nil, add_zero] at he he' ⊢
    simp only [he, he', and_self]

end Projection

end SanBridge.System.Ledgers
