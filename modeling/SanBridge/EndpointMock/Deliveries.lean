import SanBridge.EndpointMock.Authorization
import SanBridge.System.Redemption

namespace SanBridge.EndpointMock.Deliveries

open Library.BigEndian Library.Checked Library.OneTime Library.Runs
open Solana.Runtime Solana.State Solana.Instructions Solana.Effects
open EndpointMock.Instructions (Endpoint EndpointError Syscalls AuthorizeMessageParams)
open EndpointMock.Authorization (packets counted counted_run authority_registered clear_authorized)

def answer {α : Type} : Except EndpointError α → Result α
  | .ok a => .ok a
  | .error _ => .error .endpoint

/-- The answers a store gets when its Endpoint program is the mock. The crate signs for the
store; the mock has no instruction to change a delegate or to queue a composed message. -/
def mockOapp (sys : Syscalls) (crate : Oapp) (store : Pubkey) (e : Endpoint) : Oapp where
  endpointId := crate.endpointId
  clearMinAccountsLen := crate.clearMinAccountsLen
  registerOapp _ delegate := answer (do
    let _ ← Instructions.registerOapp sys store delegate e
    .ok ())
  setDelegate _ _ := .error .endpoint
  send _ params := answer (do
    let (_, receipt) ← Instructions.send sys store params e
    .ok ⟨receipt.guid, receipt.nonce⟩)
  quote _ params := answer (Instructions.quote params)
  clear _ params := answer (do
    let _ ← Instructions.clear sys store params e
    .ok ())
  sendCompose _ _ := .error .endpoint
  combineOptions := crate.combineOptions
  assertType3 := crate.assertType3
  mintAuthoritySigned := crate.mintAuthoritySigned

structure State where
  store : StoreState
  endpoint : Endpoint

def clearParams (store : Pubkey) (params : LzReceiveParams) : ClearParams where
  receiver := store
  srcEid := params.srcEid
  sender := params.sender
  nonce := params.nonce
  guid := params.guid
  message := params.message

/-- The instruction of the mock that an instruction of the store invokes, with its effect. -/
def invoked (sys : Syscalls) (store : Pubkey) : Solana.Program.Event → Option (Program.Call × Program.Outcome)
  | .call (.send _ _) (.sent r) => some (.send store r.packet, .sent ⟨r.receipt.guid, r.receipt.nonce, ⟨0, 0⟩⟩)
  | .call (.lzReceive _ params) _ => some (.clear store (clearParams store params),
    .cleared (sys.hashv [params.guid.toList, params.message]))
  | _ => none

def signedBy (key : Pubkey) : Program.Event → Bool
  | .call c _ | .aborted c _ =>
    match c with
    | .registerOapp signer _ | .authorizeMessage signer _ | .send signer _ | .setMockConfig signer _ _
    | .initMockPacketCounter signer _ | .clear signer _ => signer == key
    | .quote _ => false

inductive Label
  | store (l : Solana.Program.Event)
  | endpoint (l : Program.Event)

/-- Instructions of the store, with what they do to the mock, and instructions of the mock
in any order. The address of the store signs only inside calls the store itself makes. -/
inductive Step (space : AddressSpace) (sys : Syscalls) : State → Label → State → Prop
  | alone {s : State} {t : StoreState} {c : Solana.Program.Call} {o : Solana.Program.Outcome} (crate : Oapp)
      (h : Solana.Program.exec space (mockOapp sys crate s.store.key s.endpoint) s.store c = .ok (t, o))
      (hi : invoked sys s.store.key (.call c o) = none) :
      Step space sys s (.store (.call c o)) { s with store := t }
  | invoke {s : State} {t : StoreState} {e : Endpoint} {c : Solana.Program.Call} {o : Solana.Program.Outcome}
      {m : Program.Call} {r : Program.Outcome} (crate : Oapp)
      (h : Solana.Program.exec space (mockOapp sys crate s.store.key s.endpoint) s.store c = .ok (t, o))
      (hi : invoked sys s.store.key (.call c o) = some (m, r)) (hm : Program.exec sys s.endpoint m = .ok (e, r)) :
      Step space sys s (.store (.call c o)) ⟨t, e⟩
  | surroundings {s : State} {t : StoreState} {l : Solana.Program.Event} (hl : ∀ c o, l ≠ .call c o)
      (h : Solana.Program.Step space s.store l t) : Step space sys s (.store l) { s with store := t }
  | endpoint {s : State} {e : Endpoint} {l : Program.Event} (hl : signedBy s.store.key l = false)
      (h : Program.Step sys s.endpoint l e) : Step space sys s (.endpoint l) { s with endpoint := e }

/-- A store just initialized, against a mock that others may have used before. The admin
becomes the delegate. -/
def Launched (space : AddressSpace) (sys : Syscalls) (delegate : Pubkey) (s : State) : Prop :=
  ∃ e tr crate tokenMint tokenEscrow m t clock params, Run (Program.Step sys) .empty tr e ∧
    (∀ p ∈ tr, signedBy s.store.key p.2 = false) ∧ params.admin = delegate ∧
    initOft space (mockOapp sys crate s.store.key e) tokenMint tokenEscrow m t clock params = .ok s.store ∧
    Instructions.registerOapp sys s.store.key delegate e = .ok s.endpoint

variable {space : AddressSpace} {sys : Syscalls} {crate : Oapp} {e : Endpoint} {s s' : State} {l : Label}

theorem answer_eq_ok {α : Type} {r : Except EndpointError α} {a : α} : answer r = .ok a ↔ r = .ok a := by
  cases r with
  | ok b => simp [answer]
  | error err => simp [answer]

section Invoked

variable {t : StoreState} {store : StoreState} {c : Solana.Program.Call} {o : Solana.Program.Outcome}

theorem lzReceive_cleared {oapp : Oapp} {accounts : LzReceiveAccounts} {params : LzReceiveParams} {r : OFTReceived}
    (h : lzReceive space oapp accounts params store = .ok (t, r)) :
    oapp.clear store.store.endpointProgram (clearParams store.key params) = .ok () := by
  obtain ⟨_, _, h⟩ := bind_eq_ok.mp h
  obtain ⟨_, _, h⟩ := bind_eq_ok.mp h
  obtain ⟨_, _, h⟩ := bind_eq_ok.mp h
  obtain ⟨_, _, h⟩ := bind_eq_ok.mp h
  obtain ⟨_, _, h⟩ := bind_eq_ok.mp h
  obtain ⟨_, _, h⟩ := bind_eq_ok.mp h
  obtain ⟨_, _, h⟩ := bind_eq_ok.mp h
  obtain ⟨_, _, h⟩ := bind_eq_ok.mp h
  obtain ⟨_, _, h⟩ := bind_eq_ok.mp h
  obtain ⟨_, hc, _⟩ := bind_eq_ok.mp h
  exact hc

/-- What a store invokes, the mock does: an instruction that returns has its one effect on the mock. -/
theorem invoked_ok {key : Pubkey} {m : Program.Call} {r : Program.Outcome}
    (h : Solana.Program.exec space (mockOapp sys crate key e) store c = .ok (t, o))
    (hi : invoked sys key (.call c o) = some (m, r)) (hk : store.key = key) :
    ∃ e', Program.exec sys e m = .ok (e', r) := by
  subst hk
  cases c with
  | send accounts params =>
    obtain ⟨result, hsend, rfl⟩ := Solana.Program.exec_send.mp h
    obtain ⟨effect⟩ := send_effect hsend
    cases hi
    obtain ⟨⟨e', receipt⟩, hr, he⟩ := bind_eq_ok.mp (answer_eq_ok.mp effect.receipt_eq)
    have hexec : Program.exec sys e (.send store.key result.packet) = .ok (e', .sent receipt) :=
      bind_eq_ok.mpr ⟨_, hr, rfl⟩
    refine ⟨e', ?_⟩
    rw [hexec, ← Except.ok.inj he]
    cases Program.exec_effect hexec
    rfl
  | lzReceive accounts params =>
    obtain ⟨result, hreceive, rfl⟩ := Solana.Program.exec_lzReceive.mp h
    cases hi
    obtain ⟨⟨e', hash⟩, hr, -⟩ := bind_eq_ok.mp (answer_eq_ok.mp (lzReceive_cleared hreceive))
    refine ⟨e', bind_eq_ok.mpr ⟨_, hr, ?_⟩⟩
    rw [Program.clear_payloadHash hr]
    rfl
  | _ => cases hi

end Invoked

section Projection

/-- The step of the mock that a step of the two together shows as. -/
def mockStep (sys : Syscalls) (key : Pubkey) : State × Label → Option (Endpoint × Program.Event)
  | (s, .endpoint l) => some (s.endpoint, l)
  | (s, .store l) => (invoked sys key l).map fun i => (s.endpoint, .call i.1 i.2)

def delivered : State × Label → Option Pubkey
  | (_, .store (.call (.lzReceive _ params) _)) => some params.guid
  | _ => none

def sends : State × Label → Nat
  | (_, .store (.call (.send _ _) _)) => 1
  | _ => 0

theorem key_step (h : Step space sys s l s') : s'.store.key = s.store.key := by
  cases h with
  | alone crate h _ | invoke crate h _ _ => exact (Solana.Program.exec_sameIdentity h).key
  | surroundings hl h => exact h.sameIdentity.key
  | endpoint _ _ => rfl

theorem mock_step {key : Pubkey} (hk : s.store.key = key) (h : Step space sys s l s') :
    (mockStep sys key (s, l) = none ∧ s'.endpoint = s.endpoint) ∨
      ∃ m, mockStep sys key (s, l) = some (s.endpoint, m) ∧ Program.Step sys s.endpoint m s'.endpoint := by
  subst hk
  cases h with
  | alone crate h hi =>
    left
    rw [mockStep, hi]
    exact ⟨rfl, rfl⟩
  | invoke crate h hi hm =>
    right
    rw [mockStep, hi]
    exact ⟨_, rfl, .call hm⟩
  | @surroundings _ l hl h =>
    left
    refine ⟨?_, rfl⟩
    cases l with
    | call c o => exact absurd rfl (hl c o)
    | _ => rfl
  | endpoint hl h => exact .inr ⟨_, rfl, h⟩

theorem key_run {tr : List (State × Label)} (h : Run (Step space sys) s tr s') : s'.store.key = s.store.key := by
  refine h.invariant (I := fun t => t.store.key = s.store.key) ?_ rfl
  intro x l y hx hs
  exact (key_step hs).trans hx

theorem mock_run {tr : List (State × Label)} (h : Run (Step space sys) s tr s') :
    Run (Program.Step sys) s.endpoint (tr.filterMap (mockStep sys s.store.key)) s'.endpoint :=
  h.project (I := fun t => t.store.key = s.store.key) State.endpoint _ (fun _ _ _ hx hs => (key_step hs).trans hx)
    (fun _ _ _ hx hs => mock_step hx hs) rfl

theorem packets_eq_zero {key : Pubkey} {p : Endpoint × Program.Event} (h : signedBy key p.2 = false) :
    packets key p = 0 := by
  obtain ⟨e, l⟩ := p
  cases l with
  | aborted _ _ => rfl
  | call c o =>
    cases c with
    | send sender params =>
      have hne : sender ≠ key := by simpa [signedBy] using h
      simp [packets, hne]
    | _ => rfl

theorem counted_step (h : Step space sys s l s') :
    counted s.store.key s.endpoint + sends (s, l) = counted s.store.key s'.endpoint := by
  cases h with
  | alone crate h hi =>
    cases Solana.Program.exec_effect h with
    | send _ _ _ _ _ => cases hi
    | _ => rfl
  | invoke crate h hi hm =>
    rw [← Authorization.counted_step (.call hm)]
    cases Solana.Program.exec_effect h with
    | send _ _ _ _ _ =>
      cases hi
      simp [sends, packets]
    | lzReceive _ _ _ _ _ =>
      cases hi
      rfl
    | _ => cases hi
  | @surroundings _ l hl h =>
    cases l with
    | call c o => exact absurd rfl (hl c o)
    | _ => rfl
  | endpoint hl h =>
    rw [← Authorization.counted_step h, packets_eq_zero hl]
    rfl

end Projection

section Launch

variable {key delegate : Pubkey} {tr : List (Endpoint × Program.Event)}

/-- A history of the mock at whose end an OApp is registered, with no message authorized and
no packet created for it. -/
structure Prepared (sys : Syscalls) (key delegate : Pubkey) (tr : List (Endpoint × Program.Event))
    (e : Endpoint) : Prop where
  run : Run (Program.Step sys) .empty tr e
  registered : (key, delegate) ∈ tr.filterMap Program.registered
  unauthorized : ∀ authority given o, given.receiver = key →
    ¬ ∃ p ∈ tr, p.2 = .call (.authorizeMessage authority given) o
  uncounted : counted key e = 0

theorem prepared (h : Launched space sys delegate s) : ∃ tr, Prepared sys s.store.key delegate tr s.endpoint := by
  obtain ⟨e, tr, _, _, _, _, _, _, _, hrun, hsigned, _, _, hregister⟩ := h
  have hexec : Program.exec sys e (.registerOapp s.store.key delegate) = .ok (s.endpoint, .done) :=
    bind_eq_ok.mpr ⟨_, hregister, rfl⟩
  have hstep : Program.Step sys e (.call (.registerOapp s.store.key delegate) .done) s.endpoint := .call hexec
  obtain ⟨_, hnone, _⟩ := bind_eq_ok.mp hregister
  have hfree : e.oappRegistry s.store.key = none := Option.isNone_iff_eq_none.mp (require_eq_ok.mp hnone)
  refine ⟨tr ++ [_], hrun.append (.single hstep), ?_, ?_, ?_⟩
  · rw [List.filterMap_append]
    exact List.mem_append_right _ List.mem_cons_self
  · rintro authority given o hreceiver ⟨p, hp, hc⟩
    rcases List.mem_append.mp hp with hp | hp
    · have hentry := authority_registered hrun ⟨p, hp, hc⟩
      obtain ⟨c, hdelegate⟩ := ((Program.delegates_run hrun).entry _ _).mp hentry
      rw [Program.delegates, hreceiver, hfree] at hdelegate
      cases hdelegate
    · rw [List.mem_singleton.mp hp] at hc
      cases hc
  · rw [← Authorization.counted_step hstep, counted_run hrun]
    exact total_eq_zero fun p hp => packets_eq_zero (hsigned p hp)

end Launch

section Deliveries

variable {s₀ : State} {key delegate : Pubkey} {tr : List (State × Label)} {past : List (Endpoint × Program.Event)}

theorem past_run (hp : Prepared sys s₀.store.key delegate past s₀.endpoint) (h : Run (Step space sys) s₀ tr s) :
    Run (Program.Step sys) .empty (past ++ tr.filterMap (mockStep sys s₀.store.key)) s.endpoint :=
  hp.run.append (mock_run h)

theorem cleared_of_delivered (sys : Syscalls) (key : Pubkey) {p : State × Label} {guid : Pubkey}
    (h : delivered p = some guid) :
    ∃ terms, (mockStep sys key p).bind (Program.cleared sys) = some ((key, guid), terms) := by
  obtain ⟨s, l⟩ := p
  cases l with
  | endpoint l => cases h
  | store l =>
    cases l with
    | call c o =>
      cases c with
      | lzReceive accounts params =>
        cases h
        exact ⟨_, rfl⟩
      | _ => cases h
    | _ => cases h

theorem delivered_nodup (hp : Prepared sys s₀.store.key delegate past s₀.endpoint)
    (h : Run (Step space sys) s₀ tr s) : (tr.filterMap delivered).Nodup := by
  have hclosed := (Program.messages_run (past_run hp h)).closed_nodup
  rw [List.filterMap_append, List.map_append, List.filterMap_filterMap] at hclosed
  have hpairs := List.pairwise_filterMap.mp (List.pairwise_map.mp (List.nodup_append.mp hclosed).2.1)
  apply List.pairwise_filterMap.mpr
  refine hpairs.imp ?_
  intro p q hne guid hguid guid' hguid' he
  obtain ⟨terms, hterms⟩ := cleared_of_delivered sys s₀.store.key hguid
  obtain ⟨terms', hterms'⟩ := cleared_of_delivered sys s₀.store.key hguid'
  exact hne _ hterms _ hterms' (congrArg (Prod.mk s₀.store.key) he)

theorem called_after_launch {authority : Pubkey} {given : AuthorizeMessageParams}
    (hp : Prepared sys s₀.store.key delegate past s₀.endpoint) (hg : given.receiver = s₀.store.key)
    (hc : ∃ p ∈ past ++ tr.filterMap (mockStep sys s₀.store.key),
      p.2 = .call (.authorizeMessage authority given) .done) :
    ∃ p ∈ tr, p.2 = .endpoint (.call (.authorizeMessage authority given) .done) := by
  obtain ⟨p, hmem, hcall⟩ := hc
  rcases List.mem_append.mp hmem with hpast | hafter
  · exact absurd ⟨p, hpast, hcall⟩ (hp.unauthorized authority given .done hg)
  · obtain ⟨⟨x, l⟩, hq, hshow⟩ := List.mem_filterMap.mp hafter
    refine ⟨_, hq, ?_⟩
    cases l with
    | endpoint l =>
      cases hshow
      exact congrArg Label.endpoint hcall
    | store l =>
      obtain ⟨i, hi, rfl⟩ := Option.map_eq_some_iff.mp hshow
      unfold invoked at hi
      split at hi
      · cases hi
        cases hcall
      · cases hi
        cases hcall
      · cases hi

theorem delivery_authorized {before : List (State × Label)} {s₁ s₂ : State} {accounts : LzReceiveAccounts}
    {params : LzReceiveParams} {o : Solana.Program.Outcome}
    (hp : Prepared sys s₀.store.key delegate past s₀.endpoint) (hbefore : Run (Step space sys) s₀ before s₁)
    (hs : Step space sys s₁ (.store (.call (.lzReceive accounts params) o)) s₂) :
    ∃ message, (∃ p ∈ before, p.2 = .endpoint (.call (.authorizeMessage delegate
        ⟨s₀.store.key, params.srcEid, params.sender, params.nonce, params.guid, message⟩) .done)) ∧
      sys.hashv [params.guid.toList, message] = sys.hashv [params.guid.toList, params.message] := by
  have hpast := past_run hp hbefore
  rcases mock_step (key_run hbefore) hs with ⟨hnone, _⟩ | ⟨m, hm, hstep⟩
  · cases hnone
  · cases hm
    obtain ⟨_, authority, message, hcall, hhash, hregistered⟩ := clear_authorized hpast hstep
    have hdelegate : authority = delegate := by
      have hmem : (s₀.store.key, delegate) ∈
          (past ++ before.filterMap (mockStep sys s₀.store.key)).filterMap Program.registered := by
        rw [List.filterMap_append]
        exact List.mem_append_left _ hp.registered
      have hinj := List.inj_on_of_nodup_map (Program.delegates_run hpast).opened_nodup hregistered hmem rfl
      exact congrArg Prod.snd hinj
    subst hdelegate
    exact ⟨message, called_after_launch hp rfl hcall, hhash⟩

theorem counted_sends (hp : Prepared sys s₀.store.key delegate past s₀.endpoint) (h : Run (Step space sys) s₀ tr s) :
    counted s₀.store.key s.endpoint = total sends tr := by
  have haccount := h.account (I := fun t => t.store.key = s₀.store.key)
    (fun t => counted s₀.store.key t.endpoint) sends (fun _ => 0) (fun _ _ _ hx hs => (key_step hs).trans hx) ?_ rfl
  · have hzero : total (fun _ => 0 : State × Label → Nat) tr = 0 := total_eq_zero fun _ _ => rfl
    have hstart := hp.uncounted
    omega
  · intro x l y hx hs
    rw [← hx]
    exact counted_step hs

/-- What a store takes from the mock its delegate has authorized, after the launch and with
that origin, nonce and payload; it takes no message twice; and the mock counts its packets. -/
theorem deliveries_authorized (hl : Launched space sys delegate s₀) (h : Run (Step space sys) s₀ tr s) :
    (tr.filterMap delivered).Nodup ∧
      (∀ before after s₁ accounts params o,
        tr = before ++ (s₁, .store (.call (.lzReceive accounts params) o)) :: after →
        ∃ message, (∃ p ∈ before, p.2 = .endpoint (.call (.authorizeMessage delegate
            ⟨s₀.store.key, params.srcEid, params.sender, params.nonce, params.guid, message⟩) .done)) ∧
          sys.hashv [params.guid.toList, message] = sys.hashv [params.guid.toList, params.message]) ∧
      ∀ counter, s.endpoint.packetCounter s₀.store.key = some counter → counter.count = total sends tr := by
  obtain ⟨past, hp⟩ := prepared hl
  refine ⟨delivered_nodup hp h, ?_, ?_⟩
  · rintro before after s₁ accounts params o rfl
    obtain ⟨hbefore, s₂, hs, _⟩ := h.split
    exact delivery_authorized hp hbefore hs
  · intro counter hc
    rw [← counted_sends hp h, counted, hc]

end Deliveries

section Sample

/-! The empty transfer delivered to a store that has been unpaused and given its peer. -/

open Solana.Program System.Bridge Program

theorem launched_sample (sys : Syscalls) :
    Launched sampleSpace sys (pubkey 4) ⟨sampleStore, sampleRegistered sys⟩ :=
  ⟨.empty, [], sampleOapp, pubkey 2, pubkey 3, sampleMint,
    ⟨fun key => if key = pubkey 5 then 1000 else 0, fun key => if key = pubkey 5 then some (pubkey 6) else none⟩,
    ⟨0, 0⟩, ⟨.adapter, pubkey 4, 6, none⟩, .nil _, by simp, rfl, rfl, rfl⟩

def sampleReceive : LzReceiveParams := ⟨30416, pubkey 11, 1, pubkey 7, sampleBody⟩

def sampleRecipient : LzReceiveAccounts := ⟨pubkey 12, pubkey 0, none, List.replicate 8 (pubkey 0)⟩

theorem run_delivered (sys : Syscalls) : ∃ tr s, Run (Step sampleSpace sys) ⟨sampleStore, sampleRegistered sys⟩ tr s ∧
    tr.filterMap delivered = [pubkey 7] := by
  have h₁ : Step sampleSpace sys ⟨sampleStore, sampleRegistered sys⟩
      (.store (.call (.setOftConfig (pubkey 4) (.paused false)) .done)) ⟨unpausedStore, sampleRegistered sys⟩ :=
    .alone sampleOapp rfl rfl
  have h₂ : Step sampleSpace sys ⟨unpausedStore, sampleRegistered sys⟩
      (.store (.call (sampleConfig (.peerAddress (pubkey 11))) .done))
      ⟨withPeer unpausedStore wiredPeer, sampleRegistered sys⟩ :=
    .alone sampleOapp rfl rfl
  have h₃ : Step sampleSpace sys ⟨withPeer unpausedStore wiredPeer, sampleRegistered sys⟩
      (.endpoint (.call (.authorizeMessage (pubkey 4) sampleGiven) .done))
      ⟨withPeer unpausedStore wiredPeer, sampleAuthorized sys⟩ :=
    .endpoint rfl (step_authorized sys)
  have hclear : Instructions.clear sys (pubkey 9) sampleClear (sampleAuthorized sys) = _ :=
    clear_ok rfl rfl rfl rfl rfl
  have hpayable : System.Redemption.Payable sampleSpace (mockOapp sys sampleOapp (pubkey 9) (sampleAuthorized sys))
      sampleRecipient sampleReceive 0 (withPeer unpausedStore wiredPeer) := by
    have hfree : (withPeer unpausedStore wiredPeer).tokens.owner (pubkey 8) = none := rfl
    constructor
    case released => exact ⟨wiredPeer, none, rfl, rfl, rfl⟩
    case clear => exact answer_eq_ok.mpr (bind_eq_ok.mpr ⟨_, hclear, rfl⟩)
    case account =>
      intro owner howner
      cases hfree.symm.trans howner
    case mintAuthority =>
      intro authority hauthority
      cases hauthority
    case compose =>
      intro hcompose
      cases hcompose
    case room => decide
    case accountsLen => exact Nat.le_refl 8
    all_goals rfl
  have hamount : Solana.MsgCodec.amountSd sampleReceive.message = some 0 := rfl
  have htvl : (withPeer unpausedStore wiredPeer).store.tvlLd < 2 ^ 64 := by decide
  obtain ⟨t, r, hreceive⟩ := System.Redemption.payout_ok hpayable rfl rfl hamount (Nat.le_refl 0) htvl (Nat.zero_le _)
  have hexec : exec sampleSpace (mockOapp sys sampleOapp (pubkey 9) (sampleAuthorized sys))
      (withPeer unpausedStore wiredPeer) (.lzReceive sampleRecipient sampleReceive) = .ok (t, .received r) :=
    exec_lzReceive.mpr ⟨r, hreceive, rfl⟩
  have hinvoked : invoked sys (pubkey 9) (.call (.lzReceive sampleRecipient sampleReceive) (.received r)) =
    some (.clear (pubkey 9) (clearParams (pubkey 9) sampleReceive),
      .cleared (sys.hashv [(pubkey 7).toList, sampleBody])) := rfl
  obtain ⟨e, he⟩ : ∃ e, Program.exec sys (sampleAuthorized sys)
      (.clear (pubkey 9) (clearParams (pubkey 9) sampleReceive)) =
    .ok (e, .cleared (sys.hashv [(pubkey 7).toList, sampleBody])) := invoked_ok hexec hinvoked rfl
  exact ⟨_, _, .cons h₁ (.cons h₂ (.cons h₃ (.single (.invoke sampleOapp hexec hinvoked he)))), rfl⟩

theorem deliveries_authorized_sample : ∃ tr s,
    Run (Step sampleSpace sampleSyscalls) ⟨sampleStore, sampleRegistered sampleSyscalls⟩ tr s ∧
      tr.filterMap delivered = [pubkey 7] ∧ (tr.filterMap delivered).Nodup := by
  obtain ⟨tr, s, h, hd⟩ := run_delivered sampleSyscalls
  exact ⟨tr, s, h, hd, (deliveries_authorized (launched_sample sampleSyscalls) h).1⟩

end Sample

end SanBridge.EndpointMock.Deliveries
