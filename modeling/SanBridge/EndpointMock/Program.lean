import SanBridge.EndpointMock.Instructions
import SanBridge.Library.OneTime
import SanBridge.Library.Runs
import SanBridge.Solana.Program

namespace SanBridge.EndpointMock.Program

open Library.BigEndian Library.Checked Library.OneTime Library.Runs EndpointMock.Instructions
open Solana.Runtime (Pubkey U32 U64)
open Solana.Instructions (EndpointSendParams QuoteParams ClearParams MessagingFee)
open Solana.Program (pubkey)

/-- The instructions, each with the account that signs it. -/
inductive Call
  | registerOapp (oapp delegate : Pubkey)
  | authorizeMessage (authority : Pubkey) (params : AuthorizeMessageParams)
  | send (sender : Pubkey) (params : EndpointSendParams)
  | setMockConfig (authority oapp : Pubkey) (params : SetMockConfigParams)
  | initMockPacketCounter (authority oapp : Pubkey)
  | quote (params : QuoteParams)
  | clear (signer : Pubkey) (params : ClearParams)

inductive Outcome
  | done
  | sent (receipt : MessagingReceipt)
  | quoted (fee : MessagingFee)
  | cleared (payloadHash : Pubkey)

def exec (sys : Syscalls) (e : Endpoint) : Call → Result (Endpoint × Outcome)
  | .registerOapp oapp delegate => do
    let e ← registerOapp sys oapp delegate e
    .ok (e, .done)
  | .authorizeMessage authority params => do
    let e ← authorizeMessage sys authority params e
    .ok (e, .done)
  | .send sender params => do
    let (e, receipt) ← send sys sender params e
    .ok (e, .sent receipt)
  | .setMockConfig authority oapp params => do
    let e ← setMockConfig authority oapp params e
    .ok (e, .done)
  | .initMockPacketCounter authority oapp => do
    let e ← initMockPacketCounter sys authority oapp e
    .ok (e, .done)
  | .quote params => do
    let fee ← quote params
    .ok (e, .quoted fee)
  | .clear signer params => do
    let (e, payloadHash) ← clear sys signer params e
    .ok (e, .cleared payloadHash)

inductive Event
  | call (c : Call) (o : Outcome)
  | aborted (c : Call) (err : EndpointError)

/-- Anybody may sign anything at any time; what aborts changes nothing. -/
inductive Step (sys : Syscalls) : Endpoint → Event → Endpoint → Prop
  | call {e e' : Endpoint} {c : Call} {o : Outcome} (h : exec sys e c = .ok (e', o)) :
      Step sys e (.call c o) e'
  | aborted {e : Endpoint} {c : Call} {err : EndpointError} (h : exec sys e c = .error err) :
      Step sys e (.aborted c err) e

inductive CallEffect (sys : Syscalls) (e : Endpoint) : Call → Endpoint → Outcome → Prop
  | registerOapp (oapp : Pubkey) (registry : OAppRegistry) (free : e.oappRegistry oapp = none)
      (unconfigured : registry.configured = false) :
      CallEffect sys e (.registerOapp oapp registry.delegate)
        (e.setRegistry oapp registry) .done
  | authorizeMessage (params : AuthorizeMessageParams) (registry : OAppRegistry) (m : AuthorizedMessage)
      (registered : e.oappRegistry params.receiver = some registry)
      (free : e.authorizedMessage (params.receiver, params.guid) = none)
      (terms : m.terms = ⟨params.srcEid, params.sender, params.nonce,
        sys.hashv [params.guid.toList, params.message]⟩)
      (key : (m.receiver, m.guid) = (params.receiver, params.guid)) (fresh : m.consumed = false) :
      CallEffect sys e (.authorizeMessage registry.delegate params)
        (e.setMessage (params.receiver, params.guid) m) .done
  | send (sender : Pubkey) (params : EndpointSendParams) (registry : OAppRegistry) (counter : PacketCounter)
      (registered : e.oappRegistry sender = some registry) (configured : registry.configured = true)
      (counted : e.packetCounter sender = some counter) (bounded : counter.count + 1 < 2 ^ 64) :
      CallEffect sys e (.send sender params)
        (e.setCounter sender { counter with count := counter.count + 1 })
        (.sent ⟨sys.hashv [beBytes 4 params.dstEid, params.receiver.toList, params.message], 1, ⟨0, 0⟩⟩)
  | setMockConfig (oapp : Pubkey) (params : SetMockConfigParams) (registry : OAppRegistry)
      (registered : e.oappRegistry oapp = some registry) :
      CallEffect sys e (.setMockConfig registry.delegate oapp params)
        (e.setRegistry oapp (registry.withConfig params)) .done
  | initMockPacketCounter (oapp : Pubkey) (registry : OAppRegistry) (counter : PacketCounter)
      (registered : e.oappRegistry oapp = some registry) (free : e.packetCounter oapp = none)
      (zero : counter.count = 0) :
      CallEffect sys e (.initMockPacketCounter registry.delegate oapp)
        (e.setCounter oapp counter) .done
  | quote (params : QuoteParams) : CallEffect sys e (.quote params) e (.quoted ⟨0, 0⟩)
  | clear (params : ClearParams) (m : AuthorizedMessage)
      (authorized : e.authorizedMessage (params.receiver, params.guid) = some m) (fresh : m.consumed = false)
      (terms : m.terms = ⟨params.srcEid, params.sender, params.nonce,
        sys.hashv [params.guid.toList, params.message]⟩) :
      CallEffect sys e (.clear params.receiver params)
        (e.setMessage (params.receiver, params.guid) m.cleared) (.cleared m.payloadHash)

variable {sys : Syscalls} {e e' : Endpoint} {c : Call} {o : Outcome} {l : Event}

theorem clear_effect {signer : Pubkey} {params : ClearParams} {payloadHash : Pubkey}
    (h : clear sys signer params e = .ok (e', payloadHash)) :
    CallEffect sys e (.clear signer params) e' (.cleared payloadHash) := by
  obtain ⟨_, _, h⟩ := bind_eq_ok.mp h
  obtain ⟨m, hm, h⟩ := bind_eq_ok.mp h
  obtain ⟨_, hsigner, h⟩ := bind_eq_ok.mp h
  obtain ⟨_, hfresh, h⟩ := bind_eq_ok.mp h
  obtain ⟨_, _, h⟩ := bind_eq_ok.mp h
  obtain ⟨_, heid, h⟩ := bind_eq_ok.mp h
  obtain ⟨_, hsender, h⟩ := bind_eq_ok.mp h
  obtain ⟨_, hnonce, h⟩ := bind_eq_ok.mp h
  obtain ⟨_, _, h⟩ := bind_eq_ok.mp h
  obtain ⟨_, hhash, h⟩ := bind_eq_ok.mp h
  have hterms : m.terms = ⟨params.srcEid, params.sender, params.nonce,
      sys.hashv [params.guid.toList, params.message]⟩ := by
    rw [AuthorizedMessage.terms, beq_iff_eq.mp (require_eq_ok.mp heid), beq_iff_eq.mp (require_eq_ok.mp hsender),
      beq_iff_eq.mp (require_eq_ok.mp hnonce), beq_iff_eq.mp (require_eq_ok.mp hhash)]
  have hhash : m.payloadHash = sys.hashv [params.guid.toList, params.message] := congrArg Terms.payloadHash hterms
  cases h
  obtain rfl := beq_iff_eq.mp (require_eq_ok.mp hsigner)
  rw [← hhash]
  exact .clear params m (ofOption_eq_ok.mp hm) (by simpa [requireMock] using hfresh) hterms

theorem clear_payloadHash {signer : Pubkey} {params : ClearParams} {payloadHash : Pubkey}
    (h : clear sys signer params e = .ok (e', payloadHash)) :
    payloadHash = sys.hashv [params.guid.toList, params.message] := by
  cases clear_effect h with
  | clear _ m _ _ terms => exact congrArg Terms.payloadHash terms

theorem clear_ok {params : ClearParams} {registry : OAppRegistry} {m : AuthorizedMessage}
    (registered : e.oappRegistry params.receiver = some registry)
    (authorized : e.authorizedMessage (params.receiver, params.guid) = some m) (fresh : m.consumed = false)
    (key : (m.receiver, m.guid) = (params.receiver, params.guid))
    (terms : m.terms = ⟨params.srcEid, params.sender, params.nonce,
      sys.hashv [params.guid.toList, params.message]⟩) :
    clear sys params.receiver params e = .ok (e.setMessage (params.receiver, params.guid) m.cleared,
      sys.hashv [params.guid.toList, params.message]) := by
  obtain ⟨hreceiver, hguid⟩ := Prod.mk.inj key
  obtain ⟨heid, hsender, hnonce, hhash⟩ := Terms.mk.inj terms
  simp [clear, ofOption, registered, authorized, requireMock, require, fresh, hreceiver, hguid, heid, hsender,
    hnonce, hhash, ok_bind]

theorem exec_effect (h : exec sys e c = .ok (e', o)) : CallEffect sys e c e' o := by
  cases c with
  | registerOapp oapp delegate =>
    obtain ⟨_, hr, h⟩ := bind_eq_ok.mp h
    obtain ⟨_, hfree, hr⟩ := bind_eq_ok.mp hr
    cases h
    cases hr
    exact .registerOapp oapp ⟨delegate, false, false, false, false, false, _⟩
      (Option.isNone_iff_eq_none.mp (require_eq_ok.mp hfree)) rfl
  | authorizeMessage authority params =>
    obtain ⟨_, ha, h⟩ := bind_eq_ok.mp h
    obtain ⟨registry, hr, ha⟩ := bind_eq_ok.mp ha
    obtain ⟨_, hfree, ha⟩ := bind_eq_ok.mp ha
    obtain ⟨_, hd, ha⟩ := bind_eq_ok.mp ha
    cases h
    cases ha
    obtain rfl := beq_iff_eq.mp (require_eq_ok.mp hd)
    exact .authorizeMessage params registry _ (ofOption_eq_ok.mp hr)
      (Option.isNone_iff_eq_none.mp (require_eq_ok.mp hfree)) rfl rfl rfl
  | send sender params =>
    obtain ⟨_, hs, h⟩ := bind_eq_ok.mp h
    obtain ⟨registry, hr, hs⟩ := bind_eq_ok.mp hs
    obtain ⟨counter, hc, hs⟩ := bind_eq_ok.mp hs
    obtain ⟨_, hconf, hs⟩ := bind_eq_ok.mp hs
    obtain ⟨count, hcount, hs⟩ := bind_eq_ok.mp hs
    obtain ⟨hlt, rfl⟩ := add_eq_ok.mp hcount
    cases hs
    cases h
    exact .send sender params registry counter (ofOption_eq_ok.mp hr) (require_eq_ok.mp hconf)
      (ofOption_eq_ok.mp hc) hlt
  | setMockConfig authority oapp params =>
    obtain ⟨_, hs, h⟩ := bind_eq_ok.mp h
    obtain ⟨registry, hr, hs⟩ := bind_eq_ok.mp hs
    obtain ⟨_, hd, hs⟩ := bind_eq_ok.mp hs
    cases hs
    cases h
    obtain rfl := beq_iff_eq.mp (require_eq_ok.mp hd)
    exact .setMockConfig oapp params registry (ofOption_eq_ok.mp hr)
  | initMockPacketCounter authority oapp =>
    obtain ⟨_, hi, h⟩ := bind_eq_ok.mp h
    obtain ⟨registry, hr, hi⟩ := bind_eq_ok.mp hi
    obtain ⟨_, hfree, hi⟩ := bind_eq_ok.mp hi
    obtain ⟨_, hd, hi⟩ := bind_eq_ok.mp hi
    cases hi
    cases h
    obtain rfl := beq_iff_eq.mp (require_eq_ok.mp hd)
    exact .initMockPacketCounter oapp registry _ (ofOption_eq_ok.mp hr)
      (Option.isNone_iff_eq_none.mp (require_eq_ok.mp hfree)) rfl
  | quote params =>
    cases h
    exact .quote params
  | clear signer params =>
    obtain ⟨⟨e₁, hash⟩, hc, h⟩ := bind_eq_ok.mp h
    cases h
    exact clear_effect hc

section History

def registered : Endpoint × Event → Option (Pubkey × Pubkey)
  | (_, .call (.registerOapp oapp delegate) _) => some (oapp, delegate)
  | _ => none

variable (sys) in
def authorized : Endpoint × Event → Option ((Pubkey × Pubkey) × Terms)
  | (_, .call (.authorizeMessage _ params) _) => some ((params.receiver, params.guid),
    ⟨params.srcEid, params.sender, params.nonce, sys.hashv [params.guid.toList, params.message]⟩)
  | _ => none

variable (sys) in
def cleared : Endpoint × Event → Option ((Pubkey × Pubkey) × Terms)
  | (_, .call (.clear _ params) _) => some ((params.receiver, params.guid),
    ⟨params.srcEid, params.sender, params.nonce, sys.hashv [params.guid.toList, params.message]⟩)
  | _ => none

def delegates (e : Endpoint) : Table Pubkey Pubkey :=
  fun oapp => (e.oappRegistry oapp).map fun r => (r.delegate, false)

def messages (e : Endpoint) : Table (Pubkey × Pubkey) Terms :=
  fun key => (e.authorizedMessage key).map fun m => (m.terms, m.consumed)

theorem map_update {K V W : Type} [DecidableEq K] (f : V → W) (g : K → Option V) (k : K) (v : V) :
    (fun key => (Function.update g k (some v) key).map f) =
      Function.update (fun key => (g key).map f) k (some (f v)) := by
  funext key
  by_cases hk : key = k
  · subst hk
    simp
  · simp [hk]

theorem delegates_step (h : Step sys e l e') : Move (registered (e, l)) none (delegates e) (delegates e') := by
  cases h with
  | aborted _ => exact .idle rfl rfl rfl
  | call h =>
    cases exec_effect h with
    | registerOapp oapp registry free _ =>
      refine .opens oapp registry.delegate rfl rfl ?_ (map_update _ _ _ _)
      rw [delegates, free, Option.map_none]
    | setMockConfig oapp params registry found =>
      refine .idle rfl rfl ((map_update _ _ _ _).trans ?_)
      apply Function.update_eq_self_iff.mpr
      rw [found, Option.map_some]
      rfl
    | _ => exact .idle rfl rfl rfl

theorem messages_step (h : Step sys e l e') :
    Move (authorized sys (e, l)) (cleared sys (e, l)) (messages e) (messages e') := by
  cases h with
  | aborted _ => exact .idle rfl rfl rfl
  | call h =>
    cases exec_effect h with
    | authorizeMessage params registry m _ free terms _ fresh =>
      refine .opens (params.receiver, params.guid) m.terms ?_ rfl ?_ ?_
      · rw [terms]
        rfl
      · rw [messages, free, Option.map_none]
      · rw [← fresh]
        exact map_update _ _ _ _
    | clear params m found fresh terms =>
      refine .closes (params.receiver, params.guid) m.terms rfl ?_ ?_ (map_update _ _ _ _)
      · rw [terms]
        rfl
      · rw [messages, found, Option.map_some, fresh]
    | _ => exact .idle rfl rfl rfl

end History

variable {tr : List (Endpoint × Event)}

theorem delegates_run (h : Run (Step sys) .empty tr e) :
    Recorded (tr.filterMap registered) [] (delegates e) := by
  have hnone : tr.filterMap (fun _ => none : Endpoint × Event → Option (Pubkey × Pubkey)) = [] := by simp
  rw [← hnone]
  exact recorded_from_empty (fun _ _ _ => delegates_step) h rfl

theorem messages_run (h : Run (Step sys) .empty tr e) :
    Recorded (tr.filterMap (authorized sys)) (tr.filterMap (cleared sys)) (messages e) :=
  recorded_from_empty (fun _ _ _ => messages_step) h rfl

section Sample

/-! An OApp registered with its delegate, then given an empty transfer, or a counter and a
complete pathway. -/

variable (sys : Syscalls)

def sampleBody : Bytes := Solana.MsgCodec.encode (pubkey 12) 0 (pubkey 6) none

def sampleGiven : AuthorizeMessageParams := ⟨pubkey 9, 30416, pubkey 11, 1, pubkey 7, sampleBody⟩

def sampleClear : ClearParams := ⟨pubkey 9, 30416, pubkey 11, 1, pubkey 7, sampleBody⟩

def sampleRegistry : OAppRegistry where
  delegate := pubkey 4
  sendLibraryConfigured := false
  receiveLibraryConfigured := false
  sendUlnConfigured := false
  receiveUlnConfigured := false
  executorConfigured := false
  bump := sys.findBump [oappSeed, (pubkey 9).toList]

def sampleMessage : AuthorizedMessage where
  receiver := pubkey 9
  srcEid := 30416
  sender := pubkey 11
  nonce := 1
  guid := pubkey 7
  payloadHash := sys.hashv [(pubkey 7).toList, sampleBody]
  consumed := false
  bump := sys.findBump [authorizedMessageSeed, (pubkey 9).toList, (pubkey 7).toList]

def sampleRegistered : Endpoint := Endpoint.empty.setRegistry (pubkey 9) (sampleRegistry sys)

def sampleAuthorized : Endpoint := (sampleRegistered sys).setMessage (pubkey 9, pubkey 7) (sampleMessage sys)

theorem step_registered :
    Step sys .empty (.call (.registerOapp (pubkey 9) (pubkey 4)) .done) (sampleRegistered sys) :=
  .call rfl

theorem step_authorized : Step sys (sampleRegistered sys)
    (.call (.authorizeMessage (pubkey 4) sampleGiven) .done) (sampleAuthorized sys) :=
  .call rfl

theorem step_cleared : Step sys (sampleAuthorized sys)
    (.call (.clear (pubkey 9) sampleClear) (.cleared (sys.hashv [(pubkey 7).toList, sampleBody])))
    ((sampleAuthorized sys).setMessage (pubkey 9, pubkey 7) (sampleMessage sys).cleared) := by
  have h : clear sys (pubkey 9) sampleClear (sampleAuthorized sys) = _ := clear_ok rfl rfl rfl rfl rfl
  exact .call (bind_eq_ok.mpr ⟨_, h, rfl⟩)

def sampleComplete : SetMockConfigParams := ⟨true, true, true, true, true⟩

def sampleConfigured : Endpoint :=
  (sampleRegistered sys).setRegistry (pubkey 9) ((sampleRegistry sys).withConfig sampleComplete)

def sampleCounted : Endpoint :=
  (sampleConfigured sys).setCounter (pubkey 9) ⟨0, sys.findBump [packetCounterSeed, (pubkey 9).toList]⟩

theorem step_configured : Step sys (sampleRegistered sys)
    (.call (.setMockConfig (pubkey 4) (pubkey 9) sampleComplete) .done) (sampleConfigured sys) :=
  .call rfl

theorem step_counted : Step sys (sampleConfigured sys)
    (.call (.initMockPacketCounter (pubkey 4) (pubkey 9)) .done) (sampleCounted sys) :=
  .call rfl

def sampleSend : EndpointSendParams := ⟨30416, pubkey 11, sampleBody, [], 0, 0⟩

def sampleSent : Endpoint :=
  (sampleCounted sys).setCounter (pubkey 9) ⟨1, sys.findBump [packetCounterSeed, (pubkey 9).toList]⟩

theorem step_sent : Step sys (sampleCounted sys) (.call (.send (pubkey 9) sampleSend)
    (.sent ⟨sys.hashv [beBytes 4 30416, (pubkey 11).toList, sampleBody], 1, ⟨0, 0⟩⟩)) (sampleSent sys) :=
  .call rfl

/-- The Keccak digests of the payload and of the same transfer sent back. -/
def sampleSyscalls : Syscalls where
  findBump _ := 255
  keccak bytes := ⟨(beBytes 32 <|
    if bytes = (pubkey 7).toList ++ sampleBody then
      0xbb8c3b12743020518021a995f62132459307b80e6cfbadc981e6acdbfde77504
    else if bytes = beBytes 4 30416 ++ (pubkey 11).toList ++ sampleBody then
      0x391bf47ad826a1407f68cdb13323e55ed51d46c0c2ba10935e6e69a52928d8fa
    else 0).toArray, by simp⟩

end Sample

end SanBridge.EndpointMock.Program