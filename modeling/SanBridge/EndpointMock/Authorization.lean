import SanBridge.EndpointMock.Program

namespace SanBridge.EndpointMock.Authorization

open Library.BigEndian Library.Checked Library.OneTime Library.Runs
open EndpointMock.Instructions EndpointMock.Program
open Solana.Runtime (Pubkey)
open Solana.Instructions (EndpointSendParams ClearParams)
open Solana.Program (pubkey)

variable {sys : Syscalls} {e e' : Endpoint} {l : Event} {o : Outcome} {tr : List (Endpoint × Event)}

section Messages

variable {authority signer : Pubkey} {given : AuthorizeMessageParams} {params : ClearParams}

/-- Whoever authorizes a message for a receiver is the delegate it was registered with. -/
theorem authorize_registered (h : Run (Step sys) .empty tr e)
    (hs : Step sys e (.call (.authorizeMessage authority given) o) e') :
    (given.receiver, authority) ∈ tr.filterMap registered := by
  apply ((delegates_run h).entry _ _).mpr
  cases hs with
  | call hs =>
    cases exec_effect hs with
    | authorizeMessage _ registry _ found _ _ _ _ =>
      refine ⟨false, ?_⟩
      rw [delegates, found, Option.map_some]

theorem authority_registered (h : Run (Step sys) .empty tr e)
    (hc : ∃ p ∈ tr, p.2 = .call (.authorizeMessage authority given) o) :
    (given.receiver, authority) ∈ tr.filterMap registered := by
  obtain ⟨⟨e₁, l⟩, hp, rfl⟩ := hc
  obtain ⟨before, after, rfl⟩ := List.append_of_mem hp
  obtain ⟨hbefore, _, hs, _⟩ := h.split
  rw [List.filterMap_append]
  exact List.mem_append_left _ (authorize_registered hbefore hs)

theorem authorized_call {terms : Terms} {receiver guid : Pubkey} (h : Run (Step sys) .empty tr e)
    (hm : ((receiver, guid), terms) ∈ tr.filterMap (authorized sys)) :
    ∃ authority message, (∃ p ∈ tr, p.2 = .call (.authorizeMessage authority
        ⟨receiver, terms.srcEid, terms.sender, terms.nonce, guid, message⟩) .done) ∧
      sys.hashv [guid.toList, message] = terms.payloadHash := by
  obtain ⟨⟨e₁, l⟩, hp, hl⟩ := List.mem_filterMap.mp hm
  have hdone := h.forall_steps (I := fun _ => True) (P := fun p => ∀ authority given o,
    p.2 = .call (.authorizeMessage authority given) o → o = .done) (fun _ _ _ _ _ => trivial) ?_ trivial _ hp
  · cases l with
    | aborted _ _ => cases hl
    | call c o =>
      cases c with
      | authorizeMessage authority given =>
        cases hl
        obtain rfl := hdone authority given o rfl
        exact ⟨authority, given.message, ⟨_, hp, rfl⟩, rfl⟩
      | _ => cases hl
  · rintro s l t - hs authority given o rfl
    cases hs with
    | call hs =>
      cases exec_effect hs
      rfl

theorem clear_authorized (h : Run (Step sys) .empty tr e) (hs : Step sys e (.call (.clear signer params) o) e') :
    signer = params.receiver ∧ ∃ authority message,
      (∃ p ∈ tr, p.2 = .call (.authorizeMessage authority
        ⟨params.receiver, params.srcEid, params.sender, params.nonce, params.guid, message⟩) .done) ∧
      sys.hashv [params.guid.toList, message] = sys.hashv [params.guid.toList, params.message] ∧
      (params.receiver, authority) ∈ tr.filterMap registered := by
  cases hs with
  | call hs =>
    cases exec_effect hs with
    | clear _ m found fresh terms =>
      refine ⟨rfl, ?_⟩
      have hentry : messages e (params.receiver, params.guid) = some (m.terms, false) := by
        rw [messages, found, Option.map_some, fresh]
      have hopened := ((messages_run h).open_iff.mp hentry).1
      obtain ⟨authority, message, hcall, hhash⟩ := authorized_call h hopened
      rw [terms] at hcall hhash
      exact ⟨authority, message, hcall, hhash, authority_registered h hcall⟩

/-- A message is authorized at most once, by the delegate its receiver was registered with
once and for all, and cleared at most once, by the receiver, after it was authorized and
with the origin, the nonce and the payload it was authorized with. -/
theorem messages_cleared_once (h : Run (Step sys) .empty tr e) :
    Recorded (tr.filterMap (authorized sys)) (tr.filterMap (cleared sys)) (messages e) ∧
      Recorded (tr.filterMap registered) [] (delegates e) ∧
      (∀ before after e₁ authority given o, tr = before ++ (e₁, .call (.authorizeMessage authority given) o) :: after →
        (given.receiver, authority) ∈ before.filterMap registered) ∧
      ∀ before after e₁ signer params o, tr = before ++ (e₁, .call (.clear signer params) o) :: after →
        signer = params.receiver ∧ ∃ authority message,
          (∃ p ∈ before, p.2 = .call (.authorizeMessage authority
            ⟨params.receiver, params.srcEid, params.sender, params.nonce, params.guid, message⟩) .done) ∧
          sys.hashv [params.guid.toList, message] = sys.hashv [params.guid.toList, params.message] ∧
          (params.receiver, authority) ∈ before.filterMap registered := by
  refine ⟨messages_run h, delegates_run h, ?_, ?_⟩
  · rintro before after e₁ authority given o rfl
    obtain ⟨hbefore, _, hs, _⟩ := h.split
    exact authorize_registered hbefore hs
  · rintro before after e₁ signer params o rfl
    obtain ⟨hbefore, _, hs, _⟩ := h.split
    exact clear_authorized hbefore hs

theorem messages_cleared_once_sample : ∃ e hash, Run (Step sampleSyscalls) .empty
      [(.empty, .call (.registerOapp (pubkey 9) (pubkey 4)) .done),
        (sampleRegistered sampleSyscalls, .call (.authorizeMessage (pubkey 4) sampleGiven) .done),
        (sampleAuthorized sampleSyscalls, .call (.clear (pubkey 9) sampleClear) (.cleared hash))] e ∧
    (sampleGiven.receiver, pubkey 4) ∈
      [((.empty, .call (.registerOapp (pubkey 9) (pubkey 4)) .done) : Endpoint × Event)].filterMap registered ∧
    pubkey 9 = sampleClear.receiver := by
  have h : Run (Step sampleSyscalls) .empty _ _ :=
    .cons (step_registered _) (.cons (step_authorized _) (.single (step_cleared _)))
  obtain ⟨_, _, hauthorized, hcleared⟩ := messages_cleared_once h
  exact ⟨_, _, h, hauthorized [_] [_] _ _ _ _ rfl, (hcleared [_, _] [] _ _ _ _ rfl).1⟩

end Messages

section Packets

variable {oapp : Pubkey} {params : EndpointSendParams}

def packets (oapp : Pubkey) : Endpoint × Event → Nat
  | (_, .call (.send sender _) _) => if sender = oapp then 1 else 0
  | _ => 0

/-- Whether the pathway of an OApp is complete after an event. -/
def configure (oapp : Pubkey) (complete : Bool) : Endpoint × Event → Bool
  | (_, .call (.registerOapp key _) _) => if key = oapp then false else complete
  | (_, .call (.setMockConfig _ key params) _) => if key = oapp then params.complete else complete
  | _ => complete

def initialized : Endpoint × Event → Option (Pubkey × Unit)
  | (_, .call (.initMockPacketCounter _ oapp) _) => some (oapp, ())
  | _ => none

def counted (oapp : Pubkey) (e : Endpoint) : Nat :=
  match e.packetCounter oapp with
  | some counter => counter.count
  | none => 0

def complete (oapp : Pubkey) (e : Endpoint) : Bool := (e.oappRegistry oapp).any OAppRegistry.configured

def counters (e : Endpoint) : Table Pubkey Unit := fun oapp => (e.packetCounter oapp).map fun _ => ((), false)

theorem counted_step (h : Step sys e l e') : counted oapp e + packets oapp (e, l) = counted oapp e' := by
  cases h with
  | aborted _ => rfl
  | call h =>
    cases exec_effect h with
    | send sender params registry counter _ _ found _ =>
      by_cases hk : oapp = sender
      · subst hk
        simp [counted, packets, Endpoint.setCounter, found]
      · simp [counted, packets, Endpoint.setCounter, hk, Ne.symm hk]
    | initMockPacketCounter key registry counter _ free zero =>
      by_cases hk : oapp = key
      · subst hk
        simp [counted, packets, Endpoint.setCounter, free, zero]
      · simp [counted, packets, Endpoint.setCounter, hk]
    | _ => rfl

theorem counted_run (h : Run (Step sys) .empty tr e) : counted oapp e = total (packets oapp) tr := by
  have haccount := h.account (I := fun _ => True) (counted oapp) (packets oapp) (fun _ => 0)
    (fun _ _ _ _ _ => trivial) (fun _ _ _ _ hs => counted_step hs) trivial
  have hzero : total (fun _ => 0 : Endpoint × Event → Nat) tr = 0 := total_eq_zero fun _ _ => rfl
  have hempty : counted oapp .empty = 0 := rfl
  omega

theorem complete_step (h : Step sys e l e') : complete oapp e' = configure oapp (complete oapp e) (e, l) := by
  cases h with
  | aborted _ => rfl
  | call h =>
    cases exec_effect h with
    | registerOapp key registry _ unconfigured =>
      by_cases hk : oapp = key
      · subst hk
        simp [complete, configure, Endpoint.setRegistry, unconfigured]
      · simp [complete, configure, Endpoint.setRegistry, hk, Ne.symm hk]
    | setMockConfig key params registry _ =>
      by_cases hk : oapp = key
      · subst hk
        simp only [complete, configure, Endpoint.setRegistry, Function.update_self, Option.any_some, if_pos]
        rfl
      · simp [complete, configure, Endpoint.setRegistry, hk, Ne.symm hk]
    | _ => rfl

theorem counters_step (h : Step sys e l e') : Move (initialized (e, l)) none (counters e) (counters e') := by
  cases h with
  | aborted _ => exact .idle rfl rfl rfl
  | call h =>
    cases exec_effect h with
    | initMockPacketCounter key registry counter _ free _ =>
      refine .opens key () rfl rfl ?_ (map_update _ _ _ _)
      rw [counters, free, Option.map_none]
    | send sender params registry counter _ _ found _ =>
      refine .idle rfl rfl ((map_update _ _ _ _).trans ?_)
      apply Function.update_eq_self_iff.mpr
      rw [found, Option.map_some]
    | _ => exact .idle rfl rfl rfl

theorem counters_run (h : Run (Step sys) .empty tr e) : Recorded (tr.filterMap initialized) [] (counters e) := by
  have hnone : tr.filterMap (fun _ => none : Endpoint × Event → Option (Pubkey × Unit)) = [] := by simp
  rw [← hnone]
  exact recorded_from_empty (fun _ _ _ => counters_step) h rfl

theorem mem_initialized : (oapp, ()) ∈ tr.filterMap initialized ↔
    ∃ p ∈ tr, ∃ authority o, p.2 = .call (.initMockPacketCounter authority oapp) o := by
  rw [List.mem_filterMap]
  constructor
  · rintro ⟨⟨e, l⟩, hp, hl⟩
    cases l with
    | aborted _ _ => cases hl
    | call c o =>
      cases c with
      | initMockPacketCounter authority key =>
        cases hl
        exact ⟨_, hp, authority, o, rfl⟩
      | _ => cases hl
  · rintro ⟨⟨e, _⟩, hp, authority, o, rfl⟩
    exact ⟨_, hp, rfl⟩

theorem send_ok_iff : (∃ e' receipt, send sys oapp params e = .ok (e', receipt)) ↔
    (counters e oapp).isSome ∧ complete oapp e = true ∧ counted oapp e + 1 < 2 ^ 64 := by
  rw [counters, complete, counted, send]
  simp only [bind_eq_ok, Except.ok.injEq, Prod.mk.injEq, ofOption_eq_ok, requireMock, require_eq_ok, add_eq_ok]
  constructor
  · rintro ⟨e', receipt, registry, hregistry, counter, hcounter, _, hconf, count, ⟨hlt, -⟩, -⟩
    rw [hregistry, hcounter]
    exact ⟨rfl, hconf, hlt⟩
  · rintro ⟨hinit, hconf, hlt⟩
    obtain ⟨_, hsome⟩ := Option.isSome_iff_exists.mp hinit
    obtain ⟨counter, hcounter, -⟩ := Option.map_eq_some_iff.mp hsome
    obtain ⟨registry, hregistry, hconf⟩ := Option.any_eq_true _ _ |>.mp hconf
    rw [hcounter] at hlt
    exact ⟨_, _, registry, hregistry, counter, hcounter, (), hconf, _, ⟨hlt, rfl⟩, rfl, rfl⟩

/-- The counter of an OApp counts its packets, and another one is created exactly if the
counter was initialized, the last configuration since the registration is complete and
the count stays within 64 bits. -/
theorem packets_counted (h : Run (Step sys) .empty tr e) (oapp : Pubkey) :
    (∀ counter, e.packetCounter oapp = some counter → counter.count = total (packets oapp) tr) ∧
      ∀ params, (∃ e' receipt, send sys oapp params e = .ok (e', receipt)) ↔
        (∃ p ∈ tr, ∃ authority o, p.2 = .call (.initMockPacketCounter authority oapp) o) ∧
        tr.foldl (configure oapp) false = true ∧ total (packets oapp) tr + 1 < 2 ^ 64 := by
  have hcount : counted oapp e = total (packets oapp) tr := counted_run h
  have hcomplete : complete oapp e = tr.foldl (configure oapp) false :=
    h.replay (I := fun _ => True) (complete oapp) (configure oapp) (fun _ _ _ _ _ => trivial)
      (fun _ _ _ _ hs => complete_step hs) trivial
  have hinit : (counters e oapp).isSome ↔ (oapp, ()) ∈ tr.filterMap initialized := by
    rw [(counters_run h).entry, Option.isSome_iff_exists]
    exact ⟨fun ⟨v, hv⟩ => ⟨v.2, hv⟩, fun ⟨c, hc⟩ => ⟨_, hc⟩⟩
  constructor
  · intro counter hc
    rw [← hcount, counted, hc]
  · intro params
    rw [send_ok_iff, hinit, mem_initialized, hcomplete, hcount]

theorem packets_counted_sent :
    (∀ counter, (sampleSent sampleSyscalls).packetCounter (pubkey 9) = some counter → counter.count = 1) ∧
    ∃ e' receipt, send sampleSyscalls (pubkey 9) sampleSend (sampleSent sampleSyscalls) = .ok (e', receipt) := by
  have h : Run (Step sampleSyscalls) .empty _ (sampleSent sampleSyscalls) :=
    .cons (step_registered _) (.cons (step_configured _) (.cons (step_counted _) (.single (step_sent _))))
  obtain ⟨hcounter, hsend⟩ := packets_counted h (pubkey 9)
  refine ⟨hcounter, (hsend _).mpr ⟨?_, rfl, by simp [packets]⟩⟩
  exact ⟨_, List.mem_cons_of_mem _ (List.mem_cons_of_mem _ List.mem_cons_self), pubkey 4, .done, rfl⟩

end Packets

end SanBridge.EndpointMock.Authorization
