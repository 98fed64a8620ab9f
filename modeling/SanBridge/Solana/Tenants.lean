import SanBridge.Solana.Program

namespace SanBridge.Solana.Tenants

open Library.BigEndian Library.Runs Solana.Runtime Solana.State Solana.Instructions Solana.Program

section Events

inductive ProgramEvent
  | sent (e : OFTSent)
  | received (e : OFTReceived)

/-- The tag `emit_cpi` puts before an event when the program invokes itself with it. -/
def eventTag : Bytes := [0xe4, 0x45, 0xa5, 0x2e, 0x51, 0xcb, 0x9a, 0x1d]

def ProgramEvent.discriminator : ProgramEvent → Bytes
  | .sent _ => [0x6c, 0xab, 0xdb, 0x02, 0xbd, 0x15, 0x6e, 0x6e]
  | .received _ => [0x90, 0x81, 0x70, 0x43, 0x90, 0x98, 0xc9, 0x2a]

def ProgramEvent.body : ProgramEvent → Bytes
  | .sent e => e.guid.toList ++ leBytes 4 e.dstEid ++ e.source.toList ++ leBytes 8 e.amountSentLd ++
      leBytes 8 e.amountReceivedLd
  | .received e => e.guid.toList ++ leBytes 4 e.srcEid ++ e.dest.toList ++ leBytes 8 e.amountReceivedLd

def ProgramEvent.data (e : ProgramEvent) : Bytes := eventTag ++ e.discriminator ++ e.body

/-- An event, and the store whose instruction emits it. The event does not name the store. -/
structure Emission where
  store : Pubkey
  event : ProgramEvent

def emittedEvent : Outcome → Option ProgramEvent
  | .sent result => some (.sent result.event)
  | .received event => some (.received event)
  | _ => none

end Events

section Stores

/-- The stores of the program by address. Anybody may add one. -/
abbrev Stores := Pubkey → Option StoreState

def Stores.empty : Stores := fun _ => none

inductive Action
  | initOft (store : Pubkey)
  | store (key : Pubkey) (l : Event)

inductive Step (space : AddressSpace) : Stores → Action → Stores → Prop
  | initOft {stores : Stores} {s : StoreState} (h : Initial space s) (hnew : stores s.key = none) :
      Step space stores (.initOft s.key) (Function.update stores s.key (some s))
  | store {stores : Stores} {key : Pubkey} {s s' : StoreState} {l : Event} (hs : stores key = some s)
      (h : Program.Step space s l s') : Step space stores (.store key l) (Function.update stores key (some s'))

def Action.emission : Action → Option Emission
  | .store key (.call _ o) => (emittedEvent o).map fun event => ⟨key, event⟩
  | _ => none

end Stores

section Transactions

/-- An instruction invoked inside a transaction: an event, or anything else. A node
reports no data for an instruction that it can parse. -/
inductive InnerInstruction
  | event (e : Emission)
  | other (program : Pubkey) (data : Option Bytes)

def InnerInstruction.emission : InnerInstruction → Option Emission
  | .event e => some e
  | .other _ _ => none

structure Transaction where
  signature : String
  slot : Nat
  failed : Bool
  innerInstructions : List (List InnerInstruction)

def Transaction.emissions (tx : Transaction) : List Emission :=
  tx.innerInstructions.flatten.filterMap InnerInstruction.emission

/-- No instruction of the program that is not one of its events starts with the tag:
its event handler accepts only the program's own event authority as the signer. -/
def InnerInstruction.Untagged (program : Pubkey) : InnerInstruction → Prop
  | .event _ => True
  | .other p data => p = program → ∀ bytes ∈ data, bytes.take 8 ≠ eventTag

/-- A successful transaction runs its actions and reports the events they emit. A
failed one leaves every store as it was, whatever instructions it reports. -/
inductive Executes (space : AddressSpace) (program : Pubkey) : Stores → Transaction → Stores → Prop
  | success {stores stores' : Stores} {tx : Transaction} {tr : List (Stores × Action)}
      (hr : Run (Step space) stores tr stores') (hf : tx.failed = false)
      (he : tr.filterMap (fun p => p.2.emission) = tx.emissions)
      (hu : ∀ group ∈ tx.innerInstructions, ∀ i ∈ group, i.Untagged program) : Executes space program stores tx stores'
  | failed {stores : Stores} {tx : Transaction} (hf : tx.failed = true) : Executes space program stores tx stores

/-- The finalized transactions of the program from its deployment on, newest first. -/
structure History (space : AddressSpace) (program : Pubkey) where
  transactions : List Transaction
  executed : ∃ tr stores, Run (Executes space program) Stores.empty tr stores ∧
    tr.map Prod.snd = transactions.reverse
  ordered : transactions.Pairwise fun a b => b.slot ≤ a.slot
  distinct : (transactions.map Transaction.signature).Nodup

end Transactions

section Emissions

variable {space : AddressSpace} {program : Pubkey} {stores stores' : Stores}

def Keyed (stores : Stores) : Prop := ∀ key s, stores key = some s → s.key = key

theorem keyed_empty : Keyed Stores.empty := by
  intro key s h
  cases h

theorem keyed_update {key : Pubkey} {s : StoreState} (h : Keyed stores) (hs : s.key = key) :
    Keyed (Function.update stores key (some s)) := by
  intro key' s' h'
  by_cases hk : key' = key
  · subst hk
    rw [Function.update_self, Option.some.injEq] at h'
    exact h' ▸ hs
  · rw [Function.update_of_ne hk] at h'
    exact h key' s' h'

theorem Step.keyed {a : Action} (hk : Keyed stores) (h : Step space stores a stores') : Keyed stores' := by
  cases h with
  | initOft _ _ => exact keyed_update hk rfl
  | store hs h => exact keyed_update hk (h.sameIdentity.key.trans (hk _ _ hs))

theorem Executes.keyed {tx : Transaction} (hk : Keyed stores) (h : Executes space program stores tx stores') :
    Keyed stores' := by
  cases h with
  | success hr _ _ _ => exact hr.invariant (fun _ _ _ hk h => h.keyed hk) hk
  | failed _ => exact hk

def ReceivedOn (space : AddressSpace) (store : Pubkey) (event : OFTReceived) : Prop :=
  ∃ oapp accounts params s s', s.key = store ∧ lzReceive space oapp accounts params s = .ok (s', event)

theorem exec_received {oapp : Oapp} {s s' : StoreState} {c : Call} {event : OFTReceived}
    (h : exec space oapp s c = .ok (s', .received event)) :
    ∃ accounts params, lzReceive space oapp accounts params s = .ok (s', event) := by
  cases exec_effect h with
  | lzReceive accounts params s' r e =>
    obtain ⟨_, hr, ho⟩ := exec_lzReceive.mp h
    cases ho
    exact ⟨accounts, params, hr⟩

theorem emittedEvent_received {o : Outcome} {event : OFTReceived}
    (h : emittedEvent o = some (.received event)) : o = .received event := by
  cases o <;> cases h
  rfl

theorem Step.receivedOn {a : Action} {store : Pubkey} {event : OFTReceived} (hk : Keyed stores)
    (h : Step space stores a stores') (he : a.emission = some ⟨store, .received event⟩) :
    ReceivedOn space store event := by
  cases h with
  | initOft _ _ => cases he
  | @store key s s' l hs h =>
    cases h with
    | call oapp h =>
      obtain ⟨e, hemitted, hpair⟩ := Option.map_eq_some_iff.mp he
      cases hpair
      rw [emittedEvent_received hemitted] at h
      obtain ⟨accounts, params, hr⟩ := exec_received h
      exact ⟨oapp, accounts, params, s, s', hk _ _ hs, hr⟩
    | aborted _ _ | tokens _ _ _ | mint _ _ | clock _ => cases he

theorem Executes.receivedOn {tx : Transaction} {store : Pubkey} {event : OFTReceived} (hk : Keyed stores)
    (h : Executes space program stores tx stores') (hf : tx.failed = false)
    (he : ⟨store, .received event⟩ ∈ tx.emissions) : ReceivedOn space store event := by
  cases h with
  | success hr _ hemitted _ =>
    rw [← hemitted, List.mem_filterMap] at he
    obtain ⟨p, hp, he⟩ := he
    exact hr.forall_steps (P := fun p => p.2.emission = some ⟨store, .received event⟩ → ReceivedOn space store event)
      (fun _ _ _ hk h => h.keyed hk) (fun _ _ _ hk h => h.receivedOn hk) hk p hp he
  | failed hf' => exact absurd (hf.symm.trans hf') (by decide)

theorem History.forall_executed (h : History space program) {P : Transaction → Prop}
    (hP : ∀ stores tx stores', Keyed stores → Executes space program stores tx stores' → P tx) :
    ∀ tx ∈ h.transactions, P tx := by
  obtain ⟨tr, stores, hr, htr⟩ := h.executed
  have hall := hr.forall_steps (P := fun p => P p.2) (fun _ _ _ hk h => h.keyed hk) hP keyed_empty
  intro tx htx
  have hmem : tx ∈ tr.map Prod.snd := by
    rw [htr]
    exact List.mem_reverse.mpr htx
  obtain ⟨p, hp, rfl⟩ := List.mem_map.mp hmem
  exact hall p hp

theorem History.receivedOn (h : History space program) {tx : Transaction} {store : Pubkey}
    {event : OFTReceived} (htx : tx ∈ h.transactions) (hf : tx.failed = false)
    (he : ⟨store, .received event⟩ ∈ tx.emissions) : ReceivedOn space store event :=
  h.forall_executed (P := fun tx => tx.failed = false → ⟨store, .received event⟩ ∈ tx.emissions →
    ReceivedOn space store event) (fun _ _ _ hk h => h.receivedOn hk) tx htx hf he

theorem History.untagged (h : History space program) {tx : Transaction} (htx : tx ∈ h.transactions)
    (hf : tx.failed = false) : ∀ group ∈ tx.innerInstructions, ∀ i ∈ group, i.Untagged program := by
  refine h.forall_executed (P := fun tx => tx.failed = false → ∀ group ∈ tx.innerInstructions, ∀ i ∈ group,
    i.Untagged program) (fun _ tx _ _ h hf => ?_) tx htx hf
  cases h with
  | success _ _ _ hu => exact hu
  | failed hf' => exact absurd (hf.symm.trans hf') (by decide)

end Emissions

end SanBridge.Solana.Tenants
