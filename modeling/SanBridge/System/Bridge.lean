import SanBridge.Evm.Limits
import SanBridge.Library.LockMint
import SanBridge.Solana.Custody
import SanBridge.Solana.Limits

namespace SanBridge.System.Bridge

open Library.BigEndian Library.Checked Library.Runs Solana.Runtime Solana.State Solana.Instructions

/-- The addresses that make the two applications each other's only peers. -/
structure Wiring where
  space : AddressSpace
  solanaEid : U32
  robinhoodEid : U32
  store : Pubkey
  sanOft : Evm.Runtime.Bytes32

/-- A message handed to the Endpoint of one chain and not yet delivered on the other. -/
structure Packet where
  dstEid : U32
  sender : Evm.Runtime.Bytes32
  receiver : Evm.Runtime.Bytes32
  guid : Evm.Runtime.Bytes32
  nonce : U64
  message : Bytes
  deriving DecidableEq

structure State where
  solana : StoreState
  evm : Evm.Program.Chain
  toRobinhood : Multiset Packet
  toSolana : Multiset Packet

def Packet.amountSd (p : Packet) : Nat := (Solana.MsgCodec.amountSd p.message).getD 0

def inFlight (q : Multiset Packet) : Nat := (q.map Packet.amountSd).sum

def solanaPacket (s : StoreState) (r : SendResult) : Packet :=
  ⟨r.packet.dstEid, s.key, r.packet.receiver, r.receipt.guid, r.receipt.nonce, r.packet.message⟩

def evmPacket (w : Wiring) (r : Evm.Contract.SendResult) : Packet :=
  ⟨r.event.dstEid, w.sanOft, r.receiver, r.receipt.guid, r.receipt.nonce, r.message⟩

/-- What the executor hands to `lz_receive` for a packet. -/
def Packet.solanaParams (w : Wiring) (p : Packet) : LzReceiveParams :=
  ⟨w.robinhoodEid, p.sender, p.nonce, p.guid, p.message⟩

def Packet.origin (w : Wiring) (p : Packet) : Evm.Contract.Origin := ⟨w.solanaEid, p.sender, p.nonce⟩

def localSolana (w : Wiring) : Solana.Program.Event → Prop
  | .call (.setPeerConfig _ params) _ => params.remoteEid = w.robinhoodEid ∧
    ∀ address, params.config = .peerAddress address → address = w.sanOft
  | .call (.send _ _) _ | .call (.lzReceive _ _) _ => False
  | _ => True

/-- Robinhood events that move nothing between the chains and keep the store the only peer. -/
def localEvm (w : Wiring) : Evm.Program.Event → Prop
  | .call _ (.setPeer eid peer) _ =>
    eid = w.solanaEid ∧ (peer = w.store ∨ peer = Evm.Runtime.zeroBytes32)
  | .call _ (.send _) _ | .call _ (.lzReceive _ _ _) _ => False
  | _ => True

inductive Label
  | solana (l : Solana.Program.Event)
  | evm (l : Evm.Program.Event)
  | solanaSend (accounts : SendAccounts) (params : SendParams) (r : SendResult)
  | solanaReceive (accounts : LzReceiveAccounts) (p : Packet) (r : OFTReceived)
  | evmSend (sender : Evm.Runtime.Address) (params : Evm.Base.SendParam)
      (r : Evm.Contract.SendResult)
  | evmReceive (sender : Evm.Runtime.Address) (p : Packet) (r : Evm.Contract.OFTReceived)

/-- The Endpoint hands over a packet unaltered, only to its receiver, only while
it is in flight, and no longer once a delivery has succeeded. A delivery that
fails is one of the local events and leaves its packet where it is. -/
inductive Step (w : Wiring) : State → Label → State → Prop
  | solana {s : State} {t : StoreState} {l : Solana.Program.Event} (hl : localSolana w l)
      (h : Solana.Program.Step w.space s.solana l t) : Step w s (.solana l) { s with solana := t }
  | evm {s : State} {t : Evm.Program.Chain} {l : Evm.Program.Event} (hl : localEvm w l)
      (h : Evm.Program.Step s.evm l t) : Step w s (.evm l) { s with evm := t }
  | solanaSend {s : State} {t : StoreState} {accounts : SendAccounts} {params : SendParams}
      {r : SendResult} (oapp : Oapp) (h : send oapp accounts params s.solana = .ok (t, r)) :
      Step w s (.solanaSend accounts params r)
        { s with solana := t, toRobinhood := solanaPacket s.solana r ::ₘ s.toRobinhood }
  | solanaReceive {s : State} {t : StoreState} {accounts : LzReceiveAccounts} {p : Packet}
      {r : OFTReceived} (oapp : Oapp) (hp : p ∈ s.toSolana) (hr : p.receiver = s.solana.key)
      (h : lzReceive w.space oapp accounts (p.solanaParams w) s.solana = .ok (t, r)) :
      Step w s (.solanaReceive accounts p r) { s with solana := t, toSolana := s.toSolana.erase p }
  | evmSend {s : State} {t : Evm.Contract.SanOFT} {sender : Evm.Runtime.Address}
      {params : Evm.Base.SendParam} {r : Evm.Contract.SendResult} (oft : Evm.Base.OFT)
      (h : Evm.Contract.send oft s.evm.now sender params s.evm.token = .ok (t, r)) :
      Step w s (.evmSend sender params r)
        { s with evm := { s.evm with token := t }, toSolana := evmPacket w r ::ₘ s.toSolana }
  | evmReceive {s : State} {t : Evm.Contract.SanOFT} {sender : Evm.Runtime.Address} {p : Packet}
      {r : Evm.Contract.OFTReceived} (oft : Evm.Base.OFT) (hp : p ∈ s.toRobinhood)
      (hr : p.receiver = w.sanOft)
      (h : Evm.Contract.lzReceive oft s.evm.now sender (p.origin w) p.guid p.message s.evm.token =
        .ok (t, r)) :
      Step w s (.evmReceive sender p r)
        { s with evm := { s.evm with token := t }, toRobinhood := s.toRobinhood.erase p }

/-- An Adapter store just initialized, a contract just deployed, nothing in flight. -/
structure Initial (w : Wiring) (s : State) : Prop where
  solana : Solana.Program.Initial w.space s.solana
  adapter : s.solana.store.oftType = .adapter
  key : s.solana.key = w.store
  evm : Evm.Program.Initial s.evm
  toRobinhood : s.toRobinhood = 0
  toSolana : s.toSolana = 0

def Reachable (w : Wiring) (s : State) : Prop := ∃ s₀, Initial w s₀ ∧ Reaches (Step w) s₀ s

section Sample

/-! A bridge wired, limited and unpaused step by step on the Solana side, and a
first transfer of 100 tokens on its way to Robinhood. -/

open Solana.Program

def sampleWiring : Wiring := ⟨sampleSpace, 30168, 30416, pubkey 9, pubkey 11⟩

def sampleState (solana : StoreState) : State := ⟨solana, Evm.Limits.deployed, 0, 0⟩

def sampleLimiter : RateLimiter := ⟨500000000000, 500000000000, 5787037, 0⟩

def sampleProfile : RateLimitParams := ⟨some 5787037, some 500000000000⟩

def withPeer (s : StoreState) (peer : PeerConfig) : StoreState :=
  { s with peers := Function.update s.peers 30416 (some peer) }

def unpausedStore : StoreState :=
  { sampleStore with store := { sampleStore.store with paused := false } }

def wiredPeer : PeerConfig := { PeerConfig.zeroed with peerAddress := pubkey 11, bump := 255 }

def outboundPeer : PeerConfig := { wiredPeer with outboundRateLimiter := some sampleLimiter }

def matchedPeer : PeerConfig := { outboundPeer with inboundRateLimiter := some sampleLimiter }

def matchedStore : StoreState :=
  withPeer (withPeer (withPeer unpausedStore wiredPeer) outboundPeer) matchedPeer

def sampleConfig (config : PeerConfigParam) : Call := .setPeerConfig (pubkey 4) ⟨30416, config⟩

theorem initial_sampleState : Initial sampleWiring (sampleState sampleStore) :=
  ⟨initial_sampleStore, rfl, rfl, Evm.Limits.initial_deployed, rfl, rfl⟩

/-- The wiring takes four configurations of the store and nothing else. -/
theorem run_matched : ∃ tr, Run (Step sampleWiring) (sampleState sampleStore) tr (sampleState matchedStore) ∧
    ∀ q ∈ tr, ∃ e, q.2 = .solana e := by
  have h₁ : Step sampleWiring (sampleState sampleStore)
      (.solana (.call (.setOftConfig (pubkey 4) (.paused false)) .done)) (sampleState unpausedStore) :=
    .solana trivial (.call sampleOapp rfl)
  have h₂ : Step sampleWiring (sampleState unpausedStore)
      (.solana (.call (sampleConfig (.peerAddress (pubkey 11))) .done))
      (sampleState (withPeer unpausedStore wiredPeer)) :=
    .solana ⟨rfl, by simp [sampleWiring]⟩ (.call sampleOapp rfl)
  have h₃ : Step sampleWiring (sampleState (withPeer unpausedStore wiredPeer))
      (.solana (.call (sampleConfig (.outboundRateLimit (some sampleProfile))) .done))
      (sampleState (withPeer (withPeer unpausedStore wiredPeer) outboundPeer)) :=
    .solana ⟨rfl, by simp⟩ (.call sampleOapp rfl)
  have h₄ : Step sampleWiring (sampleState (withPeer (withPeer unpausedStore wiredPeer) outboundPeer))
      (.solana (.call (sampleConfig (.inboundRateLimit (some sampleProfile))) .done))
      (sampleState matchedStore) :=
    .solana ⟨rfl, by simp⟩ (.call sampleOapp rfl)
  exact ⟨_, .cons h₁ (.cons h₂ (.cons h₃ (.single h₄))), by simp⟩

theorem reachable_matched : Reachable sampleWiring (sampleState matchedStore) := by
  obtain ⟨tr, h, _⟩ := run_matched
  exact ⟨_, initial_sampleState, tr, h⟩

def sampleAccounts : SendAccounts := ⟨pubkey 6, pubkey 5, [pubkey 0, pubkey 9]⟩

def sampleParams : SendParams := ⟨30416, pubkey 12, 100, 100, [], none, 0, 0⟩

def sampleResult : SendResult where
  packet := ⟨30416, pubkey 11, Solana.MsgCodec.encode (pubkey 12) 100 (pubkey 6) none, [], 0, 0⟩
  receipt := ⟨pubkey 7, 1⟩
  oftReceipt := ⟨100, 100⟩
  event := ⟨pubkey 7, 30416, pubkey 5, 100, 100⟩

def sentPeer : PeerConfig :=
  { matchedPeer with outboundRateLimiter := some { sampleLimiter with tokens := 499999999900 } }

def sentTokens : TokenAccounts where
  amount := Function.update (Function.update matchedStore.tokens.amount (pubkey 5) 900) (pubkey 3) 100
  owner := matchedStore.tokens.owner

def sentStore : StoreState := withPeer (Solana.Effects.moved matchedStore 100 sentTokens) sentPeer

def sentState : State :=
  { sampleState sentStore with toRobinhood := {solanaPacket matchedStore sampleResult} }

theorem step_sent : Step sampleWiring (sampleState matchedStore)
    (.solanaSend sampleAccounts sampleParams sampleResult) sentState :=
  .solanaSend sampleOapp rfl

theorem reachable_sent : Reachable sampleWiring sentState := by
  obtain ⟨s₀, hi, hr⟩ := reachable_matched
  exact ⟨s₀, hi, hr.tail step_sent⟩

end Sample

end SanBridge.System.Bridge
