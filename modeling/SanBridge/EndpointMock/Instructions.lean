import SanBridge.Solana.Instructions

namespace SanBridge.EndpointMock.Instructions

open Library.BigEndian Library.Checked Solana.Runtime
open Solana.Instructions (EndpointSendParams QuoteParams ClearParams MessagingFee asciiBytes)

inductive MockEndpointError
  | unauthorized | invalidMessage | alreadyConsumed | incompleteConfiguration | arithmeticOverflow
  deriving DecidableEq, Repr

/-- `constraint` is an account that is not there, or one to be created that is. -/
inductive EndpointError
  | mock (e : MockEndpointError)
  | constraint
  deriving DecidableEq, Repr

abbrev Result := Except EndpointError

def requireMock (e : MockEndpointError) (c : Bool) : Result Unit := require (.mock e) c

/-- What the program gets from the runtime: bumps and the Keccak hash. -/
structure Syscalls where
  findBump : List Bytes → UInt8
  keccak : Bytes → Pubkey

def Syscalls.hashv (sys : Syscalls) (parts : List Bytes) : Pubkey := sys.keccak parts.flatten

structure OAppRegistry where
  delegate : Pubkey
  sendLibraryConfigured : Bool
  receiveLibraryConfigured : Bool
  sendUlnConfigured : Bool
  receiveUlnConfigured : Bool
  executorConfigured : Bool
  bump : UInt8

structure PacketCounter where
  count : Nat
  bump : UInt8

structure AuthorizedMessage where
  receiver : Pubkey
  srcEid : U32
  sender : Pubkey
  nonce : U64
  guid : Pubkey
  payloadHash : Pubkey
  consumed : Bool
  bump : UInt8

/-- What is authorised for a receiver under a GUID. -/
structure Terms where
  srcEid : U32
  sender : Pubkey
  nonce : U64
  payloadHash : Pubkey
  deriving DecidableEq

def AuthorizedMessage.terms (m : AuthorizedMessage) : Terms := ⟨m.srcEid, m.sender, m.nonce, m.payloadHash⟩

/-- The accounts of the program under their seeds: registries and counters by OApp,
messages by receiver and GUID. -/
structure Endpoint where
  oappRegistry : Pubkey → Option OAppRegistry
  packetCounter : Pubkey → Option PacketCounter
  authorizedMessage : Pubkey × Pubkey → Option AuthorizedMessage

def Endpoint.empty : Endpoint := ⟨fun _ => none, fun _ => none, fun _ => none⟩

def Endpoint.setRegistry (e : Endpoint) (oapp : Pubkey) (r : OAppRegistry) : Endpoint :=
  { e with oappRegistry := Function.update e.oappRegistry oapp (some r) }

def Endpoint.setCounter (e : Endpoint) (oapp : Pubkey) (c : PacketCounter) : Endpoint :=
  { e with packetCounter := Function.update e.packetCounter oapp (some c) }

def Endpoint.setMessage (e : Endpoint) (key : Pubkey × Pubkey) (m : AuthorizedMessage) : Endpoint :=
  { e with authorizedMessage := Function.update e.authorizedMessage key (some m) }

def oappSeed : Bytes := asciiBytes "OApp"
def authorizedMessageSeed : Bytes := asciiBytes "AuthorizedMessage"
def packetCounterSeed : Bytes := asciiBytes "PacketCounter"

variable (sys : Syscalls)

def registerOapp (oapp delegate : Pubkey) (e : Endpoint) : Result Endpoint := do
  require .constraint (e.oappRegistry oapp).isNone
  let registry : OAppRegistry := {
    delegate := delegate
    sendLibraryConfigured := false
    receiveLibraryConfigured := false
    sendUlnConfigured := false
    receiveUlnConfigured := false
    executorConfigured := false
    bump := sys.findBump [oappSeed, oapp.toList] }
  .ok (e.setRegistry oapp registry)

structure AuthorizeMessageParams where
  receiver : Pubkey
  srcEid : U32
  sender : Pubkey
  nonce : U64
  guid : Pubkey
  message : Bytes

/-- Accounts are loaded and created before their constraints are checked. -/
def authorizeMessage (authority : Pubkey) (params : AuthorizeMessageParams) (e : Endpoint) : Result Endpoint := do
  let registry ← ofOption .constraint (e.oappRegistry params.receiver)
  require .constraint (e.authorizedMessage (params.receiver, params.guid)).isNone
  requireMock .unauthorized (registry.delegate == authority)
  let authorized : AuthorizedMessage := {
    receiver := params.receiver
    srcEid := params.srcEid
    sender := params.sender
    nonce := params.nonce
    guid := params.guid
    payloadHash := sys.hashv [params.guid.toList, params.message]
    consumed := false
    bump := sys.findBump [authorizedMessageSeed, params.receiver.toList, params.guid.toList] }
  .ok (e.setMessage (params.receiver, params.guid) authorized)

structure MessagingReceipt where
  guid : Pubkey
  nonce : U64
  fee : MessagingFee

def OAppRegistry.configured (r : OAppRegistry) : Bool :=
  r.sendLibraryConfigured && r.receiveLibraryConfigured && r.sendUlnConfigured && r.receiveUlnConfigured &&
    r.executorConfigured

/-- The GUID is the hash of what is sent and to whom, the nonce is always 1. -/
def send (sender : Pubkey) (params : EndpointSendParams) (e : Endpoint) :
    Result (Endpoint × MessagingReceipt) := do
  let registry ← ofOption .constraint (e.oappRegistry sender)
  let counter ← ofOption .constraint (e.packetCounter sender)
  requireMock .incompleteConfiguration registry.configured
  let count ← add (2 ^ 64) (.mock .arithmeticOverflow) counter.count 1
  let guid := sys.hashv [beBytes 4 params.dstEid, params.receiver.toList, params.message]
  .ok (e.setCounter sender { counter with count := count }, ⟨guid, 1, ⟨0, 0⟩⟩)

structure SetMockConfigParams where
  sendLibraryConfigured : Bool
  receiveLibraryConfigured : Bool
  sendUlnConfigured : Bool
  receiveUlnConfigured : Bool
  executorConfigured : Bool

def SetMockConfigParams.complete (params : SetMockConfigParams) : Bool :=
  params.sendLibraryConfigured && params.receiveLibraryConfigured && params.sendUlnConfigured &&
    params.receiveUlnConfigured && params.executorConfigured

def OAppRegistry.withConfig (r : OAppRegistry) (params : SetMockConfigParams) : OAppRegistry :=
  { r with
    sendLibraryConfigured := params.sendLibraryConfigured
    receiveLibraryConfigured := params.receiveLibraryConfigured
    sendUlnConfigured := params.sendUlnConfigured
    receiveUlnConfigured := params.receiveUlnConfigured
    executorConfigured := params.executorConfigured }

def setMockConfig (authority oapp : Pubkey) (params : SetMockConfigParams) (e : Endpoint) : Result Endpoint := do
  let registry ← ofOption .constraint (e.oappRegistry oapp)
  requireMock .unauthorized (registry.delegate == authority)
  .ok (e.setRegistry oapp (registry.withConfig params))

def initMockPacketCounter (authority oapp : Pubkey) (e : Endpoint) : Result Endpoint := do
  let registry ← ofOption .constraint (e.oappRegistry oapp)
  require .constraint (e.packetCounter oapp).isNone
  requireMock .unauthorized (registry.delegate == authority)
  let counter : PacketCounter := ⟨0, sys.findBump [packetCounterSeed, oapp.toList]⟩
  .ok (e.setCounter oapp counter)

def quote (_params : QuoteParams) : Result MessagingFee := .ok ⟨0, 0⟩

def AuthorizedMessage.cleared (m : AuthorizedMessage) : AuthorizedMessage := { m with consumed := true }

def clear (signer : Pubkey) (params : ClearParams) (e : Endpoint) : Result (Endpoint × Pubkey) := do
  let _registry ← ofOption .constraint (e.oappRegistry params.receiver)
  let authorized ← ofOption .constraint (e.authorizedMessage (params.receiver, params.guid))
  requireMock .unauthorized (signer == params.receiver)
  let payloadHash := sys.hashv [params.guid.toList, params.message]
  requireMock .alreadyConsumed (!authorized.consumed)
  requireMock .invalidMessage (authorized.receiver == params.receiver)
  requireMock .invalidMessage (authorized.srcEid == params.srcEid)
  requireMock .invalidMessage (authorized.sender == params.sender)
  requireMock .invalidMessage (authorized.nonce == params.nonce)
  requireMock .invalidMessage (authorized.guid == params.guid)
  requireMock .invalidMessage (authorized.payloadHash == payloadHash)
  .ok (e.setMessage (params.receiver, params.guid) authorized.cleared, payloadHash)

end SanBridge.EndpointMock.Instructions
