import SanBridge.Tooling.Manifest

namespace SanBridge.Tooling.SolanaScan

open Library.BigEndian Library.Checked Tooling.Runtime Tooling.Inventory Tooling.Checker Tooling.Policy
open Tooling.Manifest
open Solana.Runtime (Pubkey)

def solanaEid : Nat := 30168
def robinhoodEid : Nat := 30416
def eventCpiDiscriminator : String := "e445a52e51cb9a1d"
def oftSentDiscriminator : String := "6cabdb02bd156e6e"
def oftReceivedDiscriminator : String := "908170439098c92a"

section Rpc

structure SignatureInfo where
  signature : String
  slot : Nat
  failed : Bool
  deriving DecidableEq

structure ParsedInstruction where
  programId : Option Pubkey
  data : Option String

structure TransactionMeta where
  failed : Bool
  innerInstructions : Option (List (List ParsedInstruction))

structure ParsedTransaction where
  txMeta : Option TransactionMeta

/-- What the accessors of `PacketV1Codec` read from an encoded packet. -/
structure PacketV1 where
  guid : String
  nonce : String
  srcEid : Nat
  dstEid : Nat
  sender : String
  receiverAddressB20 : String
  message : String

/-- The node the scanner asks, and the SDK that finds the packets of a transaction.
Any request may throw. -/
structure SolanaRpc where
  getSlot : Result Int
  getFirstAvailableBlock : Result Int
  getBlock : Int → Result (Option String)
  getGenesisHash : Result String
  getSignaturesForAddress : Option String → Result (List SignatureInfo)
  getParsedTransaction : String → Result (Option ParsedTransaction)
  extractSentPacketEventByTxHash : ParsedTransaction → Result (Option (List Bytes))

/-- The formats of instruction data and of packets, besides those of addresses. -/
structure ScanFormats extends AddressFormats where
  packetFromBytes : Bytes → Result PacketV1
  bs58Encode : Bytes → String
  bs58Decode : String → Option Bytes
  decode_encode : ∀ bytes, bs58Decode (bs58Encode bytes) = some bytes
  decode_empty : bs58Decode "" = some []

end Rpc

variable (host : Host) (formats : ScanFormats) (rpc : SolanaRpc)

section Events

inductive EventName
  | oftSent | oftReceived
  deriving DecidableEq

structure SolanaOftEvent where
  name : EventName
  guid : String
  eid : Nat
  address : String
  amountRaw : String
  index : Nat
  deriving DecidableEq

def hexText (bytes : Bytes) : String := "0x" ++ hexDigest bytes

def u64le (data : Bytes) (offset : Nat) : String := toString (readLe ((data.drop offset).take 8))

def readUInt32LE (data : Bytes) (offset : Nat) : Nat := readLe ((data.drop offset).take 4)

def decodeEvent (data : Bytes) (index : Nat) : Option SolanaOftEvent := do
  let discriminator := hexDigest ((data.drop 8).take 8)
  let body := data.drop 16
  let (name, amountOffset) ←
    if discriminator = oftSentDiscriminator ∧ 84 ≤ body.length then some (.oftSent, 76)
    else if discriminator = oftReceivedDiscriminator ∧ 76 ≤ body.length then some (.oftReceived, 68)
    else none
  let address ← keyOf ((body.drop 36).take 32)
  some {
    name := name
    guid := hexText (body.take 32)
    eid := readUInt32LE body 32
    address := formats.toBase58 address
    amountRaw := u64le body amountOffset
    index := index }

/-- The data of an instruction the program invokes itself with, under the event tag. -/
def taggedData (instruction : ParsedInstruction) : Result (Option Bytes) := do
  let program ← ofOption "Invalid public key input" (formats.publicKey (some (.str productionSolanaOftProgram)))
  let text := instruction.data.getD ""
  if instruction.programId ≠ some program ∨ text = "" then .ok none else do
    let data ← ofOption "Non-base58 character" (formats.bs58Decode text)
    .ok (if data.length < 16 ∨ hexDigest (data.take 8) ≠ eventCpiDiscriminator then none else some data)

/-- The events found so far and the index of the next tagged instruction, known or not. -/
def visitInstruction (found : List SolanaOftEvent × Nat) (instruction : ParsedInstruction) :
    Result (List SolanaOftEvent × Nat) := do
  let data ← taggedData formats instruction
  .ok <| match data with
  | none => found
  | some data => (found.1 ++ (decodeEvent formats data found.2).toList, found.2 + 1)

def extractSolanaOftEvents (tx : ParsedTransaction) : Result (List SolanaOftEvent) :=
  if tx.txMeta.any (·.failed) then .ok [] else do
    let groups := (tx.txMeta.bind (·.innerInstructions)).getD []
    let found ← groups.foldlM (fun found group => group.foldlM (visitInstruction formats) found) ([], 0)
    .ok found.1

end Events

section Requests

/-- `Number.isSafeInteger(x) && x > 0` of an integer. -/
def isPositiveSafe (x : Int) : Bool := 0 < x ∧ x ≤ 2 ^ 53 - 1

def requireFinalizedRangeEnd (rangeEnd finalizedHead : Int) (label : String) : Result Unit := do
  require (label ++ " range end and finalized head must be positive safe integers")
    (isPositiveSafe rangeEnd ∧ isPositiveSafe finalizedHead)
  require (label ++ " scan end is newer than the provider finalized head") (rangeEnd ≤ finalizedHead)

def blockAt (slot : Int) : Result String := do
  let block ← rpc.getBlock slot
  ofOption ("Solana finalized block " ++ toString slot ++ " is unavailable") block

def requireSolanaMainnet (genesisHash : String) : Result Unit :=
  require ("RPC is not Solana mainnet: unexpected genesis hash " ++ genesisHash)
    (genesisHash = solanaMainnetGenesisHash)

/-- The loop over a page: what it keeps, and whether it met a slot before the range. -/
def visitPage (fromSlot toSlot : Int) : List SignatureInfo → List SignatureInfo × Bool
  | [] => ([], false)
  | item :: page =>
    if (item.slot : Int) < fromSlot then ([], true)
    else
      let (kept, complete) := visitPage fromSlot toSlot page
      (if item.slot ≤ toSlot ∧ item.failed = false then item :: kept else kept, complete)

/-- The loop over the pages. It has no bound of its own: running out of fuel stands for not returning. -/
def collectSignatures (fromSlot toSlot : Int) : Nat → Option String → Result (List SignatureInfo × Bool)
  | 0, _ => .error "out of fuel"
  | fuel + 1, before => do
    let page ← rpc.getSignaturesForAddress before
    match page.getLast? with
    | none => .ok ([], true)
    | some last => do
      let (kept, complete) := visitPage fromSlot toSlot page
      if complete then .ok (kept, true) else do
        let (older, complete) ← collectSignatures fromSlot toSlot fuel (some last.signature)
        .ok (kept ++ older, complete)

end Requests

section Evidence

structure Found where
  sent : List InFlightMessageEvidence
  received : List InFlightMessageEvidence

/-- `Buffer.from(text, 'hex')` stops at the first pair that is not hexadecimal. -/
def bufferFromHex : List Char → Bytes
  | a :: b :: cs =>
    if isHex a ∧ isHex b then UInt8.ofNat (16 * digitValue a + digitValue b) :: bufferFromHex cs else []
  | _ => []

def readOftReceiver (messageHex : String) : Result String := do
  let digits := messageHex.toList
  let bytes := bufferFromHex (if startsWith messageHex "0x" then digits.drop 2 else digits)
  require "LayerZero OFT packet message is shorter than 40 bytes" (40 ≤ bytes.length)
  .ok (hexText (bytes.take 32))

def getPublicKey (address : String) : Result Pubkey :=
  ofOption "Invalid public key input" (formats.publicKey (some (.str address)))

def sentEvidence (solanaStore robinhoodOft : String) (item : SignatureInfo) (blockhash : String)
    (packets : List Bytes) (event : SolanaOftEvent) : Result InFlightMessageEvidence := do
  let lacking := "Solana OFTSent lacks matching Endpoint packet evidence: " ++ event.guid
  let decoded ← packets.mapM formats.packetFromBytes
  let packet ← ofOption lacking <|
    decoded.find? fun packet => host.toLowerCase packet.guid = host.toLowerCase event.guid
  require lacking (packet.srcEid = solanaEid ∧ packet.dstEid = robinhoodEid)
  let store ← getPublicKey formats solanaStore
  require lacking (host.toLowerCase packet.sender = host.toLowerCase (hexText store.toList) ∧
    host.toLowerCase packet.receiverAddressB20 = host.toLowerCase robinhoodOft)
  let destinationOft ← getAddress formats.toAddressFormats (some (.str robinhoodOft))
  let receiver ← readOftReceiver packet.message
  .ok {
    guid := host.toLowerCase event.guid
    direction := .solanaToRobinhood
    sourceNonce := packet.nonce
    sourceTransaction := item.signature
    sourceHeight := toString item.slot
    sourceBlockHash := blockhash
    sourceEventIndex := .finite event.index
    sourceOft := solanaStore
    destinationOft := destinationOft
    amountRaw := event.amountRaw
    receiver := receiver
    status := .unresolved
    destinationTransaction := none
    destinationHeight := none
    destinationBlockHash := none
    layerZeroApiStatus := none }

/-- The event is taken as it is: no packet and no store is asked for. -/
def receivedEvidence (solanaStore robinhoodOft : String) (item : SignatureInfo) (blockhash : String)
    (event : SolanaOftEvent) : Result InFlightMessageEvidence := do
  let sourceOft ← getAddress formats.toAddressFormats (some (.str robinhoodOft))
  let receiver ← getPublicKey formats event.address
  .ok {
    guid := host.toLowerCase event.guid
    direction := .robinhoodToSolana
    sourceNonce := "0"
    sourceTransaction := ""
    sourceHeight := "0"
    sourceBlockHash := ""
    sourceEventIndex := .finite event.index
    sourceOft := sourceOft
    destinationOft := solanaStore
    amountRaw := event.amountRaw
    receiver := hexText receiver.toList
    status := .delivered
    destinationTransaction := some item.signature
    destinationHeight := some (toString item.slot)
    destinationBlockHash := some blockhash
    layerZeroApiStatus := none }

def visitEvent (solanaStore robinhoodOft : String) (item : SignatureInfo) (blockhash : String)
    (packets : List Bytes) (found : Found) (event : SolanaOftEvent) : Result Found :=
  if event.eid ≠ robinhoodEid then .ok found
  else match event.name with
  | .oftSent => do
    let message ← sentEvidence host formats solanaStore robinhoodOft item blockhash packets event
    .ok { found with sent := found.sent ++ [message] }
  | .oftReceived => do
    let message ← receivedEvidence host formats solanaStore robinhoodOft item blockhash event
    .ok { found with received := found.received ++ [message] }

def visitTransaction (solanaStore robinhoodOft : String) (found : Found) (item : SignatureInfo) :
    Result Found := do
  let answer ← rpc.getParsedTransaction item.signature
  let tx ← ofOption ("Solana transaction evidence is unavailable: " ++ item.signature) answer
  let blockhash ← blockAt rpc item.slot
  let events ← extractSolanaOftEvents formats tx
  let packets ← rpc.extractSentPacketEventByTxHash tx
  events.foldlM (visitEvent host formats solanaStore robinhoodOft item blockhash (packets.getD [])) found

structure ScanResult where
  range : SolanaRange
  sent : List InFlightMessageEvidence
  received : List InFlightMessageEvidence

def scanSolana (fuel : Nat) (fromSlot toSlot : Int) (solanaStore robinhoodOft : String) : Result ScanResult := do
  let finalizedSlot ← rpc.getSlot
  requireFinalizedRangeEnd toSlot finalizedSlot "Solana"
  let firstAvailableBlock ← rpc.getFirstAvailableBlock
  require "Solana RPC history is pruned before the approved scan start" (firstAvailableBlock ≤ fromSlot)
  let startBlockhash ← blockAt rpc fromSlot
  let endBlockhash ← blockAt rpc toSlot
  let genesisHash ← rpc.getGenesisHash
  requireSolanaMainnet genesisHash
  let (signatures, paginationComplete) ← collectSignatures rpc fromSlot toSlot fuel none
  require "Solana signature pagination did not reach the approved range start" paginationComplete
  let found ← signatures.foldlM (visitTransaction host formats rpc solanaStore robinhoodOft) ⟨[], []⟩
  .ok {
    range := {
      fromSlot := toString fromSlot
      toSlot := toString toSlot
      finalizedSlot := toString toSlot
      genesisHash := genesisHash
      startBlockhash := startBlockhash
      endBlockhash := endBlockhash
      complete := true
      paginationComplete := paginationComplete }
    sent := sortMessages host found.sent
    received := sortMessages host found.received }

end Evidence

end SanBridge.Tooling.SolanaScan
