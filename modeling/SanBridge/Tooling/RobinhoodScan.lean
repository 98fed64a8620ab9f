import SanBridge.Tooling.SolanaScan

namespace SanBridge.Tooling.RobinhoodScan

open Library.BigEndian Library.Checked Tooling.Runtime Tooling.Inventory Tooling.Checker Tooling.Policy
open Tooling.Manifest
open Tooling.SolanaScan (solanaEid robinhoodEid PacketV1 ScanFormats Found hexText readOftReceiver getPublicKey
  requireFinalizedRangeEnd)

section Rpc

/-- A log; only the interfaces read its topics and its data. -/
structure Log where
  address : String
  topics : List String
  data : String
  transactionHash : String
  blockNumber : Nat
  blockHash : String
  logIndex : Nat
  deriving DecidableEq

structure TransactionReceipt where
  status : Option Nat
  logs : List Log

structure FinalizedBlock where
  number : Option String
  hash : Option String

/-- The node the scanner asks; of a block it reads the hash. Any request may throw. -/
structure RobinhoodRpc where
  getNetwork : Result Nat
  finalizedBlock : Result (Option FinalizedBlock)
  getBlock : Int → Result (Option String)
  getLogs : String → Int → Int → Result (List Log)
  getTransactionReceipt : String → Result (Option TransactionReceipt)

/-- The events of `OFT_ABI`. -/
inductive OftLog
  | oftSent (guid : String) (dstEid : Nat) (fromAddress : String) (amountSentLD amountReceivedLD : Nat)
  | oftReceived (guid : String) (srcEid : Nat) (toAddress : String) (amountReceivedLD : Nat)
  deriving DecidableEq

/-- The event of `ENDPOINT_ABI`. -/
structure PacketSent where
  encodedPayload : String
  options : String
  sendLibrary : String

/-- The accessors of `PacketV1Codec` that only this scanner uses come on top. -/
structure EvmPacketV1 extends PacketV1 where
  senderAddressB20 : String
  receiver : String

/-- The two interfaces, which know no log but those of their events, and the codec for a
packet in hexadecimal. -/
structure EvmFormats extends ScanFormats where
  parseOftLog : Log → Option OftLog
  parseEndpointLog : Log → Option PacketSent
  packetFrom : String → Result EvmPacketV1

end Rpc

variable (host : Host) (formats : EvmFormats) (rpc : RobinhoodRpc)

section Evidence

def packetsOf (receipt : TransactionReceipt) : Result (List EvmPacketV1) :=
  let endpointLogs := receipt.logs.filter fun entry =>
    host.toLowerCase entry.address = host.toLowerCase productionRobinhoodEndpoint
  (endpointLogs.filterMap formats.parseEndpointLog).mapM fun entry => formats.packetFrom entry.encodedPayload

def sentEvidence (robinhoodOft solanaStore : String) (log : Log) (guid : String) (amountReceivedLD : Nat) :
    Result InFlightMessageEvidence := do
  let answer ← rpc.getTransactionReceipt log.transactionHash
  let receipt ← ofOption ("Robinhood source receipt is unavailable: " ++ log.transactionHash)
    (answer.filter fun receipt => receipt.status = some 1)
  let packets ← packetsOf host formats receipt
  let lacking := "Robinhood OFTSent lacks matching Endpoint packet evidence: " ++ guid
  let packet ← ofOption lacking <|
    packets.find? fun packet => host.toLowerCase packet.guid = host.toLowerCase guid
  require lacking (packet.srcEid = robinhoodEid ∧ packet.dstEid = solanaEid ∧
    host.toLowerCase packet.senderAddressB20 = host.toLowerCase robinhoodOft)
  let store ← getPublicKey formats.toScanFormats solanaStore
  require lacking (host.toLowerCase packet.receiver = host.toLowerCase (hexText store.toList))
  let sourceOft ← getAddress formats.toAddressFormats (some (.str robinhoodOft))
  let receiver ← readOftReceiver packet.message
  .ok {
    guid := host.toLowerCase guid
    direction := .robinhoodToSolana
    sourceNonce := packet.nonce
    sourceTransaction := host.toLowerCase log.transactionHash
    sourceHeight := toString log.blockNumber
    sourceBlockHash := host.toLowerCase log.blockHash
    sourceEventIndex := .finite log.logIndex
    sourceOft := sourceOft
    destinationOft := solanaStore
    amountRaw := toString amountReceivedLD
    receiver := receiver
    status := .unresolved
    destinationTransaction := none
    destinationHeight := none
    destinationBlockHash := none
    layerZeroApiStatus := none }

def receivedEvidence (robinhoodOft solanaStore : String) (log : Log) (guid toAddress : String)
    (amountReceivedLD : Nat) : Result InFlightMessageEvidence := do
  let destinationOft ← getAddress formats.toAddressFormats (some (.str robinhoodOft))
  let receiver ← bytes32FromEvm host formats.toAddressFormats toAddress
  .ok {
    guid := host.toLowerCase guid
    direction := .solanaToRobinhood
    sourceNonce := "0"
    sourceTransaction := ""
    sourceHeight := "0"
    sourceBlockHash := ""
    sourceEventIndex := .finite log.logIndex
    sourceOft := solanaStore
    destinationOft := destinationOft
    amountRaw := toString amountReceivedLD
    receiver := receiver
    status := .delivered
    destinationTransaction := some (host.toLowerCase log.transactionHash)
    destinationHeight := some (toString log.blockNumber)
    destinationBlockHash := some (host.toLowerCase log.blockHash)
    layerZeroApiStatus := none }

def visitLog (robinhoodOft solanaStore : String) (found : Found) (log : Log) : Result Found :=
  match formats.parseOftLog log with
  | none => .ok found
  | some (.oftSent guid dstEid _ _ amountReceivedLD) =>
    if dstEid ≠ solanaEid then .ok found else do
    let message ← sentEvidence host formats rpc robinhoodOft solanaStore log guid amountReceivedLD
    .ok { found with sent := found.sent ++ [message] }
  | some (.oftReceived guid srcEid toAddress amountReceivedLD) =>
    if srcEid ≠ solanaEid then .ok found else do
    let message ← receivedEvidence host formats robinhoodOft solanaStore log guid toAddress amountReceivedLD
    .ok { found with received := found.received ++ [message] }

end Evidence

section Scan

/-- The loop over the windows of blocks. A page size below one never ends it: running
out of fuel stands for not returning. -/
def scanWindows (robinhoodOft solanaStore : String) (toBlock pageSize : Int) : Nat → Int → Found → Result Found
  | 0, _, _ => .error "out of fuel"
  | fuel + 1, start, found =>
    if toBlock < start then .ok found else do
    let logs ← rpc.getLogs robinhoodOft start (min (start + pageSize - 1) toBlock)
    let found ← logs.foldlM (visitLog host formats rpc robinhoodOft solanaStore) found
    scanWindows robinhoodOft solanaStore toBlock pageSize fuel (start + pageSize) found

structure ScanResult where
  range : RobinhoodRange
  sent : List InFlightMessageEvidence
  received : List InFlightMessageEvidence

def scanRobinhood (fuel : Nat) (fromBlock toBlock : Int) (robinhoodOft solanaStore : String) (pageSize : Int) :
    Result ScanResult := do
  let chainId ← rpc.getNetwork
  require "Robinhood scanner RPC chainId is not 4663" (chainId = 4663)
  let finalized ← rpc.finalizedBlock
  let number := (finalized.bind (·.number)).getD ""
  let hash := (finalized.bind (·.hash)).getD ""
  require "Robinhood RPC does not expose a finalized block" (number ≠ "" ∧ hash ≠ "")
  let finalizedBlockNumber ← stringToBigInt number
  requireFinalizedRangeEnd toBlock finalizedBlockNumber "Robinhood"
  let startBlock ← rpc.getBlock fromBlock
  let endBlock ← rpc.getBlock toBlock
  let startBlockHash := startBlock.getD ""
  let endBlockHash := endBlock.getD ""
  require "Robinhood finalized range block hashes are unavailable or inconsistent"
    (startBlockHash ≠ "" ∧ endBlockHash ≠ "" ∧
      (toBlock = finalizedBlockNumber → host.toLowerCase endBlockHash = host.toLowerCase hash))
  let found ← scanWindows host formats rpc robinhoodOft solanaStore toBlock pageSize fuel fromBlock ⟨[], []⟩
  .ok {
    range := {
      fromBlock := toString fromBlock
      toBlock := toString toBlock
      finalizedBlock := toString toBlock
      startBlockHash := host.toLowerCase startBlockHash
      endBlockHash := host.toLowerCase endBlockHash
      complete := true
      paginationComplete := true }
    sent := sortMessages host found.sent
    received := sortMessages host found.received }

end Scan

end SanBridge.Tooling.RobinhoodScan
