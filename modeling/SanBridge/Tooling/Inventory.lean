import SanBridge.Tooling.Runtime

namespace SanBridge.Tooling.Inventory

open Library.Checked Tooling.Runtime

def scannerName : String := "scanProductionInFlight"
def scannerVersion : String := "1.0.0"
def bridgeCodeAuditTarget : String := "d28762288bb5180ff292f57eef7132191f2037ec"
def solanaMainnetGenesisHash : String := "5eykt4UsFv8P8NJdTREpY1vzqKqZKvdpKuc147dw2N9d"

variable (host : Host)

def exactKeys (v : Value) (expected : List String) (label : String) : Result Unit := do
  let actual ← objectKeys v
  require (label ++ " has missing or unknown fields") (sortStrings actual = sortStrings expected)

def unsignedInteger (v : Value) (label : String) (positive : Bool) : Result Nat :=
  match v with
  | some (.str s) => do
    require (label ++ " must be an unsigned integer string") (isDigits s)
    require (label ++ " must be positive") (!positive || 0 < decimalValue s)
    .ok (decimalValue s)
  | _ => .error (label ++ " must be an unsigned integer string")

def hash32 (v : Value) (label : String) : Result String :=
  match v with
  | some (.str s) => do
    require (label ++ " must be a 32-byte hex hash") (isHash32 s)
    .ok (host.toLowerCase s)
  | _ => .error (label ++ " must be a 32-byte hex hash")

def nonempty (v : Value) (label : String) : Result String :=
  match v with
  | some (.str s) => do
    require (label ++ " is required") (!blank s)
    .ok s
  | _ => .error (label ++ " is required")

def equalIdentity (actual : String) (expected : Value) : Result Bool := do
  let wanted ← asString expected
  .ok (if startsWith actual "0x" || startsWith wanted "0x" then
    host.toLowerCase actual = host.toLowerCase wanted
  else actual = wanted)

def manifestChecksum (unsigned : Json) : String :=
  "0x" ++ hexDigest (host.sha256 ("SAN_IN_FLIGHT_MANIFEST_V2\n" ++ canonicalJson host unsigned)).toList

/-- The record without its checksum. -/
def unsignedPart : Json → Json
  | .obj fields => .obj (fields.filter fun f => f.1 ≠ "manifestChecksum")
  | v => v

section Ranges

def solanaRangeKeys : List String :=
  ["fromSlot", "toSlot", "finalizedSlot", "genesisHash", "startBlockhash", "endBlockhash", "complete",
    "paginationComplete"]

def robinhoodRangeKeys : List String :=
  ["fromBlock", "toBlock", "finalizedBlock", "startBlockHash", "endBlockHash", "complete",
    "paginationComplete"]

def validateRange (manifest : Value) : Result Unit := do
  let solana := get (get manifest "ranges") "solana"
  let robinhood := get (get manifest "ranges") "robinhood"
  exactKeys solana solanaRangeKeys "Solana scan range"
  exactKeys robinhood robinhoodRangeKeys "Robinhood scan range"
  let solanaFrom ← unsignedInteger (get solana "fromSlot") "Solana fromSlot" false
  let solanaTo ← unsignedInteger (get solana "toSlot") "Solana toSlot" true
  let solanaFinalized ← unsignedInteger (get solana "finalizedSlot") "Solana finalizedSlot" true
  require "Solana scan range is incomplete or not finalized through its end"
    (solanaFrom ≤ solanaTo ∧ solanaTo = solanaFinalized)
  let robinhoodFrom ← unsignedInteger (get robinhood "fromBlock") "Robinhood fromBlock" false
  let robinhoodTo ← unsignedInteger (get robinhood "toBlock") "Robinhood toBlock" true
  let robinhoodFinalized ← unsignedInteger (get robinhood "finalizedBlock") "Robinhood finalizedBlock" true
  require "Robinhood scan range is incomplete or not finalized through its end"
    (robinhoodFrom ≤ robinhoodTo ∧ robinhoodTo = robinhoodFinalized)
  require "In-flight scanner range or pagination is incomplete"
    (truthy (get solana "complete") ∧ truthy (get solana "paginationComplete") ∧
      truthy (get robinhood "complete") ∧ truthy (get robinhood "paginationComplete"))
  let genesisHash ← nonempty (get solana "genesisHash") "Solana genesis hash"
  require "In-flight manifest is not bound to the Solana mainnet genesis hash"
    (genesisHash = solanaMainnetGenesisHash)
  let _ ← nonempty (get solana "startBlockhash") "Solana start blockhash"
  let _ ← nonempty (get solana "endBlockhash") "Solana end blockhash"
  let _ ← hash32 host (get robinhood "startBlockHash") "Robinhood start block hash"
  let _ ← hash32 host (get robinhood "endBlockHash") "Robinhood end block hash"

def rangeStart (manifest : Value) (solana : Bool) : Value :=
  if solana then get (get (get manifest "ranges") "solana") "fromSlot"
  else get (get (get manifest "ranges") "robinhood") "fromBlock"

def rangeEnd (manifest : Value) (solana : Bool) : Value :=
  if solana then get (get (get manifest "ranges") "solana") "toSlot"
  else get (get (get manifest "ranges") "robinhood") "toBlock"

end Ranges

section Order

/-- The string a message is sorted by. -/
def messageKey (message : Value) : Result String := do
  let direction ← prop message "direction" >>= text host
  let height ← prop message "sourceHeight" >>= asString
  let transaction ← prop message "sourceTransaction" >>= text host
  let index ← prop message "sourceEventIndex" >>= text host
  let guid ← prop message "guid" >>= text host
  .ok (direction ++ ":" ++ padStart height 24 '0' ++ ":" ++ transaction ++ ":" ++ index ++ ":" ++ guid)

def withKey (message : Json) : Result (String × Json) := do
  let key ← messageKey host (some message)
  .ok (key, message)

/-- `sort` compares nothing, and so reads no key, in a list of at most one message. -/
def canonicalOrder (messages : List Json) : Result (List Json) :=
  if messages.length < 2 then .ok messages else do
    let keyed ← messages.mapM (withKey host)
    .ok ((keyed.insertionSort fun a b => host.localeLe a.1 b.1 = true).map Prod.snd)

end Order

section Messages

def messageKeys : List String :=
  ["guid", "direction", "sourceNonce", "sourceTransaction", "sourceHeight", "sourceBlockHash",
    "sourceEventIndex", "sourceOft", "destinationOft", "amountRaw", "receiver", "status",
    "destinationTransaction", "destinationHeight", "destinationBlockHash", "layerZeroApiStatus"]

def isSafeIndex : Value → Bool
  | some (.num x) => x.isSafeNatural
  | _ => false

def isSolanaToRobinhood (message : Value) : Bool := isStr (get message "direction") "solana-to-robinhood"

def isDelivered (message : Value) : Bool := isStr (get message "status") "delivered"

def pathway (manifest : Value) (solanaToRobinhood : Bool) : Value × Value :=
  let oftStore := get (get (get manifest "identities") "solana") "oftStore"
  let oft := get (get (get manifest "identities") "robinhood") "oft"
  if solanaToRobinhood then (oftStore, oft) else (oft, oftStore)

def blockHash (solana : Bool) (v : Value) (textLabel hashLabel : String) : Result String :=
  if solana then nonempty v textLabel else hash32 host v hashLabel

def validateSource (manifest message : Value) (guid sourceOft destinationOft : String)
    (sourceHeight : Nat) : Result Unit := do
  let solanaToRobinhood := isSolanaToRobinhood message
  let sameSource ← equalIdentity host sourceOft (pathway manifest solanaToRobinhood).1
  require ("source/destination OApp identity for " ++ guid ++ " differs from the manifest pathway") sameSource
  let sameDestination ← equalIdentity host destinationOft (pathway manifest solanaToRobinhood).2
  require ("source/destination OApp identity for " ++ guid ++ " differs from the manifest pathway")
    sameDestination
  let sourceFrom ← unsignedInteger (rangeStart manifest solanaToRobinhood)
    ("source range start for " ++ guid) false
  let sourceTo ← unsignedInteger (rangeEnd manifest solanaToRobinhood) ("source range end for " ++ guid) false
  require ("source height for " ++ guid ++ " is outside the approved scan range")
    (sourceFrom ≤ sourceHeight ∧ sourceHeight ≤ sourceTo)
  let _ ← blockHash host solanaToRobinhood (get message "sourceBlockHash")
    ("Solana source blockhash for " ++ guid) ("Robinhood source block hash for " ++ guid)

def validateDestination (manifest message : Value) (guid layerZeroApiStatus : String) : Result Unit :=
  let solanaToRobinhood := isSolanaToRobinhood message
  if isDelivered message then do
    require ("delivered GUID " ++ guid ++ " lacks destination-chain evidence")
      (truthy (get message "destinationTransaction") ∧ truthy (get message "destinationHeight") ∧
        truthy (get message "destinationBlockHash"))
    let destinationHeight ← unsignedInteger (get message "destinationHeight")
      ("destination height for " ++ guid) false
    let destinationFrom ← unsignedInteger (rangeStart manifest !solanaToRobinhood)
      ("destination range start for " ++ guid) false
    let destinationTo ← unsignedInteger (rangeEnd manifest !solanaToRobinhood)
      ("destination range end for " ++ guid) false
    require ("destination height for " ++ guid ++ " is outside the approved scan range")
      (destinationFrom ≤ destinationHeight ∧ destinationHeight ≤ destinationTo)
    let _ ← blockHash host (!solanaToRobinhood) (get message "destinationBlockHash")
      ("Solana destination blockhash for " ++ guid) ("Robinhood destination block hash for " ++ guid)
    require ("LayerZero API status for delivered GUID " ++ guid ++ " is inconsistent")
      (host.toUpperCase layerZeroApiStatus ∈ ["DELIVERED", "CONFIRMING"])
  else do
    require ("unresolved GUID " ++ guid ++ " must not claim destination-chain evidence")
      (isNullish (get message "destinationTransaction") ∧ isNullish (get message "destinationHeight") ∧
        isNullish (get message "destinationBlockHash"))
    require ("LayerZero API reports delivery without destination-chain evidence for GUID " ++ guid)
      (host.toUpperCase layerZeroApiStatus ≠ "DELIVERED")

/-- One message on its own: its amount, when it is acceptable. -/
def validateMessage (manifest message : Value) (guid : String) : Result Nat := do
  let _ ← unsignedInteger (get message "sourceNonce") ("source nonce for " ++ guid) true
  let sourceHeight ← unsignedInteger (get message "sourceHeight") ("source height for " ++ guid) false
  let amount ← unsignedInteger (get message "amountRaw") ("raw amount for " ++ guid) true
  let _ ← nonempty (get message "sourceTransaction") ("source transaction for " ++ guid)
  let _ ← nonempty (get message "sourceBlockHash") ("source block hash for " ++ guid)
  let sourceOft ← nonempty (get message "sourceOft") ("source OFT for " ++ guid)
  let destinationOft ← nonempty (get message "destinationOft") ("destination OFT for " ++ guid)
  let _ ← nonempty (get message "receiver") ("receiver for " ++ guid)
  require ("source event index for " ++ guid ++ " is invalid") (isSafeIndex (get message "sourceEventIndex"))
  require ("direction for " ++ guid ++ " is invalid")
    (["solana-to-robinhood", "robinhood-to-solana"].any (isStr (get message "direction")))
  require ("status for " ++ guid ++ " is invalid")
    (["in_flight", "delivered", "failed", "blocked", "unresolved"].any (isStr (get message "status")))
  let layerZeroApiStatus ← nonempty (get message "layerZeroApiStatus") ("LayerZero API status for " ++ guid)
  validateSource host manifest message guid sourceOft destinationOft sourceHeight
  validateDestination host manifest message guid layerZeroApiStatus
  .ok amount

/-- The accumulators of the loop over the messages. -/
structure Tally where
  seen : List String
  solanaToRobinhoodRaw : Nat
  robinhoodToSolanaRaw : Nat
  unresolvedPacketCount : Nat

def Tally.empty : Tally := ⟨[], 0, 0, 0⟩

def Tally.add (t : Tally) (guid : String) (solanaToRobinhood delivered : Bool) (amount : Nat) : Tally where
  seen := guid :: t.seen
  solanaToRobinhoodRaw :=
    if solanaToRobinhood && !delivered then t.solanaToRobinhoodRaw + amount else t.solanaToRobinhoodRaw
  robinhoodToSolanaRaw :=
    if !solanaToRobinhood && !delivered then t.robinhoodToSolanaRaw + amount else t.robinhoodToSolanaRaw
  unresolvedPacketCount := if delivered then t.unresolvedPacketCount else t.unresolvedPacketCount + 1

def tallyMessage (manifest : Value) (t : Tally) (message : Json) : Result Tally := do
  exactKeys (some message) messageKeys "In-flight message"
  let guid ← hash32 host (get message "guid") "LayerZero GUID"
  require ("In-flight manifest contains duplicate GUID " ++ guid) (guid ∉ t.seen)
  let amount ← validateMessage host manifest message guid
  .ok (t.add guid (isSolanaToRobinhood message) (isDelivered message) amount)

end Messages

section Manifest

def manifestKeys : List String :=
  ["schemaVersion", "inventoryId", "scanner", "generatedAt", "identities", "ranges", "provenance", "messages",
    "summary", "manifestChecksum"]

def validateIdentity (manifest : Value) : Result String := do
  require "In-flight manifest schema version must be 2" (isNum (get manifest "schemaVersion") 2)
  let inventoryId ← nonempty (get manifest "inventoryId") "In-flight inventory ID"
  let generatedAt ← text host (get manifest "generatedAt")
  require "In-flight manifest timestamp must be UTC ISO-8601" (isTimestamp generatedAt)
  let scanner := get manifest "scanner"
  exactKeys scanner ["name", "version", "bridgeCodeAuditTarget", "scannerSourceCommit"] "Scanner identity"
  require "In-flight scanner identity/version/audit target is not approved"
    (isStr (get scanner "name") scannerName ∧ isStr (get scanner "version") scannerVersion ∧
      isStr (get scanner "bridgeCodeAuditTarget") bridgeCodeAuditTarget)
  let commit ← text host (get scanner "scannerSourceCommit")
  require "In-flight scanner identity/version/audit target is not approved" (isCommit commit)
  let identities := get manifest "identities"
  exactKeys identities ["solana", "robinhood"] "Manifest identities"
  exactKeys (get identities "solana") ["chain", "eid", "endpoint", "oftProgram", "oftStore"]
    "Solana manifest identity"
  exactKeys (get identities "robinhood") ["chainId", "eid", "endpoint", "oft"] "Robinhood manifest identity"
  require "In-flight manifest has the wrong production chain identity"
    (isStr (get (get identities "solana") "chain") "solana-mainnet" ∧
      isNum (get (get identities "solana") "eid") 30168 ∧
      isNum (get (get identities "robinhood") "chainId") 4663 ∧
      isNum (get (get identities "robinhood") "eid") 30416)
  .ok inventoryId

def provenanceKeys : List String :=
  ["model", "solanaProviders", "robinhoodProviders", "sourceEvidenceAgreement", "destinationEvidenceAgreement",
    "layerZeroApiCorroborated", "layerZeroApiDisagreements"]

def validateProvenance (manifest : Value) : Result Unit := do
  let provenance := get manifest "provenance"
  exactKeys provenance provenanceKeys "Manifest provenance"
  require "In-flight manifest provenance is missing or unreconciled"
    (isStr (get provenance "model") "DUAL_RPC_RECONCILED")
  let fewSolana ← fewerThanTwo (get provenance "solanaProviders")
  require "In-flight manifest provenance is missing or unreconciled" !fewSolana
  let fewRobinhood ← fewerThanTwo (get provenance "robinhoodProviders")
  require "In-flight manifest provenance is missing or unreconciled"
    (!fewRobinhood ∧ truthy (get provenance "sourceEvidenceAgreement") ∧
      truthy (get provenance "destinationEvidenceAgreement") ∧
      truthy (get provenance "layerZeroApiCorroborated"))
  let disagreements ← prop (get provenance "layerZeroApiDisagreements") "length"
  require "LayerZero API corroboration disagrees with source-chain evidence" (isNum disagreements 0)

def asMessages : Value → Result (List Json)
  | some (.arr messages) => .ok messages
  | _ => .error "In-flight manifest messages must be an array"

def validateSummary (summary : Value) (t : Tally) : Result Unit := do
  let mismatch := "In-flight manifest summary does not reconcile with packet evidence"
  require mismatch (isNum (get summary "resultCount") t.seen.length)
  require mismatch (isNum (get summary "unresolvedPacketCount") t.unresolvedPacketCount)
  let solanaToRobinhoodRaw ← unsignedInteger (get summary "solanaToRobinhoodRaw")
    "summary Solana-to-Robinhood amount" false
  require mismatch (solanaToRobinhoodRaw = t.solanaToRobinhoodRaw)
  let robinhoodToSolanaRaw ← unsignedInteger (get summary "robinhoodToSolanaRaw")
    "summary Robinhood-to-Solana amount" false
  require mismatch (robinhoodToSolanaRaw = t.robinhoodToSolanaRaw)

structure InFlightInventory where
  manifest : Json
  inventoryId : String
  inventorySha256 : String
  messageCount : Nat
  unresolvedPacketCount : Nat
  solanaToRobinhoodRaw : Nat
  robinhoodToSolanaRaw : Nat

/-- `parseInFlightInventory` after `JSON.parse`. -/
def parseManifest (value : Json) : Result InFlightInventory := do
  require "In-flight manifest must be an object" (isObject value)
  exactKeys (some value) manifestKeys "In-flight manifest"
  let inventoryId ← validateIdentity host value
  validateRange host value
  validateProvenance value
  let messages ← asMessages (get value "messages")
  exactKeys (get value "summary")
    ["resultCount", "unresolvedPacketCount", "solanaToRobinhoodRaw", "robinhoodToSolanaRaw"] "Manifest summary"
  let ordered ← canonicalOrder host messages
  require "In-flight manifest messages are not in canonical order"
    (canonicalJson host (.arr ordered) = canonicalJson host (.arr messages))
  let tally ← messages.foldlM (tallyMessage host value) .empty
  validateSummary (get value "summary") tally
  let expectedChecksum := manifestChecksum host (unsignedPart value)
  let suppliedChecksum ← hash32 host (get value "manifestChecksum") "Manifest checksum"
  require "In-flight manifest checksum does not match its canonical contents"
    (suppliedChecksum = expectedChecksum)
  .ok ⟨value, inventoryId, expectedChecksum, tally.seen.length, tally.unresolvedPacketCount,
    tally.solanaToRobinhoodRaw, tally.robinhoodToSolanaRaw⟩

def parseInFlightInventory (contents : String) : Result InFlightInventory := do
  let value ← ofOption "SyntaxError" (host.jsonParse contents)
  parseManifest host value

end Manifest

end SanBridge.Tooling.Inventory
