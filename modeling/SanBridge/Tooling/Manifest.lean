import SanBridge.Tooling.Checker

namespace SanBridge.Tooling.Manifest

open Library.Checked Tooling.Runtime Tooling.Inventory Tooling.Checker

inductive InFlightDirection
  | solanaToRobinhood
  | robinhoodToSolana
  deriving DecidableEq

def InFlightDirection.text : InFlightDirection → String
  | .solanaToRobinhood => "solana-to-robinhood"
  | .robinhoodToSolana => "robinhood-to-solana"

inductive PacketStatus
  | inFlight | delivered | failed | blocked | unresolved
  deriving DecidableEq

def PacketStatus.text : PacketStatus → String
  | .inFlight => "in_flight"
  | .delivered => "delivered"
  | .failed => "failed"
  | .blocked => "blocked"
  | .unresolved => "unresolved"

structure InFlightMessageEvidence where
  guid : String
  direction : InFlightDirection
  sourceNonce : String
  sourceTransaction : String
  sourceHeight : String
  sourceBlockHash : String
  sourceEventIndex : JsNumber
  sourceOft : String
  destinationOft : String
  amountRaw : String
  receiver : String
  status : PacketStatus
  destinationTransaction : Option String
  destinationHeight : Option String
  destinationBlockHash : Option String
  layerZeroApiStatus : Option String
  deriving DecidableEq

structure SolanaIdentity where
  endpoint : String
  oftProgram : String
  oftStore : String
  deriving DecidableEq

structure RobinhoodIdentity where
  endpoint : String
  oft : String
  deriving DecidableEq

structure Identities where
  solana : SolanaIdentity
  robinhood : RobinhoodIdentity
  deriving DecidableEq

structure SolanaRange where
  fromSlot : String
  toSlot : String
  finalizedSlot : String
  genesisHash : String
  startBlockhash : String
  endBlockhash : String
  complete : Bool
  paginationComplete : Bool
  deriving DecidableEq

structure RobinhoodRange where
  fromBlock : String
  toBlock : String
  finalizedBlock : String
  startBlockHash : String
  endBlockHash : String
  complete : Bool
  paginationComplete : Bool
  deriving DecidableEq

structure ScanRangeEvidence where
  solana : SolanaRange
  robinhood : RobinhoodRange
  deriving DecidableEq

structure ScannerProviderResult where
  ranges : ScanRangeEvidence
  sourceMessages : List InFlightMessageEvidence
  destinationMessages : List InFlightMessageEvidence

structure BuildManifestInput where
  inventoryId : String
  scannerSourceCommit : String
  generatedAt : String
  solanaProviderIds : List String
  robinhoodProviderIds : List String
  primary : ScannerProviderResult
  secondary : ScannerProviderResult
  identities : Identities
  layerZeroStatuses : Option (String → Option String)

structure Summary where
  resultCount : Nat
  unresolvedPacketCount : Nat
  solanaToRobinhoodRaw : String
  robinhoodToSolanaRaw : String
  deriving DecidableEq

/-- A manifest before it is given its checksum, without the fields that are always the same. -/
structure UnsignedManifest where
  inventoryId : String
  scannerSourceCommit : String
  generatedAt : String
  identities : Identities
  ranges : ScanRangeEvidence
  solanaProviders : List String
  robinhoodProviders : List String
  layerZeroApiCorroborated : Bool
  messages : List InFlightMessageEvidence
  summary : Summary
  deriving DecidableEq

structure InFlightManifest extends UnsignedManifest where
  manifestChecksum : String
  deriving DecidableEq

section ToJson

/-- `JSON.stringify` has no text but `null` for a number that is not finite. -/
def ofNumber : JsNumber → Json
  | .finite q => .num (.finite q)
  | _ => .null

def ofNat (n : Nat) : Json := .num (.finite n)

def ofNullable : Option String → Json
  | some s => .str s
  | none => .null

def InFlightMessageEvidence.toJson (m : InFlightMessageEvidence) : Json :=
  .obj [("guid", .str m.guid), ("direction", .str m.direction.text), ("sourceNonce", .str m.sourceNonce),
    ("sourceTransaction", .str m.sourceTransaction), ("sourceHeight", .str m.sourceHeight),
    ("sourceBlockHash", .str m.sourceBlockHash), ("sourceEventIndex", ofNumber m.sourceEventIndex),
    ("sourceOft", .str m.sourceOft), ("destinationOft", .str m.destinationOft), ("amountRaw", .str m.amountRaw),
    ("receiver", .str m.receiver), ("status", .str m.status.text),
    ("destinationTransaction", ofNullable m.destinationTransaction),
    ("destinationHeight", ofNullable m.destinationHeight),
    ("destinationBlockHash", ofNullable m.destinationBlockHash),
    ("layerZeroApiStatus", ofNullable m.layerZeroApiStatus)]

def Identities.toJson (i : Identities) : Json :=
  .obj [
    ("solana", .obj [("chain", .str "solana-mainnet"), ("eid", .num (.finite 30168)),
      ("endpoint", .str i.solana.endpoint), ("oftProgram", .str i.solana.oftProgram),
      ("oftStore", .str i.solana.oftStore)]),
    ("robinhood", .obj [("chainId", .num (.finite 4663)), ("eid", .num (.finite 30416)),
      ("endpoint", .str i.robinhood.endpoint), ("oft", .str i.robinhood.oft)])]

def ScanRangeEvidence.toJson (r : ScanRangeEvidence) : Json :=
  .obj [
    ("solana", .obj [("fromSlot", .str r.solana.fromSlot), ("toSlot", .str r.solana.toSlot),
      ("finalizedSlot", .str r.solana.finalizedSlot), ("genesisHash", .str r.solana.genesisHash),
      ("startBlockhash", .str r.solana.startBlockhash), ("endBlockhash", .str r.solana.endBlockhash),
      ("complete", .bool r.solana.complete), ("paginationComplete", .bool r.solana.paginationComplete)]),
    ("robinhood", .obj [("fromBlock", .str r.robinhood.fromBlock), ("toBlock", .str r.robinhood.toBlock),
      ("finalizedBlock", .str r.robinhood.finalizedBlock),
      ("startBlockHash", .str r.robinhood.startBlockHash), ("endBlockHash", .str r.robinhood.endBlockHash),
      ("complete", .bool r.robinhood.complete),
      ("paginationComplete", .bool r.robinhood.paginationComplete)])]

def UnsignedManifest.fields (m : UnsignedManifest) : List (String × Json) :=
  [("schemaVersion", .num (.finite 2)), ("inventoryId", .str m.inventoryId),
    ("scanner", .obj [("name", .str scannerName), ("version", .str scannerVersion),
      ("bridgeCodeAuditTarget", .str bridgeCodeAuditTarget),
      ("scannerSourceCommit", .str m.scannerSourceCommit)]),
    ("generatedAt", .str m.generatedAt), ("identities", m.identities.toJson), ("ranges", m.ranges.toJson),
    ("provenance", .obj [("model", .str "DUAL_RPC_RECONCILED"),
      ("solanaProviders", .arr (m.solanaProviders.map .str)),
      ("robinhoodProviders", .arr (m.robinhoodProviders.map .str)),
      ("sourceEvidenceAgreement", .bool true), ("destinationEvidenceAgreement", .bool true),
      ("layerZeroApiCorroborated", .bool m.layerZeroApiCorroborated),
      ("layerZeroApiDisagreements", .arr [])]),
    ("messages", .arr (m.messages.map InFlightMessageEvidence.toJson)),
    ("summary", .obj [("resultCount", ofNat m.summary.resultCount),
      ("unresolvedPacketCount", ofNat m.summary.unresolvedPacketCount),
      ("solanaToRobinhoodRaw", .str m.summary.solanaToRobinhoodRaw),
      ("robinhoodToSolanaRaw", .str m.summary.robinhoodToSolanaRaw)])]

def UnsignedManifest.toJson (m : UnsignedManifest) : Json := .obj m.fields

def InFlightManifest.toJson (m : InFlightManifest) : Json :=
  .obj (m.fields ++ [("manifestChecksum", .str m.manifestChecksum)])

theorem keysDistinctItems_map {α : Type} (toJson : α → Json) (h : ∀ a, (toJson a).KeysDistinct) (xs : List α) :
    KeysDistinctItems (xs.map toJson) := by
  induction xs with
  | nil => trivial
  | cons x xs ih => exact ⟨h x, ih⟩

theorem ofNumber_keysDistinct (x : JsNumber) : (ofNumber x).KeysDistinct := by
  cases x <;> trivial

theorem ofNullable_keysDistinct (s : Option String) : (ofNullable s).KeysDistinct := by
  cases s <;> trivial

theorem message_keysDistinct (m : InFlightMessageEvidence) : m.toJson.KeysDistinct := by
  refine ⟨?_, ?_⟩
  · simp only [List.map_cons, List.map_nil]
    decide
  · simp only [KeysDistinctFields, Json.KeysDistinct, ofNumber_keysDistinct, ofNullable_keysDistinct, and_true]

/-- No record the scanner writes has a key twice. -/
theorem InFlightManifest.keysDistinct (m : InFlightManifest) : m.toJson.KeysDistinct := by
  have hmessages := keysDistinctItems_map _ message_keysDistinct m.messages
  have htexts := keysDistinctItems_map Json.str fun _ => trivial
  refine ⟨?_, ?_⟩
  · simp only [UnsignedManifest.fields, List.cons_append, List.nil_append, List.map_cons, List.map_nil]
    decide
  · simp only [UnsignedManifest.fields, Identities.toJson, ScanRangeEvidence.toJson, ofNat, List.cons_append,
      List.nil_append, List.map_cons, List.map_nil, KeysDistinctFields, KeysDistinctItems, Json.KeysDistinct,
      hmessages, htexts, and_true, true_and]
    decide

end ToJson

variable (host : Host)

section Evidence

/-- The string `sortMessages` compares messages by. -/
def sortKey (m : InFlightMessageEvidence) : String :=
  m.direction.text ++ ":" ++ padStart m.sourceHeight 24 '0' ++ ":" ++ m.sourceTransaction ++ ":" ++
    numberText host m.sourceEventIndex ++ ":" ++ m.guid

def sortMessages (messages : List InFlightMessageEvidence) : List InFlightMessageEvidence :=
  messages.insertionSort fun a b => host.localeLe (sortKey host a) (sortKey host b) = true

def providerComparable (r : ScannerProviderResult) : String :=
  canonicalJson host <| .obj [("ranges", r.ranges.toJson),
    ("sourceMessages", .arr ((sortMessages host r.sourceMessages).map InFlightMessageEvidence.toJson)),
    ("destinationMessages", .arr ((sortMessages host r.destinationMessages).map InFlightMessageEvidence.toJson))]

def unresolvedStatus (apiStatus : Option String) : PacketStatus :=
  match apiStatus.map host.toUpperCase with
  | some normalized =>
    if normalized = "FAILED" then .failed
    else if normalized = "BLOCKED" ∨ normalized = "PAYLOAD_STORED" then .blocked
    else if normalized = "INFLIGHT" ∨ normalized = "CONFIRMING" then .inFlight
    else .unresolved
  | none => .unresolved

end Evidence

section Matching

/-- A `Map` as its entries, in the order of their insertion. -/
abbrev EvidenceMap := List (String × InFlightMessageEvidence)

def insertDestination (destinations : EvidenceMap) (destination : InFlightMessageEvidence) :
    Result EvidenceMap := do
  let guid := host.toLowerCase destination.guid
  require ("Duplicate/replay destination evidence for GUID " ++ guid) (destinations.lookup guid).isNone
  .ok (destinations ++ [(guid, destination)])

def indexDestinations (messages : List InFlightMessageEvidence) : Result EvidenceMap :=
  messages.foldlM (insertDestination host) []

def deliver (source destination : InFlightMessageEvidence) (apiStatus : Option String) :
    InFlightMessageEvidence :=
  { source with
    status := .delivered
    destinationTransaction := destination.destinationTransaction
    destinationHeight := destination.destinationHeight
    destinationBlockHash := destination.destinationBlockHash
    layerZeroApiStatus := apiStatus }

def leaveUnresolved (source : InFlightMessageEvidence) (apiStatus : Option String) : InFlightMessageEvidence :=
  { source with status := unresolvedStatus host apiStatus, layerZeroApiStatus := apiStatus }

/-- `layerZeroStatuses?.get(guid) ?? null` -/
def apiStatusOf (statuses : Option (String → Option String)) (guid : String) : Option String :=
  statuses.bind fun get => get guid

/-- One source message against the map, and the map without the entry that matched it. -/
def matchSource (statuses : Option (String → Option String)) (destinations : EvidenceMap)
    (source : InFlightMessageEvidence) : Result (InFlightMessageEvidence × EvidenceMap) :=
  let guid := host.toLowerCase source.guid
  let apiStatus := apiStatusOf statuses guid
  match destinations.lookup guid with
  | some destination => do
    require ("Source-chain and destination-chain evidence disagrees for GUID " ++ guid)
      (destination.direction = source.direction ∧ destination.amountRaw = source.amountRaw ∧
        host.toLowerCase destination.receiver = host.toLowerCase source.receiver)
    -- neither a missing nor an empty status is compared
    require ("LayerZero API disagrees with delivered chain evidence for GUID " ++ guid)
      ((apiStatus.getD "") = "" ∨ host.toUpperCase (apiStatus.getD "") ∈ ["DELIVERED", "CONFIRMING"])
    .ok (deliver source destination apiStatus, destinations.filter fun entry => entry.1 ≠ guid)
  | none => do
    require ("LayerZero API reports delivery without destination-chain evidence for GUID " ++ guid)
      (apiStatus.map host.toUpperCase ≠ some "DELIVERED")
    .ok (leaveUnresolved host source apiStatus, destinations)

def matchSources (statuses : Option (String → Option String)) :
    EvidenceMap → List InFlightMessageEvidence → Result (List InFlightMessageEvidence × EvidenceMap)
  | destinations, [] => .ok ([], destinations)
  | destinations, source :: sources => do
    let (message, rest) ← matchSource host statuses destinations source
    let (messages, remaining) ← matchSources statuses rest sources
    .ok (message :: messages, remaining)

end Matching

section Build

/-- The accumulators of the loop over the outstanding messages. -/
structure Outstanding where
  solanaToRobinhoodRaw : Int
  robinhoodToSolanaRaw : Int
  unresolvedPacketCount : Nat

def addOutstanding (o : Outstanding) (m : InFlightMessageEvidence) : Result Outstanding :=
  if m.status = .delivered then .ok o else do
    let amount ← stringToBigInt m.amountRaw
    .ok <| match m.direction with
      | .solanaToRobinhood => ⟨o.solanaToRobinhoodRaw + amount, o.robinhoodToSolanaRaw, o.unresolvedPacketCount + 1⟩
      | .robinhoodToSolana => ⟨o.solanaToRobinhoodRaw, o.robinhoodToSolanaRaw + amount, o.unresolvedPacketCount + 1⟩

def unsignedManifest (input : BuildManifestInput) (messages : List InFlightMessageEvidence)
    (o : Outstanding) : UnsignedManifest where
  inventoryId := input.inventoryId
  scannerSourceCommit := input.scannerSourceCommit
  generatedAt := input.generatedAt
  identities := input.identities
  ranges := input.primary.ranges
  solanaProviders := input.solanaProviderIds
  robinhoodProviders := input.robinhoodProviderIds
  layerZeroApiCorroborated := input.layerZeroStatuses.isSome
  messages := messages
  summary := ⟨messages.length, o.unresolvedPacketCount, toString o.solanaToRobinhoodRaw,
    toString o.robinhoodToSolanaRaw⟩

def buildInFlightManifest (input : BuildManifestInput) : Result InFlightManifest := do
  require "Independent RPC source/destination evidence disagrees"
    (providerComparable host input.primary = providerComparable host input.secondary)
  let destinations ← indexDestinations host input.primary.destinationMessages
  let (matched, remaining) ←
    matchSources host input.layerZeroStatuses destinations input.primary.sourceMessages
  let messages := sortMessages host matched
  require "Destination evidence contains a receive without source-chain evidence" (remaining.length = 0)
  let outstanding ← messages.foldlM addOutstanding ⟨0, 0, 0⟩
  let unsigned := unsignedManifest input messages outstanding
  .ok ⟨unsigned, manifestChecksum host unsigned.toJson⟩

end Build

section Sample

def hashOf (fill : Char) : String := "0x" ++ String.ofList (List.replicate 64 fill)

def sampleAddress (fill : Char) : String := "0x" ++ String.ofList (List.replicate 40 fill)

def sampleOft : String := sampleAddress '1'

def sampleKey (last : Char) : String := String.ofList (List.replicate 31 '1' ++ [last])

def sampleStore : String := sampleKey '1'

/-- A transfer from Solana, as the scanner of Solana reports it. -/
def sampleSource (amount : Nat) : InFlightMessageEvidence where
  guid := hashOf '1'
  direction := .solanaToRobinhood
  sourceNonce := toString 1
  sourceTransaction := "sig"
  sourceHeight := toString 101
  sourceBlockHash := "solblock"
  sourceEventIndex := .finite (0 : Nat)
  sourceOft := sampleStore
  destinationOft := sampleOft
  amountRaw := toString amount
  receiver := hashOf 'b'
  status := .unresolved
  destinationTransaction := none
  destinationHeight := none
  destinationBlockHash := none
  layerZeroApiStatus := none

def sampleDestination (amount : Nat) : InFlightMessageEvidence :=
  { sampleSource amount with
    sourceNonce := "0"
    sourceTransaction := ""
    sourceHeight := "0"
    sourceBlockHash := ""
    status := .delivered
    destinationTransaction := some (hashOf 'c')
    destinationHeight := some (toString 202)
    destinationBlockHash := some (hashOf 'd') }

def sampleRanges : ScanRangeEvidence where
  solana := ⟨toString 100, toString 110, toString 110, solanaMainnetGenesisHash, "start", "end", true, true⟩
  robinhood := ⟨toString 200, toString 210, toString 210, hashOf 'e', hashOf 'f', true, true⟩

def sampleStatuses (guid : String) : Option String := if guid = hashOf '1' then some "DELIVERED" else none

/-- One transfer of the given amount, settled. -/
def sampleInput (amount : Nat) : BuildManifestInput where
  inventoryId := "review-1"
  scannerSourceCommit := String.ofList (List.replicate 40 '1')
  generatedAt := "2026-09-03T00:00:00.000Z"
  solanaProviderIds := ["solana-a", "solana-b"]
  robinhoodProviderIds := ["robinhood-a", "robinhood-b"]
  primary := ⟨sampleRanges, [sampleSource amount], [sampleDestination amount]⟩
  secondary := ⟨sampleRanges, [sampleSource amount], [sampleDestination amount]⟩
  identities := ⟨⟨productionSolanaEndpoint, productionSolanaOftProgram, sampleStore⟩,
    ⟨productionRobinhoodEndpoint, sampleOft⟩⟩
  layerZeroStatuses := some sampleStatuses

def sampleManifest (amount : Nat) (digest : Vector UInt8 32) : InFlightManifest :=
  ⟨unsignedManifest (sampleInput amount)
    [deliver (sampleSource amount) (sampleDestination amount) (some "DELIVERED")] ⟨0, 0, 0⟩,
    "0x" ++ hexDigest digest.toList⟩

/-- The SHA-256 digest of the manifest of a settled transfer of 7. -/
def sampleDigest : Vector UInt8 32 :=
  #v[75, 17, 44, 169, 44, 142, 172, 98, 172, 191, 82, 88, 32, 92, 54, 175, 151, 179, 3, 120, 192, 133, 142, 142,
    225, 141, 128, 191, 17, 226, 22, 40]

def sampleHost (amount : Nat) (digest : Vector UInt8 32) : Host :=
  readingHost digest (sampleManifest amount digest).toJson (sampleManifest amount digest).keysDistinct

def sampleContents (amount : Nat) (digest : Vector UInt8 32) : String :=
  stringify (plainHost digest) (sampleManifest amount digest).toJson ++ "\n"

end Sample

end SanBridge.Tooling.Manifest
