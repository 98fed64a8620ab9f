import SanBridge.Tooling.Inventory
import SanBridge.Tooling.Policy

namespace SanBridge.Tooling.Checker

open Library.Checked Tooling.Runtime Tooling.Inventory Tooling.Policy
open Solana.Runtime (Pubkey)

def productionSolanaEndpoint : String := "76y77prsiCMvXMjuoZ5VRrhG5qYBrUMYTE5WgHqgjEn6"
def productionRobinhoodEndpoint : String := "0x6f475642a6e85809b1c36fa62763669b1b48dd5b"
def productionSolanaOftProgram : String := "9myHzfqsbJfGbYxpCvVCYqLaB4Co1RCo2a8T4QSkTvcD"
def solanaUpgradeableLoader : String := "BPFLoaderUpgradeab1e11111111111111111111111"
def canonicalSanMint : String := "GQz5ThKHNcuAvMKA8rCPSdoFUoApk9Fi8qB9m3Gqpump"
def legacySplTokenProgram : String := "TokenkegQfeZyiNwAJbNbGKPFXCWuBvf9Ss623VQ5DA"
def addressZero : String := "0x0000000000000000000000000000000000000000"

inductive ProductionExpectedState
  | preActivationInert
  | canaryActive

section Approved

structure ApprovedInFlight where
  inventoryId : String
  inventorySha256 : String
  scannerSourceCommit : String
  solanaFromSlot : Int
  solanaToSlot : Int
  robinhoodFromBlock : Int
  robinhoodToBlock : Int
  solanaToRobinhoodRaw : Int
  robinhoodToSolanaRaw : Int

structure ApprovedProductionState where
  solanaUpgradeAuthority : String
  solanaStoreAdmin : String
  solanaDelegate : String
  robinhoodOwner : String
  robinhoodDelegate : String
  solanaPauser : String
  solanaUnpauser : String
  solanaOftStore : String
  solanaEscrow : String
  robinhoodOft : String
  robinhoodSourceConfirmations : Option Int
  rateLimitProfile : ProductionRateLimitProfile
  expectedRobinhoodSupplyRaw : Int
  expectedSolanaMintSupplyRaw : Int
  expectedSolanaMintAuthority : Option String
  expectedSolanaFreezeAuthority : Option String
  forbiddenSolanaBootstrapAuthorities : List String
  forbiddenRobinhoodBootstrapAuthorities : List String
  expectedSolanaProgramData : String
  expectedSolanaProgramDataSha256 : String
  expectedSolanaEndpointProgramData : String
  expectedSolanaEndpointProgramDataSha256 : String
  expectedSolanaEndpointUpgradeAuthority : String
  expectedSolanaUlnProgramData : String
  expectedSolanaUlnProgramDataSha256 : String
  expectedSolanaUlnUpgradeAuthority : String
  expectedRobinhoodRuntimeCodeHash : String
  expectedInFlight : ApprovedInFlight

end Approved

section Observation

structure SolanaObservation where
  eid : JsNumber
  genesisHash : String
  mint : String
  tokenProgram : String
  decimals : JsNumber
  sharedDecimals : JsNumber
  oftType : JsNumber
  mintSupplyRaw : Int
  mintAuthority : Option String
  freezeAuthority : Option String
  programId : String
  endpoint : String
  oftStore : String
  escrow : String
  tvlRaw : Int
  escrowBalanceRaw : Int
  upgradeAuthority : String
  storeAdmin : String
  delegate : String
  paused : Bool
  pauser : Option String
  unpauser : Option String
  programExecutable : Bool
  programOwner : String
  programData : String
  programDataSha256 : String
  programDataOwner : String
  programDataExecutable : Bool
  endpointProgramData : String
  endpointProgramDataSha256 : String
  endpointUpgradeAuthority : String
  endpointProgramDataOwner : String
  endpointProgramDataExecutable : Bool
  ulnProgramData : String
  ulnProgramDataSha256 : String
  ulnUpgradeAuthority : String
  ulnProgramDataOwner : String
  ulnProgramDataExecutable : Bool
  escrowProgramOwner : String
  escrowMint : String
  escrowAuthority : String

structure RobinhoodObservation where
  chainId : JsNumber
  eid : JsNumber
  endpoint : String
  oft : String
  decimals : JsNumber
  sharedDecimals : JsNumber
  totalSupplyRaw : Int
  owner : String
  delegate : String
  paused : Bool
  runtimeCodeHash : String
  proxyImplementation : Option String
  proxyAdmin : Option String
  blockHash : String

structure EnforcedOption where
  gasOrCompute : Int
  value : Int

structure ContextAccount where
  label : String
  address : String
  accountSha256 : String

structure SolanaContext where
  model : String
  commitment : String
  contextSlot : Int
  finalizedSlotBefore : Int
  finalizedSlotAfter : Int
  blockhash : String
  accounts : List ContextAccount

structure InFlightObservation where
  manifest : Json
  inventoryId : String
  inventorySha256 : String
  messageCount : JsNumber
  solanaSlot : Int
  robinhoodBlock : Int
  solanaToRobinhoodRaw : Int
  robinhoodToSolanaRaw : Int

structure ProductionMainnetObservation where
  solana : SolanaObservation
  robinhood : RobinhoodObservation
  layerZero : BridgeObservation
  solanaReceive : EnforcedOption
  robinhoodReceive : EnforcedOption
  rateLimits : ProductionRateLimitPlan
  solanaContext : SolanaContext
  inFlight : InFlightObservation

/-- The fields the collector takes from the parsed inventory, at the heights of the snapshot. -/
def inFlightOf (inventory : InFlightInventory) (solanaSlot robinhoodBlock : Int) : InFlightObservation where
  manifest := inventory.manifest
  inventoryId := inventory.inventoryId
  inventorySha256 := inventory.inventorySha256
  messageCount := .finite inventory.messageCount
  solanaSlot := solanaSlot
  robinhoodBlock := robinhoodBlock
  solanaToRobinhoodRaw := inventory.solanaToRobinhoodRaw
  robinhoodToSolanaRaw := inventory.robinhoodToSolanaRaw

end Observation

variable (host : Host) (formats : AddressFormats)

section Addresses

def requireHash (value label : String) : Result Unit :=
  require (label ++ " must be an explicit 32-byte hash") (isHash32 value)

def requireSameHash (actual expected message : String) : Result Unit :=
  require message (host.toLowerCase actual = host.toLowerCase expected)

def equalSolanaAddress (actual : Value) (expected label : String) : Result Unit :=
  match formats.publicKey actual, formats.publicKey (some (.str expected)) with
  | some a, some b =>
    if a = b then .ok () else do
      let observed ← text host actual
      .error (label ++ " differs: expected " ++ expected ++ ", observed " ++ observed)
  | _, _ => .error (label ++ " is not a valid Solana public key")

def getAddress (value : Value) : Result String := ofOption "invalid address" (formats.getAddress value)

def equalEvmAddress (actual : Value) (expected label : String) : Result Unit := do
  let observed ← text host actual
  let differs := label ++ " differs: expected " ++ expected ++ ", observed " ++ observed
  match formats.getAddress actual with
  | none => .error differs
  | some address => do
    let wanted ← getAddress formats (some (.str expected))
    require differs (address = wanted)

def requireSolanaAddress (value label : String) : Result Unit :=
  require (label ++ " is not a valid Solana public key") (formats.publicKey (some (.str value))).isSome

def requireEvmAddress (value label : String) : Result Unit :=
  require (label ++ " is not a nonzero EVM address")
    ((formats.getAddress (some (.str value))).isSome ∧ value ≠ addressZero)

def isSameSolanaAddress (left right : String) : Result Bool := do
  let a ← ofOption "Invalid public key input" (formats.publicKey (some (.str left)))
  let b ← ofOption "Invalid public key input" (formats.publicKey (some (.str right)))
  .ok (a = b)

def isSameEvmAddress (left right : String) : Result Bool := do
  let a ← getAddress formats (some (.str left))
  let b ← getAddress formats (some (.str right))
  .ok (a = b)

/-- `values.some((value) => same(value, bootstrap))` -/
def anySame (same : String → String → Result Bool) (bootstrap : String) : List String → Result Bool
  | [] => .ok false
  | value :: values => do
    let found ← same value bootstrap
    if found then .ok true else anySame same bootstrap values

def refuseBootstrap (same : String → String → Result Bool) (privileged : List String) (message bootstrap : String) :
    Result Unit := do
  let found ← anySame same bootstrap privileged
  require message !found

def bytes32FromSolana (address : String) : Result String := do
  let key ← ofOption "Invalid public key input" (formats.publicKey (some (.str address)))
  .ok ("0x" ++ hexDigest key.toList)

def bytes32FromEvm (address : String) : Result String := do
  let padded ← ofOption "invalid hex string" (formats.hexZeroPad address 32)
  .ok (host.toLowerCase padded)

end Addresses

section ApprovedState

def validateApprovedState (approved : ApprovedProductionState) : Result Unit := do
  let confirmations ← ofOption
    "Approved Robinhood-source confirmations are required; production policy fails closed"
    approved.robinhoodSourceConfirmations
  require "Approved Robinhood-source confirmations must be positive" (0 < confirmations)
  require "Approved Robinhood-source confirmations must equal the frozen 30-block policy"
    (some confirmations = sanLayerZeroPolicy.robinhoodSourceConfirmations)
  requireSolanaAddress formats approved.solanaOftStore "approved Solana OFT Store"
  requireSolanaAddress formats approved.solanaEscrow "approved Solana escrow"
  requireSolanaAddress formats approved.solanaUpgradeAuthority "approved Solana upgrade authority"
  requireSolanaAddress formats approved.solanaStoreAdmin "approved Solana Store admin"
  requireSolanaAddress formats approved.solanaDelegate "approved Solana delegate"
  requireSolanaAddress formats approved.solanaPauser "approved Solana pauser"
  requireSolanaAddress formats approved.solanaUnpauser "approved Solana unpauser"
  requireSolanaAddress formats approved.expectedSolanaProgramData "approved Solana ProgramData"
  requireSolanaAddress formats approved.expectedSolanaEndpointProgramData
    "approved LayerZero Endpoint ProgramData"
  requireSolanaAddress formats approved.expectedSolanaEndpointUpgradeAuthority
    "approved LayerZero Endpoint upgrade authority"
  requireSolanaAddress formats approved.expectedSolanaUlnProgramData "approved LayerZero ULN302 ProgramData"
  requireSolanaAddress formats approved.expectedSolanaUlnUpgradeAuthority
    "approved LayerZero ULN302 upgrade authority"
  requireEvmAddress formats approved.robinhoodOft "approved Robinhood OFT"
  requireEvmAddress formats approved.robinhoodOwner "approved Robinhood owner"
  requireEvmAddress formats approved.robinhoodDelegate "approved Robinhood delegate"
  requireHash approved.expectedSolanaProgramDataSha256 "approved Solana ProgramData SHA-256"
  requireHash approved.expectedSolanaEndpointProgramDataSha256 "approved LayerZero Endpoint ProgramData SHA-256"
  requireHash approved.expectedSolanaUlnProgramDataSha256 "approved LayerZero ULN302 ProgramData SHA-256"
  requireHash approved.expectedRobinhoodRuntimeCodeHash "approved Robinhood runtime code hash"
  requireHash approved.expectedInFlight.inventorySha256 "approved in-flight inventory SHA-256"
  require "Approved in-flight scanner source commit must be an exact Git commit"
    (isCommit approved.expectedInFlight.scannerSourceCommit)
  approved.expectedSolanaMintAuthority.forM fun value =>
    requireSolanaAddress formats value "approved Solana mint authority"
  approved.expectedSolanaFreezeAuthority.forM fun value =>
    requireSolanaAddress formats value "approved Solana freeze authority"
  require "Approved Solana mint supply cannot be negative" (0 ≤ approved.expectedSolanaMintSupplyRaw)
  require "At least one forbidden Solana bootstrap authority is required"
    (approved.forbiddenSolanaBootstrapAuthorities.length ≠ 0)
  require "At least one forbidden Robinhood bootstrap authority is required"
    (approved.forbiddenRobinhoodBootstrapAuthorities.length ≠ 0)
  approved.forbiddenSolanaBootstrapAuthorities.zipIdx.forM fun (value, index) =>
    requireSolanaAddress formats value ("forbidden Solana bootstrap authority " ++ toString index)
  approved.forbiddenRobinhoodBootstrapAuthorities.zipIdx.forM fun (value, index) =>
    requireEvmAddress formats value ("forbidden Robinhood bootstrap authority " ++ toString index)
  let inFlight := approved.expectedInFlight
  require "Approved in-flight amounts cannot be negative"
    (0 ≤ inFlight.solanaToRobinhoodRaw ∧ 0 ≤ inFlight.robinhoodToSolanaRaw)
  require "Approved in-flight finalized scan ranges are invalid"
    (0 ≤ inFlight.solanaFromSlot ∧ 0 < inFlight.solanaToSlot ∧
      inFlight.solanaFromSlot ≤ inFlight.solanaToSlot ∧ 0 ≤ inFlight.robinhoodFromBlock ∧
      0 < inFlight.robinhoodToBlock ∧ inFlight.robinhoodFromBlock ≤ inFlight.robinhoodToBlock)
  require "Approved in-flight inventory ID is required" !(blank inFlight.inventoryId)

end ApprovedState

section Context

def requiredAccounts : List String :=
  ["OFT Store", "OFT peer config", "canonical SAN mint", "SAN escrow token account", "production OFT program",
    "production OFT ProgramData", "LayerZero Endpoint program", "LayerZero Endpoint ProgramData",
    "LayerZero ULN302 program", "LayerZero ULN302 ProgramData", "Endpoint OApp registry",
    "Endpoint default send-library config", "Endpoint app send-library config",
    "Endpoint default receive-library config", "Endpoint app receive-library config",
    "ULN message-library PDA", "ULN custom send config", "ULN custom receive config"]

/-- One round of the loop over the accounts: the addresses met and the labels still required. -/
def visitAccount (visited : List String × List String) (account : ContextAccount) :
    Result (List String × List String) := do
  require "Solana common-context evidence contains a duplicate account" (account.address ∉ visited.1)
  requireHash account.accountSha256 ("Solana common-context " ++ account.label ++ " account hash")
  .ok (account.address :: visited.1, visited.2.erase account.label)

def validateSolanaContextEvidence (evidence : SolanaContext) : Result Unit := do
  require "Production Solana state is not backed by COMMON_CONTEXT_STRONG finalized evidence"
    (evidence.model = "COMMON_CONTEXT_STRONG" ∧ evidence.commitment = "finalized")
  require "Solana common-context slot is stale or outside the finalized observation window"
    (0 < evidence.contextSlot ∧ 0 < evidence.finalizedSlotBefore ∧ 0 < evidence.finalizedSlotAfter ∧
      evidence.finalizedSlotBefore ≤ evidence.contextSlot ∧ evidence.contextSlot ≤ evidence.finalizedSlotAfter)
  require "Solana common-context block evidence is missing or malformed" (isBase58 evidence.blockhash)
  let visited ← evidence.accounts.foldlM visitAccount ([], requiredAccounts)
  require ("Solana common-context evidence is missing required accounts: " ++ ", ".intercalate visited.2)
    (visited.2.length = 0)

end Context

section Chains

def validateIdentities (observation : ProductionMainnetObservation) (approved : ApprovedProductionState) :
    Result Unit := do
  let solana := observation.solana
  let robinhood := observation.robinhood
  require "Solana EID is not 30168" (solana.eid = .finite 30168)
  require "Solana observation is not bound to the mainnet genesis hash"
    (solana.genesisHash = solanaMainnetGenesisHash)
  require "Robinhood chainId is not 4663" (robinhood.chainId = .finite 4663)
  require "Robinhood EID is not 30416" (robinhood.eid = .finite 30416)
  equalSolanaAddress host formats (some (.str solana.mint)) canonicalSanMint "canonical SAN mint"
  equalSolanaAddress host formats (some (.str solana.tokenProgram)) legacySplTokenProgram "SAN token program"
  equalSolanaAddress host formats (some (.str solana.programId)) productionSolanaOftProgram
    "production Solana OFT program"
  equalSolanaAddress host formats (some (.str solana.endpoint)) productionSolanaEndpoint "Solana Endpoint"
  equalEvmAddress host formats (some (.str robinhood.endpoint)) productionRobinhoodEndpoint "Robinhood Endpoint"
  equalSolanaAddress host formats (some (.str solana.oftStore)) approved.solanaOftStore "Solana OFT Store"
  equalSolanaAddress host formats (some (.str solana.escrow)) approved.solanaEscrow "Solana escrow"
  equalEvmAddress host formats (some (.str robinhood.oft)) approved.robinhoodOft "Robinhood OFT"

def validateSolana (solana : SolanaObservation) (approved : ApprovedProductionState) : Result Unit := do
  require "Solana decimals/sharedDecimals must both equal 6"
    (solana.decimals = .finite 6 ∧ solana.sharedDecimals = .finite 6)
  require "Solana OFT Store is not in Adapter mode" (solana.oftType = .finite 1)
  require "Canonical SAN mint supply differs from the approved snapshot"
    (solana.mintSupplyRaw = approved.expectedSolanaMintSupplyRaw)
  require "Canonical SAN mint authority differs from the approved value"
    (solana.mintAuthority = approved.expectedSolanaMintAuthority)
  require "Canonical SAN freeze authority differs from the approved value"
    (solana.freezeAuthority = approved.expectedSolanaFreezeAuthority)
  require "Solana OFT program account is not executable" solana.programExecutable
  equalSolanaAddress host formats (some (.str solana.programOwner)) solanaUpgradeableLoader "Solana program owner"
  equalSolanaAddress host formats (some (.str solana.programData)) approved.expectedSolanaProgramData
    "Solana ProgramData account"
  equalSolanaAddress host formats (some (.str solana.programDataOwner)) solanaUpgradeableLoader
    "Solana ProgramData owner"
  require "Solana ProgramData account must not be executable" !solana.programDataExecutable
  requireHash solana.programDataSha256 "observed Solana ProgramData SHA-256"
  requireSameHash host solana.programDataSha256 approved.expectedSolanaProgramDataSha256
    "Solana ProgramData hash differs from the approved reproducible artifact"
  equalSolanaAddress host formats (some (.str solana.endpointProgramData))
    approved.expectedSolanaEndpointProgramData "LayerZero Endpoint ProgramData"
  requireHash solana.endpointProgramDataSha256 "observed LayerZero Endpoint ProgramData SHA-256"
  requireSameHash host solana.endpointProgramDataSha256 approved.expectedSolanaEndpointProgramDataSha256
    "LayerZero Endpoint executable hash differs from the approved artifact"
  equalSolanaAddress host formats (some (.str solana.endpointUpgradeAuthority))
    approved.expectedSolanaEndpointUpgradeAuthority "LayerZero Endpoint upgrade authority"
  equalSolanaAddress host formats (some (.str solana.endpointProgramDataOwner)) solanaUpgradeableLoader
    "LayerZero Endpoint ProgramData owner"
  require "LayerZero Endpoint ProgramData account must not be executable" !solana.endpointProgramDataExecutable
  equalSolanaAddress host formats (some (.str solana.ulnProgramData)) approved.expectedSolanaUlnProgramData
    "LayerZero ULN302 ProgramData"
  requireHash solana.ulnProgramDataSha256 "observed LayerZero ULN302 ProgramData SHA-256"
  requireSameHash host solana.ulnProgramDataSha256 approved.expectedSolanaUlnProgramDataSha256
    "LayerZero ULN302 executable hash differs from the approved artifact"
  equalSolanaAddress host formats (some (.str solana.ulnUpgradeAuthority))
    approved.expectedSolanaUlnUpgradeAuthority "LayerZero ULN302 upgrade authority"
  equalSolanaAddress host formats (some (.str solana.ulnProgramDataOwner)) solanaUpgradeableLoader
    "LayerZero ULN302 ProgramData owner"
  require "LayerZero ULN302 ProgramData account must not be executable" !solana.ulnProgramDataExecutable
  equalSolanaAddress host formats (some (.str solana.escrowProgramOwner)) legacySplTokenProgram
    "escrow token program owner"
  equalSolanaAddress host formats (some (.str solana.escrowMint)) canonicalSanMint "escrow mint"
  equalSolanaAddress host formats (some (.str solana.escrowAuthority)) approved.solanaOftStore "escrow authority"

def validateRobinhood (robinhood : RobinhoodObservation) (approved : ApprovedProductionState) : Result Unit := do
  requireHash robinhood.runtimeCodeHash "observed Robinhood runtime code hash"
  requireSameHash host robinhood.runtimeCodeHash approved.expectedRobinhoodRuntimeCodeHash
    "Robinhood runtime bytecode hash differs from the approved artifact"
  require "Robinhood SanOFT must be a non-proxy deployment"
    (robinhood.proxyImplementation.isNone ∧ robinhood.proxyAdmin.isNone)
  require "Robinhood decimals/sharedDecimals must both equal 6"
    (robinhood.decimals = .finite 6 ∧ robinhood.sharedDecimals = .finite 6)

end Chains

section InFlight

def validateManifestIdentity (manifest : Value) (approved : ApprovedProductionState) : Result Unit := do
  let scanner := get manifest "scanner"
  require "In-flight manifest scanner/audit identity differs from the approved tooling target"
    (isStr (get scanner "version") scannerVersion ∧
      isStr (get scanner "bridgeCodeAuditTarget") bridgeCodeAuditTarget ∧
      isStr (get scanner "scannerSourceCommit") approved.expectedInFlight.scannerSourceCommit)
  let solana := get (get manifest "identities") "solana"
  let robinhood := get (get manifest "identities") "robinhood"
  equalSolanaAddress host formats (get solana "oftStore") approved.solanaOftStore "manifest Solana OFT Store"
  equalSolanaAddress host formats (get solana "oftProgram") productionSolanaOftProgram
    "manifest Solana OFT program"
  equalSolanaAddress host formats (get solana "endpoint") productionSolanaEndpoint "manifest Solana Endpoint"
  equalEvmAddress host formats (get robinhood "oft") approved.robinhoodOft "manifest Robinhood OFT"
  equalEvmAddress host formats (get robinhood "endpoint") productionRobinhoodEndpoint
    "manifest Robinhood Endpoint"

def validateManifestRanges (manifest : Value) (expected : ApprovedInFlight) : Result (Int × Int) := do
  let differ := "In-flight manifest ranges differ from the explicitly approved finalized ranges"
  let fromSlot ← bigInt host (rangeStart manifest true)
  require differ (fromSlot = expected.solanaFromSlot)
  let toSlot ← bigInt host (rangeEnd manifest true)
  require differ (toSlot = expected.solanaToSlot)
  let fromBlock ← bigInt host (rangeStart manifest false)
  require differ (fromBlock = expected.robinhoodFromBlock)
  let toBlock ← bigInt host (rangeEnd manifest false)
  require differ (toBlock = expected.robinhoodToBlock)
  .ok (toSlot, toBlock)

/-- The ends of the ranges against the heights and block hashes of the snapshot. -/
def validateAnchors (observation : ProductionMainnetObservation) (solanaEnd robinhoodEnd : Int) :
    Result Unit := do
  let newer :=
    "In-flight manifest end anchors are newer than or conflict with the production state snapshot"
  let manifest : Value := observation.inFlight.manifest
  let context := observation.solanaContext
  require newer (solanaEnd ≤ context.contextSlot ∧ robinhoodEnd ≤ observation.inFlight.robinhoodBlock)
  require newer (solanaEnd ≠ context.contextSlot ∨
    isStr (get (get (get manifest "ranges") "solana") "endBlockhash") context.blockhash)
  if robinhoodEnd = observation.inFlight.robinhoodBlock then do
    let endBlockHash ← asString (get (get (get manifest "ranges") "robinhood") "endBlockHash")
    require newer (host.toLowerCase endBlockHash = host.toLowerCase observation.robinhood.blockHash)
  else .ok ()

def validateInventory (inFlight : InFlightObservation) (expected : ApprovedInFlight) : Result Unit := do
  require "Observed in-flight amounts differ from the independently approved message inventory"
    (inFlight.inventoryId = expected.inventoryId ∧
      host.toLowerCase inFlight.inventorySha256 = host.toLowerCase expected.inventorySha256 ∧
      inFlight.solanaToRobinhoodRaw = expected.solanaToRobinhoodRaw ∧
      inFlight.robinhoodToSolanaRaw = expected.robinhoodToSolanaRaw)
  requireHash inFlight.inventorySha256 "observed in-flight inventory SHA-256"
  require "Observed in-flight message count is invalid" inFlight.messageCount.isSafeNatural

/-- The accounting of the snapshot: escrow, supply, and the approved inventory between them. -/
def validateInFlight (observation : ProductionMainnetObservation) (approved : ApprovedProductionState) :
    Result Unit := do
  let solana := observation.solana
  let robinhood := observation.robinhood
  let inFlight := observation.inFlight
  require "Solana escrow balance is below OFT Store TVL" (solana.tvlRaw ≤ solana.escrowBalanceRaw)
  require "Robinhood supply differs from the explicitly approved expected supply"
    (robinhood.totalSupplyRaw = approved.expectedRobinhoodSupplyRaw)
  require "In-flight accounting requires explicit positive RPC snapshot heights"
    (0 < inFlight.solanaSlot ∧ 0 < inFlight.robinhoodBlock)
  require "In-flight Solana anchor is not bound to the common-context account snapshot"
    (inFlight.solanaSlot = observation.solanaContext.contextSlot)
  validateManifestIdentity host formats inFlight.manifest approved
  let (solanaEnd, robinhoodEnd) ← validateManifestRanges host inFlight.manifest approved.expectedInFlight
  validateAnchors host observation solanaEnd robinhoodEnd
  validateInventory host inFlight approved.expectedInFlight
  require "Solana TVL does not exactly equal Robinhood supply plus both in-flight directions"
    (solana.tvlRaw =
      robinhood.totalSupplyRaw + inFlight.solanaToRobinhoodRaw + inFlight.robinhoodToSolanaRaw)

end InFlight

section Authorities

def validateAuthorities (observation : ProductionMainnetObservation) (approved : ApprovedProductionState) :
    Result Unit := do
  let solana := observation.solana
  let robinhood := observation.robinhood
  equalSolanaAddress host formats (some (.str solana.upgradeAuthority)) approved.solanaUpgradeAuthority
    "Solana upgrade authority"
  equalSolanaAddress host formats (some (.str solana.storeAdmin)) approved.solanaStoreAdmin "Solana Store admin"
  equalSolanaAddress host formats (some (.str solana.delegate)) approved.solanaDelegate "Solana delegate"
  let pauser ← ofOption "Solana pauser is not configured" solana.pauser
  let unpauser ← ofOption "Solana unpauser is not configured" solana.unpauser
  equalSolanaAddress host formats (some (.str pauser)) approved.solanaPauser "Solana pauser"
  equalSolanaAddress host formats (some (.str unpauser)) approved.solanaUnpauser "Solana unpauser"
  equalEvmAddress host formats (some (.str robinhood.owner)) approved.robinhoodOwner "Robinhood owner"
  equalEvmAddress host formats (some (.str robinhood.delegate)) approved.robinhoodDelegate "Robinhood delegate"
  approved.forbiddenSolanaBootstrapAuthorities.forM <|
    refuseBootstrap (isSameSolanaAddress formats)
      [solana.upgradeAuthority, solana.storeAdmin, solana.delegate, pauser, unpauser]
      "A Solana privileged role is still controlled by a forbidden bootstrap authority"
  approved.forbiddenRobinhoodBootstrapAuthorities.forM <|
    refuseBootstrap (isSameEvmAddress formats) [robinhood.owner, robinhood.delegate]
      "A Robinhood privileged role is still controlled by a forbidden bootstrap authority"

def requireOption (label : String) (option : EnforcedOption) : Result Unit :=
  require (label ++ " enforced option must be 200000 with value 0")
    (option.gasOrCompute = 200000 ∧ option.value = 0)

def validateConfiguration (observation : ProductionMainnetObservation) (approved : ApprovedProductionState) :
    Result Unit := do
  requireOption "Solana receive" observation.solanaReceive
  requireOption "Robinhood receive" observation.robinhoodReceive
  let policy := { sanLayerZeroPolicy with
    robinhoodSourceConfirmations := approved.robinhoodSourceConfirmations }
  let solanaPeer ← bytes32FromEvm host formats approved.robinhoodOft
  let robinhoodPeer ← bytes32FromSolana formats approved.solanaOftStore
  validateLayerZeroObservation host formats observation.layerZero ⟨solanaPeer, robinhoodPeer⟩ policy
  let limits := observation.rateLimits
  validateProductionRateLimitPlan limits approved.rateLimitProfile
  requireAvailable "Solana outbound" (limits.solana.map (·.outbound))
  requireAvailable "Solana inbound" (limits.solana.map (·.inbound))
  requireAvailable "Robinhood outbound" (limits.robinhood.map (·.outbound))
  requireAvailable "Robinhood inbound" (limits.robinhood.map (·.inbound))

end Authorities

section Activation

def validateActivation (observation : ProductionMainnetObservation) : ProductionExpectedState → Result Unit
  | .preActivationInert =>
    require "PRE_ACTIVATION_INERT requires both bridge applications paused"
      (observation.solana.paused ∧ observation.robinhood.paused)
  | .canaryActive => do
    require "CANARY_ACTIVE requires both bridge applications unpaused"
      (!observation.solana.paused ∧ !observation.robinhood.paused)
    require "CANARY_ACTIVE is only valid for the initial zero-state public activation boundary"
      (observation.solana.tvlRaw = 0 ∧ observation.solana.escrowBalanceRaw = 0 ∧
        observation.robinhood.totalSupplyRaw = 0 ∧ observation.inFlight.solanaToRobinhoodRaw = 0 ∧
        observation.inFlight.robinhoodToSolanaRaw = 0 ∧ observation.inFlight.messageCount = .finite 0)

def validateProductionMainnetObservation (observation : ProductionMainnetObservation)
    (approved : ApprovedProductionState) (expectedState : ProductionExpectedState) : Result Unit := do
  validateApprovedState formats approved
  validateSolanaContextEvidence observation.solanaContext
  validateIdentities host formats observation approved
  validateSolana host formats observation.solana approved
  validateRobinhood host observation.robinhood approved
  validateInFlight host formats observation approved
  validateAuthorities host formats observation approved
  validateConfiguration host formats observation approved
  validateActivation observation expectedState

end Activation

end SanBridge.Tooling.Checker
