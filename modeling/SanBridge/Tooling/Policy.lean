import SanBridge.Library.Base58
import SanBridge.Solana.Runtime
import SanBridge.Tooling.Runtime

namespace SanBridge.Tooling.Policy

open Library.Checked Tooling.Runtime
open Solana.Runtime (Pubkey)

/-- `new PublicKey` of raw bytes, all 32 of them. -/
def keyOf (bytes : List UInt8) : Option Pubkey :=
  if h : bytes.length = 32 then some ⟨bytes.toArray, h⟩ else none

/-- The address formats of the two chains: `new PublicKey`, `toBase58` and the
checksummed form of an EVM address. A text that is no address has none of these. -/
structure AddressFormats where
  publicKey : Value → Option Pubkey
  toBase58 : Pubkey → String
  getAddress : Value → Option String
  hexZeroPad : String → Nat → Option String
  publicKey_toBase58 : ∀ key, publicKey (some (.str (toBase58 key))) = some key

variable (host : Host) (formats : AddressFormats)

section LayerZero

inductive ChainName
  | solana | robinhood
  deriving DecidableEq

def ChainName.text : ChainName → String
  | .solana => "solana"
  | .robinhood => "robinhood"

structure UlnObservation where
  confirmations : Int
  requiredDvns : List String
  optionalDvns : List String
  optionalThreshold : JsNumber
  explicitNoRequired : Bool
  explicitConfirmations : Bool
  explicitOptionalDvns : Bool

structure ChainObservation where
  sendLibrary : String
  receiveLibrary : String
  executor : String
  sendLibraryExplicit : Bool
  receiveLibraryExplicit : Bool
  executorExplicit : Bool
  peer : String
  send : UlnObservation
  receive : UlnObservation

structure BridgeObservation where
  solana : ChainObservation
  robinhood : ChainObservation
  deprecatedDvns : List String

structure ChainPolicy where
  sendLibrary : String
  receiveLibrary : String
  executor : String
  optionalDvns : List String

structure BridgePolicy where
  solanaSourceConfirmations : Int
  robinhoodSourceConfirmations : Option Int
  optionalThreshold : JsNumber
  solana : ChainPolicy
  robinhood : ChainPolicy

structure Peers where
  solana : String
  robinhood : String

def sanLayerZeroPolicy : BridgePolicy where
  solanaSourceConfirmations := 32
  robinhoodSourceConfirmations := some 30
  optionalThreshold := .finite 2
  solana := {
    sendLibrary := "7a4WjyR8VZ7yZz5XJAKm39BUGn5iT9CKcv2pmG9tdXVH"
    receiveLibrary := "7a4WjyR8VZ7yZz5XJAKm39BUGn5iT9CKcv2pmG9tdXVH"
    executor := "AwrbHeCyniXaQhiJZkLhgWdUCteeWSGaSN1sTfLiY7xK"
    optionalDvns := ["4VDjp6XQaxoZf5RGwiPU9NR1EXSZn2TP4ATMmiSzLfhb",
      "GPjyWr8vCotGuFubDpTxDxy9Vj1ZeEN4F2dwRmFiaGab", "HR9NQKK1ynW9NzgdM37dU5CBtqRHTukmbMKS7qkwSkHX"] }
  robinhood := {
    sendLibrary := "0xc39161c743d0307eb9bcc9fef03eeb9dc4802de7"
    receiveLibrary := "0xe1844c5d63a9543023008d332bd3d2e6f1fe1043"
    executor := "0x4208d6e27538189bb48e603d6123a94b8abe0a0b"
    optionalDvns := ["0xd01ae6905d48315f7be10c7330aecf8360ef5b12",
      "0x0ffe02df012299a370d5dd69298a5826eacafdf8", "0x1258a278519c7f4bd997a9c3bfd4aa802a028d89"] }

def normalizedSolana (value : String) : Result String := do
  let key ← ofOption "Invalid public key input" (formats.publicKey (some (.str value)))
  .ok (formats.toBase58 key)

def normalize (chain : ChainName) (value : String) : Result String :=
  match chain with
  | .solana => normalizedSolana formats value
  | .robinhood => .ok (host.toLowerCase value)

def normalizedSet (values : List String) (chain : ChainName) : Result (List String) := do
  let normalized ← values.mapM (normalize host formats chain)
  .ok (sortStrings normalized)

def assertChainAddressEqual (actual expected label : String) (chain : ChainName) : Result Unit := do
  let normalizedActual ← normalize host formats chain actual
  let normalizedExpected ← normalize host formats chain expected
  require (label ++ " differs: expected " ++ expected ++ ", observed " ++ actual)
    (normalizedActual = normalizedExpected)

def assertBytes32Equal (actual expected label : String) : Result Unit :=
  require (label ++ " differs: expected " ++ expected ++ ", observed " ++ actual)
    (host.toLowerCase actual = host.toLowerCase expected)

def validateUln (label : String) (observation : UlnObservation) (policy : ChainPolicy) (deprecated : List String)
    (bridgePolicy : BridgePolicy) (expectedConfirmations : Int) (chain : ChainName) : Result Unit := do
  require (label ++ " does not explicitly override required DVNs to NONE") observation.explicitNoRequired
  require (label ++ " confirmations are inherited from Endpoint defaults") observation.explicitConfirmations
  require (label ++ " optional DVNs are inherited from Endpoint defaults") observation.explicitOptionalDvns
  require (label ++ " required DVN count is not zero") (observation.requiredDvns.length = 0)
  require (label ++ " optional threshold differs")
    (observation.optionalThreshold.strictEqual bridgePolicy.optionalThreshold)
  require (label ++ " confirmations differ") (observation.confirmations = expectedConfirmations)
  let actual ← normalizedSet host formats observation.optionalDvns chain
  let expected ← normalizedSet host formats policy.optionalDvns chain
  require (label ++ " optional DVN count differs") (actual.length = expected.length)
  actual.forM fun dvn => do
    require (label ++ " contains deprecated/Dead DVN " ++ dvn) (dvn ∉ deprecated)
    require (label ++ " contains unexpected DVN " ++ dvn) (dvn ∈ expected)
  expected.forM fun dvn => require (label ++ " is missing expected DVN " ++ dvn) (dvn ∈ actual)

/-- The deprecated DVNs that are addresses of the chain. -/
def deprecatedSet (values : List String) (chain : ChainName) : List String :=
  values.filterMap fun value => (normalize host formats chain value).toOption

def validateChain (chain : ChainName) (observed : ChainObservation) (intended : ChainPolicy)
    (deprecatedDvns : List String) (expectedPeer : String) (policy : BridgePolicy)
    (sendConfirmations receiveConfirmations : Int) : Result Unit := do
  let name := chain.text
  let deprecated := deprecatedSet host formats deprecatedDvns chain
  assertChainAddressEqual host formats observed.sendLibrary intended.sendLibrary (name ++ " send library") chain
  assertChainAddressEqual host formats observed.receiveLibrary intended.receiveLibrary
    (name ++ " receive library") chain
  assertChainAddressEqual host formats observed.executor intended.executor (name ++ " Executor") chain
  require (name ++ " send library is inherited from Endpoint defaults") observed.sendLibraryExplicit
  require (name ++ " receive library is inherited from Endpoint defaults") observed.receiveLibraryExplicit
  require (name ++ " Executor is inherited from message-library defaults") observed.executorExplicit
  assertBytes32Equal host observed.peer expectedPeer (name ++ " peer")
  validateUln host formats (name ++ " send") observed.send intended deprecated policy sendConfirmations chain
  validateUln host formats (name ++ " receive") observed.receive intended deprecated policy receiveConfirmations
    chain

def validateLayerZeroObservation (observation : BridgeObservation) (expectedPeers : Peers)
    (policy : BridgePolicy) : Result Unit := do
  let robinhoodSourceConfirmations ← ofOption
    "Robinhood-source confirmations policy is unresolved; configuration validation fails closed"
    policy.robinhoodSourceConfirmations
  validateChain host formats .solana observation.solana policy.solana observation.deprecatedDvns
    expectedPeers.solana policy policy.solanaSourceConfirmations robinhoodSourceConfirmations
  validateChain host formats .robinhood observation.robinhood policy.robinhood observation.deprecatedDvns
    expectedPeers.robinhood policy robinhoodSourceConfirmations policy.solanaSourceConfirmations

def intendedUln (intended : ChainPolicy) (policy : BridgePolicy) (confirmations : Int) : UlnObservation where
  confirmations := confirmations
  requiredDvns := []
  optionalDvns := intended.optionalDvns
  optionalThreshold := policy.optionalThreshold
  explicitNoRequired := true
  explicitConfirmations := true
  explicitOptionalDvns := true

def intendedChain (intended : ChainPolicy) (policy : BridgePolicy) (peer : String)
    (sendConfirmations receiveConfirmations : Int) : ChainObservation where
  sendLibrary := intended.sendLibrary
  receiveLibrary := intended.receiveLibrary
  executor := intended.executor
  sendLibraryExplicit := true
  receiveLibraryExplicit := true
  executorExplicit := true
  peer := peer
  send := intendedUln intended policy sendConfirmations
  receive := intendedUln intended policy receiveConfirmations

variable {chain : ChainName} {intended : ChainPolicy} {policy : BridgePolicy} {sendConfirmations
  receiveConfirmations : Int} {label peer : String}

def ChainPolicy.addresses (intended : ChainPolicy) : List String :=
  [intended.sendLibrary, intended.receiveLibrary, intended.executor] ++ intended.optionalDvns

def Normalizes (chain : ChainName) (value : String) : Prop := ∃ s, normalize host formats chain value = .ok s

variable {host formats}

theorem normalizedSet_ok {values : List String} (h : ∀ v ∈ values, Normalizes host formats chain v) :
    ∃ set, normalizedSet host formats values chain = .ok set := by
  have hn : ∀ v ∈ values, normalize host formats chain v =
      .ok ((normalize host formats chain v).toOption.getD "") := by
    intro v hv
    obtain ⟨s, hs⟩ := h v hv
    rw [hs]
    rfl
  exact ⟨_, by rw [normalizedSet, mapM_of_forall hn, ok_bind]⟩

theorem assertChainAddressEqual_self {value : String} (h : Normalizes host formats chain value) :
    assertChainAddressEqual host formats value value label chain = .ok () := by
  obtain ⟨s, hs⟩ := h
  rw [assertChainAddressEqual, hs, ok_bind, ok_bind, require_eq_ok]
  exact decide_eq_true rfl

theorem validateUln_intended (hthreshold : policy.optionalThreshold.strictEqual policy.optionalThreshold = true)
    (h : ∀ v ∈ intended.optionalDvns, Normalizes host formats chain v) :
    validateUln host formats label (intendedUln intended policy sendConfirmations) intended [] policy
      sendConfirmations chain = .ok () := by
  obtain ⟨set, hset⟩ := normalizedSet_ok h
  simp only [validateUln, intendedUln, hset, hthreshold, ok_bind, bind_eq_ok, require_eq_ok, forM_eq_ok, exists_const,
    List.length_nil, decide_true, true_and, List.not_mem_nil, not_false_eq_true, decide_eq_true_eq]
  exact ⟨fun dvn hd => hd, fun dvn hd => hd⟩

/-- What a policy asks for passes its own check. -/
theorem validateChain_intended (hthreshold : policy.optionalThreshold.strictEqual policy.optionalThreshold = true)
    (h : ∀ v ∈ intended.addresses, Normalizes host formats chain v) :
    validateChain host formats chain
      (intendedChain intended policy peer sendConfirmations receiveConfirmations) intended [] peer policy
      sendConfirmations receiveConfirmations = .ok () := by
  have hdvns : ∀ v ∈ intended.optionalDvns, Normalizes host formats chain v :=
    fun v hv => h v (List.mem_append_right _ hv)
  have hlibrary : ∀ v ∈ [intended.sendLibrary, intended.receiveLibrary, intended.executor],
      Normalizes host formats chain v := fun v hv => h v (List.mem_append_left _ hv)
  simp only [List.forall_mem_cons] at hlibrary
  obtain ⟨hsend, hreceive, hexecutor, _⟩ := hlibrary
  simp only [validateChain, intendedChain, assertChainAddressEqual_self hsend, assertChainAddressEqual_self hreceive,
    assertChainAddressEqual_self hexecutor, ok_bind, bind_eq_ok, require_eq_ok, exists_const, true_and]
  refine ⟨(), ?_, (), ?_⟩
  · rw [assertBytes32Equal, require_eq_ok]
    exact decide_eq_true rfl
  · exact ⟨validateUln_intended hthreshold hdvns, validateUln_intended hthreshold hdvns⟩

end LayerZero

section RateLimits

structure DirectionalRateLimit where
  capacity : Int
  available : Option Int
  refill : Int
  durationSeconds : Option Int

structure ChainRateLimits where
  outbound : DirectionalRateLimit
  inbound : DirectionalRateLimit

/-- `Partial<ProductionRateLimitPlan>` -/
structure ProductionRateLimitPlan where
  solana : Option ChainRateLimits
  robinhood : Option ChainRateLimits

structure ProductionRateLimitProfile where
  capacity : Int
  refillPerSecond : Int

def requireDirection (name : String) (value : Option DirectionalRateLimit) (evm : Bool) :
    Result DirectionalRateLimit := do
  let limit ← ofOption ("Missing required production rate limiter: " ++ name) value
  require ("Invalid production rate limiter: " ++ name) (0 < limit.capacity ∧ 0 < limit.refill)
  require ("Robinhood rate limiter must use an explicit 86400-second duration: " ++ name)
    (evm = false ∨ limit.durationSeconds = some 86400)
  .ok limit

def validateProductionRateLimitPlan (plan : ProductionRateLimitPlan) (expected : ProductionRateLimitProfile) :
    Result Unit := do
  let solanaOutbound ← requireDirection "Solana outbound" (plan.solana.map (·.outbound)) false
  let solanaInbound ← requireDirection "Solana inbound" (plan.solana.map (·.inbound)) false
  let robinhoodOutbound ← requireDirection "Robinhood outbound" (plan.robinhood.map (·.outbound)) true
  let robinhoodInbound ← requireDirection "Robinhood inbound" (plan.robinhood.map (·.inbound)) true
  require "Production rate-limit capacity differs from the explicitly selected profile"
    ([solanaOutbound, solanaInbound, robinhoodOutbound, robinhoodInbound].all fun limit =>
      limit.capacity = expected.capacity)
  require "Solana refill differs from the explicitly selected profile"
    (solanaOutbound.refill = expected.refillPerSecond ∧ solanaInbound.refill = expected.refillPerSecond)
  require "Robinhood refill amount must equal the explicitly selected capacity"
    (robinhoodOutbound.refill = expected.capacity ∧ robinhoodInbound.refill = expected.capacity)

def requireAvailable (label : String) (limit : Option DirectionalRateLimit) : Result Unit :=
  require (label ++ " available capacity is missing or outside its configured bucket")
    (match limit with
    | some limit => limit.available.any fun available => 0 ≤ available ∧ available ≤ limit.capacity
    | none => false)

end RateLimits

section Sample

open Library.Base58

def isPlainAddress (s : String) : Bool :=
  startsWith s "0x" ∧ (s.toList.drop 2).length = 40 ∧ (s.toList.drop 2).all Char.isDigit

/-- Base58, with a table of checksummed addresses. An address without letters is its own. -/
def plainFormats (checksums : List (String × String)) : AddressFormats where
  publicKey
    | some (.str s) => (decode s).bind keyOf
    | _ => none
  toBase58 key := encode key.toList
  getAddress
    | some (.str s) => if isPlainAddress s then some s else checksums.lookup s
    | _ => none
  hexZeroPad s width :=
    if startsWith s "0x" ∧ (s.toList.drop 2).all isHex ∧ (s.toList.drop 2).length ≤ 2 * width then
      some ("0x" ++ padStart (String.ofList (s.toList.drop 2)) (2 * width) '0')
    else none
  publicKey_toBase58 := by
    intro key
    change (decode (encode key.toList)).bind keyOf = some key
    rw [decode_encode, Option.bind_some, keyOf, dif_pos (Vector.length_toList)]
    rfl

/-- In base58 a key has one spelling. -/
theorem plainFormats_spelling {checksums : List (String × String)} {s : String} {key : Pubkey}
    (h : (plainFormats checksums).publicKey (some (.str s)) = some key) :
    (plainFormats checksums).toBase58 key = s := by
  change (decode s).bind keyOf = some key at h
  obtain ⟨bytes, hdecode, hkey⟩ := Option.bind_eq_some_iff.mp h
  rw [keyOf, Option.dite_none_right_eq_some] at hkey
  obtain ⟨hlength, hkey⟩ := hkey
  have hbytes : key.toList = bytes := by
    rw [← Option.some.inj hkey]
    rfl
  change encode key.toList = s
  rw [hbytes]
  exact encode_decode hdecode

end Sample

end SanBridge.Tooling.Policy
