import SanBridge.Tooling.Canonical
import SanBridge.Tooling.CommonContext

namespace SanBridge.Tooling.Repetition

open Library.Checked Tooling.Runtime Tooling.Policy Tooling.Checker Tooling.Canonical Tooling.CommonContext
open Tooling.Backing (sampleObservation)

section Source

/-- An observation with the evidence of its context in full. -/
structure CollectedObservation extends ProductionMainnetObservation where
  evidence : SolanaCommonContextEvidence
  context_eq : solanaContext = evidence.toContext

def bigIntJson (n : Int) : Json := .str (toString n)

def nullableJson : Option String → Json
  | some s => .str s
  | none => .null

/-- A property that may be `undefined` is left out. -/
def optionalField (key : String) : Option Int → List (String × Json)
  | some n => [(key, bigIntJson n)]
  | none => []

def textsJson (values : List String) : Json := .arr (values.map .str)

def SolanaObservation.toJson (o : SolanaObservation) : Json :=
  .obj [("eid", .num o.eid), ("genesisHash", .str o.genesisHash), ("mint", .str o.mint),
    ("tokenProgram", .str o.tokenProgram), ("decimals", .num o.decimals), ("sharedDecimals", .num o.sharedDecimals),
    ("oftType", .num o.oftType), ("mintSupplyRaw", bigIntJson o.mintSupplyRaw),
    ("mintAuthority", nullableJson o.mintAuthority), ("freezeAuthority", nullableJson o.freezeAuthority),
    ("programId", .str o.programId), ("endpoint", .str o.endpoint), ("oftStore", .str o.oftStore),
    ("escrow", .str o.escrow), ("tvlRaw", bigIntJson o.tvlRaw), ("escrowBalanceRaw", bigIntJson o.escrowBalanceRaw),
    ("upgradeAuthority", .str o.upgradeAuthority), ("storeAdmin", .str o.storeAdmin), ("delegate", .str o.delegate),
    ("paused", .bool o.paused), ("pauser", nullableJson o.pauser), ("unpauser", nullableJson o.unpauser),
    ("programExecutable", .bool o.programExecutable), ("programOwner", .str o.programOwner),
    ("programData", .str o.programData), ("programDataSha256", .str o.programDataSha256),
    ("programDataOwner", .str o.programDataOwner), ("programDataExecutable", .bool o.programDataExecutable),
    ("endpointProgramData", .str o.endpointProgramData),
    ("endpointProgramDataSha256", .str o.endpointProgramDataSha256),
    ("endpointUpgradeAuthority", .str o.endpointUpgradeAuthority),
    ("endpointProgramDataOwner", .str o.endpointProgramDataOwner),
    ("endpointProgramDataExecutable", .bool o.endpointProgramDataExecutable),
    ("ulnProgramData", .str o.ulnProgramData), ("ulnProgramDataSha256", .str o.ulnProgramDataSha256),
    ("ulnUpgradeAuthority", .str o.ulnUpgradeAuthority), ("ulnProgramDataOwner", .str o.ulnProgramDataOwner),
    ("ulnProgramDataExecutable", .bool o.ulnProgramDataExecutable), ("escrowProgramOwner", .str o.escrowProgramOwner),
    ("escrowMint", .str o.escrowMint), ("escrowAuthority", .str o.escrowAuthority)]

/-- The block hash is left out. -/
def RobinhoodObservation.toJson (o : RobinhoodObservation) : Json :=
  .obj [("chainId", .num o.chainId), ("eid", .num o.eid), ("endpoint", .str o.endpoint), ("oft", .str o.oft),
    ("decimals", .num o.decimals), ("sharedDecimals", .num o.sharedDecimals),
    ("totalSupplyRaw", bigIntJson o.totalSupplyRaw), ("owner", .str o.owner), ("delegate", .str o.delegate),
    ("paused", .bool o.paused), ("runtimeCodeHash", .str o.runtimeCodeHash),
    ("proxyImplementation", nullableJson o.proxyImplementation), ("proxyAdmin", nullableJson o.proxyAdmin)]

def UlnObservation.toJson (o : UlnObservation) : Json :=
  .obj [("confirmations", bigIntJson o.confirmations), ("requiredDvns", textsJson o.requiredDvns),
    ("optionalDvns", textsJson o.optionalDvns), ("optionalThreshold", .num o.optionalThreshold),
    ("explicitNoRequired", .bool o.explicitNoRequired), ("explicitConfirmations", .bool o.explicitConfirmations),
    ("explicitOptionalDvns", .bool o.explicitOptionalDvns)]

def ChainObservation.toJson (o : ChainObservation) : Json :=
  .obj [("sendLibrary", .str o.sendLibrary), ("receiveLibrary", .str o.receiveLibrary), ("executor", .str o.executor),
    ("sendLibraryExplicit", .bool o.sendLibraryExplicit), ("receiveLibraryExplicit", .bool o.receiveLibraryExplicit),
    ("executorExplicit", .bool o.executorExplicit), ("peer", .str o.peer), ("send", UlnObservation.toJson o.send),
    ("receive", UlnObservation.toJson o.receive)]

def BridgeObservation.toJson (o : BridgeObservation) : Json :=
  .obj [("solana", ChainObservation.toJson o.solana), ("robinhood", ChainObservation.toJson o.robinhood),
    ("deprecatedDvns", textsJson o.deprecatedDvns)]

def EnforcedOption.toJson (o : EnforcedOption) : Json :=
  .obj [("gasOrCompute", bigIntJson o.gasOrCompute), ("value", bigIntJson o.value)]

def DirectionalRateLimit.toJson (limit : DirectionalRateLimit) : Json :=
  .obj ([("capacity", bigIntJson limit.capacity)] ++ optionalField "available" limit.available ++
    [("refill", bigIntJson limit.refill)] ++ optionalField "durationSeconds" limit.durationSeconds)

def ChainRateLimits.toJson (limits : ChainRateLimits) : Json :=
  .obj [("outbound", DirectionalRateLimit.toJson limits.outbound),
    ("inbound", DirectionalRateLimit.toJson limits.inbound)]

def chainField (key : String) : Option ChainRateLimits → List (String × Json)
  | some limits => [(key, ChainRateLimits.toJson limits)]
  | none => []

def ProductionRateLimitPlan.toJson (plan : ProductionRateLimitPlan) : Json :=
  .obj (chainField "solana" plan.solana ++ chainField "robinhood" plan.robinhood)

def SolanaContextAccountEvidence.toJson (a : SolanaContextAccountEvidence) : Json :=
  .obj [("label", .str a.label), ("address", .str a.address), ("owner", .str a.owner),
    ("executable", .bool a.executable), ("lamports", .str a.lamports), ("dataLength", .num (.finite a.dataLength)),
    ("accountSha256", .str a.accountSha256)]

/-- The slots and the block are left out. -/
def SolanaCommonContextEvidence.toJson (e : SolanaCommonContextEvidence) : Json :=
  .obj [("model", .str e.model), ("commitment", .str e.commitment),
    ("accounts", .arr (e.accounts.map SolanaContextAccountEvidence.toJson)),
    ("remainingCrossCallGaps", textsJson e.remainingCrossCallGaps)]

/-- The heights are left out. -/
def InFlightObservation.toJson (o : InFlightObservation) : Json :=
  .obj [("manifest", o.manifest), ("inventoryId", .str o.inventoryId), ("inventorySha256", .str o.inventorySha256),
    ("messageCount", .num o.messageCount), ("solanaToRobinhoodRaw", bigIntJson o.solanaToRobinhoodRaw),
    ("robinhoodToSolanaRaw", bigIntJson o.robinhoodToSolanaRaw)]

def normalized (o : CollectedObservation) : Json :=
  .obj [("solana", SolanaObservation.toJson o.solana), ("robinhood", RobinhoodObservation.toJson o.robinhood),
    ("layerZero", BridgeObservation.toJson o.layerZero),
    ("enforcedOptions", .obj [("solanaReceive", EnforcedOption.toJson o.solanaReceive),
      ("robinhoodReceive", EnforcedOption.toJson o.robinhoodReceive)]),
    ("rateLimits", ProductionRateLimitPlan.toJson o.rateLimits),
    ("solanaContext", SolanaCommonContextEvidence.toJson o.evidence),
    ("inFlight", InFlightObservation.toJson o.inFlight)]

variable (host : Host) (formats : AddressFormats)

def stable (o : CollectedObservation) : String := stringify host (normalized o)

def validateRepeatedProductionObservations (first second : CollectedObservation) : Result Unit :=
  require "Two consecutive production observations differ; refusing a composite or changing RPC snapshot"
    (stable host first = stable host second)

def expectedStateOf : String → Option ProductionExpectedState
  | "PRE_ACTIVATION_INERT" => some .preActivationInert
  | "CANARY_ACTIVE" => some .canaryActive
  | _ => none

/-- `first` and `second` are what the collector returns, one call after the other. -/
def checkProductionMainnet (expectedState : String) (approved : ApprovedProductionState)
    (first second : Result CollectedObservation) : Result Unit := do
  let expected ← ofOption "SAN_EXPECTED_ACTIVATION_STATE must be PRE_ACTIVATION_INERT or CANARY_ACTIVE"
    (expectedStateOf expectedState)
  let observation ← first
  let confirmation ← second
  validateProductionMainnetObservation host formats observation.toProductionMainnetObservation approved expected
  validateProductionMainnetObservation host formats confirmation.toProductionMainnetObservation approved expected
  validateRepeatedProductionObservations host observation confirmation

end Source

section Writing

variable {host : Host}

def shown : JsNumber → JsNumber
  | .finite q => .finite q
  | _ => .nan

@[simp] theorem written_num_iff {x y : JsNumber} : written (.num x) = written (.num y) ↔ shown x = shown y := by
  cases x <;> cases y <;> simp [shown]

theorem natText_injective {n m : Nat} (h : toString n = toString m) : n = m := by
  have hvalue := congrArg decimalValue h
  rwa [decimalValue_toString, decimalValue_toString] at hvalue

theorem natText_ne (n m : Nat) : toString n ≠ "-" ++ toString m := by
  intro h
  have hdigits := isDigits_toString n
  rw [h, isDigits] at hdigits
  simp [String.toList_append] at hdigits

theorem intText_injective {n m : Int} (h : toString n = toString m) : n = m := by
  cases n with
  | ofNat n =>
    cases m with
    | ofNat m => exact congrArg Int.ofNat (natText_injective h)
    | negSucc m => exact absurd h (natText_ne n (m + 1))
  | negSucc n =>
    cases m with
    | ofNat m => exact absurd h.symm (natText_ne m (n + 1))
    | negSucc m =>
      have htext := natText_injective ((String.append_right_inj "-").mp h)
      rw [Nat.succ.inj htext]

@[simp] theorem bigIntJson_iff {n m : Int} : bigIntJson n = bigIntJson m ↔ n = m := by
  constructor
  · intro h
    exact intText_injective (Json.str.inj h)
  · rintro rfl
    rfl

theorem bigIntJson_written {n : Int} : written (bigIntJson n) = bigIntJson n := by simp [bigIntJson]

theorem nullableJson_iff {o o' : Option String} :
    written (nullableJson o) = written (nullableJson o') ↔ o = o' := by
  cases o <;> cases o' <;> simp [nullableJson]

theorem textsJson_iff {values values' : List String} :
    written (textsJson values) = written (textsJson values') ↔ values = values' := by
  have hwritten : ∀ values : List String, written (textsJson values) = textsJson values := by
    intro values
    simp [textsJson, Function.comp_def]
  rw [hwritten, hwritten, textsJson, textsJson, Json.arr.injEq]
  exact (List.map_injective_iff.mpr fun _ _ => Json.str.inj).eq_iff

def SolanaObservation.stablePart (o : SolanaObservation) : SolanaObservation :=
  { o with
    eid := shown o.eid
    decimals := shown o.decimals
    sharedDecimals := shown o.sharedDecimals
    oftType := shown o.oftType }

theorem solana_written_iff {a b : SolanaObservation} :
    written (SolanaObservation.toJson a) = written (SolanaObservation.toJson b) ↔
      SolanaObservation.stablePart a = SolanaObservation.stablePart b := by
  obtain ⟨⟩ := a
  obtain ⟨⟩ := b
  simp [SolanaObservation.toJson, SolanaObservation.stablePart, bigIntJson_written, nullableJson_iff]

def RobinhoodObservation.stablePart (o : RobinhoodObservation) : RobinhoodObservation :=
  { o with
    chainId := shown o.chainId
    eid := shown o.eid
    decimals := shown o.decimals
    sharedDecimals := shown o.sharedDecimals
    blockHash := "" }

theorem robinhood_written_iff {a b : RobinhoodObservation} :
    written (RobinhoodObservation.toJson a) = written (RobinhoodObservation.toJson b) ↔
      RobinhoodObservation.stablePart a = RobinhoodObservation.stablePart b := by
  obtain ⟨⟩ := a
  obtain ⟨⟩ := b
  simp [RobinhoodObservation.toJson, RobinhoodObservation.stablePart, bigIntJson_written, nullableJson_iff]

def UlnObservation.stablePart (o : UlnObservation) : UlnObservation :=
  { o with optionalThreshold := shown o.optionalThreshold }

theorem uln_written_iff {a b : UlnObservation} :
    written (UlnObservation.toJson a) = written (UlnObservation.toJson b) ↔
      UlnObservation.stablePart a = UlnObservation.stablePart b := by
  obtain ⟨⟩ := a
  obtain ⟨⟩ := b
  simp [UlnObservation.toJson, UlnObservation.stablePart, bigIntJson_written, textsJson_iff]

def ChainObservation.stablePart (o : ChainObservation) : ChainObservation :=
  { o with
    send := UlnObservation.stablePart o.send
    receive := UlnObservation.stablePart o.receive }

theorem chain_written_iff {a b : ChainObservation} :
    written (ChainObservation.toJson a) = written (ChainObservation.toJson b) ↔
      ChainObservation.stablePart a = ChainObservation.stablePart b := by
  obtain ⟨⟩ := a
  obtain ⟨⟩ := b
  simp [ChainObservation.toJson, ChainObservation.stablePart, uln_written_iff]

def BridgeObservation.stablePart (o : BridgeObservation) : BridgeObservation :=
  { o with
    solana := ChainObservation.stablePart o.solana
    robinhood := ChainObservation.stablePart o.robinhood }

theorem bridge_written_iff {a b : BridgeObservation} :
    written (BridgeObservation.toJson a) = written (BridgeObservation.toJson b) ↔
      BridgeObservation.stablePart a = BridgeObservation.stablePart b := by
  obtain ⟨⟩ := a
  obtain ⟨⟩ := b
  simp [BridgeObservation.toJson, BridgeObservation.stablePart, chain_written_iff, textsJson_iff]

theorem enforced_written_iff {a b : EnforcedOption} :
    written (EnforcedOption.toJson a) = written (EnforcedOption.toJson b) ↔ a = b := by
  obtain ⟨⟩ := a
  obtain ⟨⟩ := b
  simp [EnforcedOption.toJson, bigIntJson_written]

theorem limit_written_iff {a b : DirectionalRateLimit} :
    written (DirectionalRateLimit.toJson a) = written (DirectionalRateLimit.toJson b) ↔ a = b := by
  obtain ⟨_, available, _, duration⟩ := a
  obtain ⟨_, available', _, duration'⟩ := b
  cases available <;> cases available' <;> cases duration <;> cases duration' <;>
    simp [DirectionalRateLimit.toJson, optionalField, bigIntJson_written]

theorem limits_written_iff {a b : ChainRateLimits} :
    written (ChainRateLimits.toJson a) = written (ChainRateLimits.toJson b) ↔ a = b := by
  obtain ⟨⟩ := a
  obtain ⟨⟩ := b
  simp [ChainRateLimits.toJson, limit_written_iff]

theorem plan_written_iff {a b : ProductionRateLimitPlan} :
    written (ProductionRateLimitPlan.toJson a) = written (ProductionRateLimitPlan.toJson b) ↔ a = b := by
  obtain ⟨solana, robinhood⟩ := a
  obtain ⟨solana', robinhood'⟩ := b
  cases solana <;> cases solana' <;> cases robinhood <;> cases robinhood' <;>
    simp [ProductionRateLimitPlan.toJson, chainField, limits_written_iff]

theorem account_written_iff {a b : SolanaContextAccountEvidence} :
    written (SolanaContextAccountEvidence.toJson a) = written (SolanaContextAccountEvidence.toJson b) ↔ a = b := by
  obtain ⟨⟩ := a
  obtain ⟨⟩ := b
  simp [SolanaContextAccountEvidence.toJson]

def SolanaCommonContextEvidence.stablePart (e : SolanaCommonContextEvidence) : SolanaCommonContextEvidence :=
  { e with contextSlot := 0, finalizedSlotBefore := 0, finalizedSlotAfter := 0, blockhash := "", parentSlot := 0 }

theorem context_written_iff {a b : SolanaCommonContextEvidence} :
    written (SolanaCommonContextEvidence.toJson a) = written (SolanaCommonContextEvidence.toJson b) ↔
      SolanaCommonContextEvidence.stablePart a = SolanaCommonContextEvidence.stablePart b := by
  have haccounts : Function.Injective fun e => written (SolanaContextAccountEvidence.toJson e) :=
    fun _ _ h => account_written_iff.mp h
  obtain ⟨⟩ := a
  obtain ⟨⟩ := b
  simp [SolanaCommonContextEvidence.toJson, SolanaCommonContextEvidence.stablePart, textsJson_iff, Function.comp_def,
    (List.map_injective_iff.mpr haccounts).eq_iff]

def InFlightObservation.stablePart (o : InFlightObservation) : InFlightObservation :=
  { o with
    manifest := written o.manifest
    messageCount := shown o.messageCount
    solanaSlot := 0
    robinhoodBlock := 0 }

theorem inFlight_written_iff {a b : InFlightObservation} :
    written (InFlightObservation.toJson a) = written (InFlightObservation.toJson b) ↔
      InFlightObservation.stablePart a = InFlightObservation.stablePart b := by
  obtain ⟨⟩ := a
  obtain ⟨⟩ := b
  simp [InFlightObservation.toJson, InFlightObservation.stablePart, bigIntJson_written]

/-- Two observations agree on everything but the slots, the heights and the blocks
they were made at. Numbers that are not finite count as one. -/
structure SameStable (a b : CollectedObservation) : Prop where
  solana : SolanaObservation.stablePart a.solana = SolanaObservation.stablePart b.solana
  robinhood : RobinhoodObservation.stablePart a.robinhood = RobinhoodObservation.stablePart b.robinhood
  layerZero : BridgeObservation.stablePart a.layerZero = BridgeObservation.stablePart b.layerZero
  solanaReceive : a.solanaReceive = b.solanaReceive
  robinhoodReceive : a.robinhoodReceive = b.robinhoodReceive
  rateLimits : a.rateLimits = b.rateLimits
  evidence : SolanaCommonContextEvidence.stablePart a.evidence = SolanaCommonContextEvidence.stablePart b.evidence
  inFlight : InFlightObservation.stablePart a.inFlight = InFlightObservation.stablePart b.inFlight

theorem normalized_written_iff {a b : CollectedObservation} :
    written (normalized a) = written (normalized b) ↔ SameStable a b := by
  simp only [normalized, written, List.map_cons, List.map_nil, Json.obj.injEq, List.cons.injEq, Prod.mk.injEq,
    solana_written_iff, robinhood_written_iff, bridge_written_iff, enforced_written_iff, plan_written_iff,
    context_written_iff, inFlight_written_iff, true_and, and_true]
  constructor
  · rintro ⟨hsolana, hrobinhood, hlayerZero, ⟨hreceive, hreceive'⟩, hlimits, hcontext, hflight⟩
    exact ⟨hsolana, hrobinhood, hlayerZero, hreceive, hreceive', hlimits, hcontext, hflight⟩
  · rintro ⟨hsolana, hrobinhood, hlayerZero, hreceive, hreceive', hlimits, hcontext, hflight⟩
    exact ⟨hsolana, hrobinhood, hlayerZero, ⟨hreceive, hreceive'⟩, hlimits, hcontext, hflight⟩

theorem stringify_written (v : Json) : stringify host (written v) = stringify host v := by
  induction v using json_induction with
  | null | bool _ | str _ => simp
  | num x => cases x <;> simp
  | arr items ih =>
    rw [written, stringify, stringify, stringifyItems_eq, stringifyItems_eq, List.map_map]
    congr 3
    exact List.map_congr_left ih
  | obj fields ih =>
    rw [written, stringify, stringify, stringifyFields_eq, stringifyFields_eq, List.map_map]
    congr 3
    apply List.map_congr_left
    intro f hf
    simp only [Function.comp_apply, ih f hf]

theorem validateRepeated_iff (hp : PrintsNumbers host) {a b : CollectedObservation} {u : Unit} :
    validateRepeatedProductionObservations host a b = .ok u ↔ SameStable a b := by
  have htext : stable host a = stable host b ↔ written (normalized a) = written (normalized b) := by
    rw [stable, stable, ← stringify_written, ← stringify_written (normalized b)]
    exact (stringify_injOn hp).eq_iff (written_finite _) (written_finite _)
  rw [validateRepeatedProductionObservations, require_eq_ok, decide_eq_true_iff, htext, normalized_written_iff]

end Writing

section Check

variable {host : Host} {formats : AddressFormats}

/-- The texts of two observations are equal exactly when these agree on everything but
when they were made, and the check passes exactly when both satisfy the policy too. -/
theorem repeated_observations_iff (hp : PrintsNumbers host) :
    (∀ a b, validateRepeatedProductionObservations host a b = .ok () ↔ SameStable a b) ∧
    ∀ expectedState approved first second,
      checkProductionMainnet host formats expectedState approved first second = .ok () ↔
        ∃ expected a b, expectedStateOf expectedState = some expected ∧ first = .ok a ∧ second = .ok b ∧
          validateProductionMainnetObservation host formats a.toProductionMainnetObservation approved expected =
            .ok () ∧
          validateProductionMainnetObservation host formats b.toProductionMainnetObservation approved expected =
            .ok () ∧
          SameStable a b := by
  refine ⟨fun a b => validateRepeated_iff hp, fun expectedState approved first second => ?_⟩
  simp only [checkProductionMainnet, bind_eq_ok, ofOption_eq_ok, validateRepeated_iff hp]
  constructor
  · rintro ⟨expected, hexpected, a, ha, b, hb, _, hva, _, hvb, hsame⟩
    exact ⟨expected, a, b, hexpected, ha, hb, hva, hvb, hsame⟩
  · rintro ⟨expected, a, b, hexpected, ha, hb, hva, hvb, hsame⟩
    exact ⟨expected, hexpected, a, ha, b, hb, (), hva, (), hvb, hsame⟩

end Check

section Sample

def sampleEvidence : SolanaCommonContextEvidence where
  model := "COMMON_CONTEXT_STRONG"
  commitment := "finalized"
  contextSlot := 120
  finalizedSlotBefore := 119
  finalizedSlotAfter := 121
  blockhash := sampleObservation.solanaContext.blockhash
  parentSlot := 119
  accounts := sampleObservation.solanaContext.accounts.map fun a =>
    ⟨a.label, a.address, solanaUpgradeableLoader, false, "1", 0, a.accountSha256⟩
  remainingCrossCallGaps := remainingCrossCallGaps

theorem sampleEvidence_accounts : sampleObservation.solanaContext.accounts = sampleEvidence.toContext.accounts := by
  rw [SolanaCommonContextEvidence.toContext, sampleEvidence, List.map_map]
  exact (List.map_id _).symm

def sampleCollected (slot : Int) : CollectedObservation :=
  { sampleObservation with
    solanaContext := { sampleObservation.solanaContext with
      contextSlot := slot
      finalizedSlotBefore := slot
      finalizedSlotAfter := slot }
    inFlight := { sampleObservation.inFlight with solanaSlot := slot }
    evidence := { sampleEvidence with contextSlot := slot, finalizedSlotBefore := slot, finalizedSlotAfter := slot }
    context_eq := by
      rw [SolanaContext.mk.injEq]
      exact ⟨rfl, rfl, rfl, rfl, rfl, rfl, sampleEvidence_accounts⟩ }

theorem sampleCollected_stable (slot slot' : Int) : SameStable (sampleCollected slot) (sampleCollected slot') :=
  ⟨rfl, rfl, rfl, rfl, rfl, rfl, rfl, rfl⟩

def samplePrinter : Host := exactly (plainHost (Vector.replicate 32 0))

/-- A later round of the same state passes, and a round with another supply does not. -/
theorem repeated_observations_iff_sample :
    validateRepeatedProductionObservations samplePrinter (sampleCollected 120) (sampleCollected 130) = .ok () ∧
    ∀ formats expectedState approved second, second.robinhood.totalSupplyRaw ≠ 7 →
      checkProductionMainnet samplePrinter formats expectedState approved (.ok (sampleCollected 120)) (.ok second) ≠
        .ok () := by
  constructor
  · exact ((@repeated_observations_iff _ (plainFormats []) (exactly_prints _)).1 _ _).mpr
      (sampleCollected_stable 120 130)
  · intro formats expectedState approved second hsupply h
    obtain ⟨_, _, _, _, ha, hb, _, _, hsame⟩ :=
      ((repeated_observations_iff (exactly_prints _)).2 expectedState approved _ _).mp h
    cases ha
    cases hb
    exact hsupply (congrArg RobinhoodObservation.totalSupplyRaw hsame.robinhood).symm

end Sample

end SanBridge.Tooling.Repetition
