import SanBridge.Tooling.Evidence

namespace SanBridge.Tooling.Backing

open Library.Checked Tooling.Runtime Tooling.Inventory Tooling.Acceptance Tooling.Checker Tooling.Policy
open Tooling.Manifest Tooling.Evidence

variable {host : Host} {formats : AddressFormats} {observation : ProductionMainnetObservation}
  {approved : ApprovedProductionState} {expectedState : ProductionExpectedState}

def approvedRange (expected : ApprovedInFlight) (solana : Bool) : Int × Int :=
  if solana then (expected.solanaFromSlot, expected.solanaToSlot)
  else (expected.robinhoodFromBlock, expected.robinhoodToBlock)

def snapshotHeight (observation : ProductionMainnetObservation) (solana : Bool) : Int :=
  if solana then observation.solanaContext.contextSlot else observation.inFlight.robinhoodBlock

theorem bigInt_of_readsUnsigned {v : Value} {positive : Bool} {n : Nat} (h : ReadsUnsigned v positive n) :
    bigInt host v = .ok n := by
  obtain ⟨s, rfl, hdigits, _, rfl⟩ := h
  rw [bigInt, stringToBigInt, if_pos hdigits]

section Accounting

/-- What the checker establishes about the inventory it was shown. -/
structure Accounted (host : Host) (observation : ProductionMainnetObservation)
    (approved : ApprovedProductionState) : Prop where
  escrow : observation.solana.tvlRaw ≤ observation.solana.escrowBalanceRaw
  rangeStart : ∀ solana, bigInt host (rangeStart observation.inFlight.manifest solana) =
    .ok (approvedRange approved.expectedInFlight solana).1
  rangeEnd : ∀ solana, bigInt host (rangeEnd observation.inFlight.manifest solana) =
    .ok (approvedRange approved.expectedInFlight solana).2
  anchored : ∀ solana, (approvedRange approved.expectedInFlight solana).2 ≤ snapshotHeight observation solana
  tvl : observation.solana.tvlRaw = observation.robinhood.totalSupplyRaw +
    observation.inFlight.solanaToRobinhoodRaw + observation.inFlight.robinhoodToSolanaRaw

theorem validateManifestRanges_eq_ok {manifest : Value} {expected : ApprovedInFlight} {ends : Int × Int}
    (h : validateManifestRanges host manifest expected = .ok ends) :
    (∀ solana, bigInt host (rangeStart manifest solana) = .ok (approvedRange expected solana).1) ∧
    (∀ solana, bigInt host (rangeEnd manifest solana) = .ok (approvedRange expected solana).2) ∧
    ends = ((approvedRange expected true).2, (approvedRange expected false).2) := by
  simp only [validateManifestRanges, bind_eq_ok, require_eq_ok, decide_eq_true_eq, exists_const,
    Except.ok.injEq] at h
  obtain ⟨_, h₁, rfl, _, h₂, rfl, _, h₃, rfl, _, h₄, rfl, rfl⟩ := h
  refine ⟨fun solana => ?_, fun solana => ?_, rfl⟩
  · cases solana with
    | true => exact h₁
    | false => exact h₃
  · cases solana with
    | true => exact h₂
    | false => exact h₄

theorem validateAnchors_eq_ok {solanaEnd robinhoodEnd : Int} {u : Unit}
    (h : validateAnchors host observation solanaEnd robinhoodEnd = .ok u) :
    solanaEnd ≤ observation.solanaContext.contextSlot ∧ robinhoodEnd ≤ observation.inFlight.robinhoodBlock := by
  obtain ⟨_, h, _⟩ := bind_eq_ok.mp h
  exact of_decide_eq_true (require_eq_ok.mp h)

theorem validateInFlight_eq_ok {u : Unit} (h : validateInFlight host formats observation approved = .ok u) :
    Accounted host observation approved := by
  simp only [validateInFlight, bind_eq_ok, require_eq_ok, decide_eq_true_eq, exists_const] at h
  obtain ⟨hescrow, _, _, _, _, _, ends, hranges, _, hanchors, _, _, htvl⟩ := h
  obtain ⟨hstart, hend, rfl⟩ := validateManifestRanges_eq_ok hranges
  obtain ⟨hsolana, hrobinhood⟩ := validateAnchors_eq_ok hanchors
  refine ⟨hescrow, hstart, hend, fun solana => ?_, htvl⟩
  cases solana with
  | true => exact hsolana
  | false => exact hrobinhood

theorem validate_accounted {u : Unit}
    (h : validateProductionMainnetObservation host formats observation approved expectedState = .ok u) :
    Accounted host observation approved := by
  simp only [validateProductionMainnetObservation, bind_eq_ok] at h
  obtain ⟨_, _, _, _, _, _, _, _, _, _, _, hinFlight, _⟩ := h
  exact validateInFlight_eq_ok hinFlight

theorem validate_canary {u : Unit}
    (h : validateProductionMainnetObservation host formats observation approved .canaryActive = .ok u) :
    observation.inFlight.messageCount = .finite 0 := by
  simp only [validateProductionMainnetObservation, bind_eq_ok] at h
  obtain ⟨_, _, _, _, _, _, _, _, _, _, _, _, _, _, _, _, hactivation⟩ := h
  simp only [validateActivation, bind_eq_ok, require_eq_ok, decide_eq_true_eq] at hactivation
  obtain ⟨_, _, _, _, _, _, _, hcount⟩ := hactivation
  exact hcount

end Accounting

section Checks

variable {a b label : String}

def IsKey (formats : AddressFormats) (s : String) : Prop := (formats.publicKey (some (.str s))).isSome = true

theorem equalSolanaAddress_self (h : IsKey formats a) :
    equalSolanaAddress host formats (some (.str a)) a label = .ok () := by
  obtain ⟨key, hkey⟩ := Option.isSome_iff_exists.mp h
  simp only [equalSolanaAddress, hkey, if_true]

theorem equalEvmAddress_self {address : String} (h : formats.getAddress (some (.str a)) = some address) :
    equalEvmAddress host formats (some (.str a)) a label = .ok () := by
  have htext : text host (some (.str a)) = .ok a := rfl
  simp only [equalEvmAddress, htext, ok_bind, h, getAddress, ofOption, require_eq_ok, decide_true]

theorem requireSameHash_self : requireSameHash host a a label = .ok () := by
  rw [requireSameHash, require_eq_ok]
  exact decide_eq_true rfl

theorem isSameSolanaAddress_of_ne (ha : IsKey formats a) (hb : IsKey formats b)
    (h : formats.publicKey (some (.str a)) ≠ formats.publicKey (some (.str b))) :
    isSameSolanaAddress formats a b = .ok false := by
  obtain ⟨x, hx⟩ := Option.isSome_iff_exists.mp ha
  obtain ⟨y, hy⟩ := Option.isSome_iff_exists.mp hb
  have hne : x ≠ y := by
    rintro rfl
    exact h (hx.trans hy.symm)
  simp only [isSameSolanaAddress, hx, hy, ofOption, ok_bind, hne, decide_false]

theorem refuseBootstrap_ok {same : String → String → Result Bool} {privileged : List String} {message : String}
    (h : ∀ value ∈ privileged, same value b = .ok false) : refuseBootstrap same privileged message b = .ok () := by
  have hnone : anySame same b privileged = .ok false := by
    induction privileged with
    | nil => rfl
    | cons value values ih =>
      rw [anySame, h value List.mem_cons_self, ok_bind, if_neg (by decide)]
      exact ih fun v hv => h v (List.mem_cons_of_mem _ hv)
  rw [refuseBootstrap, hnone, ok_bind, require_eq_ok]
  rfl

/-- The accounts that evidence must show are shown, under addresses all different. -/
theorem foldlM_visitAccount {accounts : List ContextAccount} (visited : List String × List String)
    (hhash : ∀ a ∈ accounts, isHash32 a.accountSha256 = true)
    (hnew : ∀ a ∈ accounts, a.address ∉ visited.1) (hnodup : (accounts.map ContextAccount.address).Nodup) :
    accounts.foldlM visitAccount visited =
      .ok ((accounts.map ContextAccount.address).reverse ++ visited.1,
        visited.2.diff (accounts.map ContextAccount.label)) := by
  induction accounts generalizing visited with
  | nil => rfl
  | cons a accounts ih =>
    rw [List.map_cons, List.nodup_cons] at hnodup
    have hvisit : visitAccount visited a = .ok (a.address :: visited.1, visited.2.erase a.label) := by
      simp only [visitAccount, requireHash, bind_eq_ok, require_eq_ok, decide_eq_true_eq, exists_const, and_true]
      exact ⟨hnew a List.mem_cons_self, hhash a List.mem_cons_self⟩
    rw [List.foldlM_cons, hvisit, ok_bind, ih _ fun a' h' => hhash a' (List.mem_cons_of_mem _ h')]
    · simp
    · intro a' h'
      rw [List.mem_cons, not_or]
      refine ⟨fun he => hnodup.1 ?_, hnew a' (List.mem_cons_of_mem _ h')⟩
      exact he ▸ List.mem_map_of_mem h'
    · exact hnodup.2

end Checks

section Sample

def sampleFormats : AddressFormats :=
  plainFormats [(productionRobinhoodEndpoint, "0x6F475642a6e85809B1c36Fa62763669b1b48DD5B")]

/-- A production state in which one key governs, one pauses, and one has bootstrapped. -/
def sampleApproved : ApprovedProductionState where
  solanaUpgradeAuthority := sampleKey '2'
  solanaStoreAdmin := sampleKey '2'
  solanaDelegate := sampleKey '2'
  robinhoodOwner := sampleAddress '2'
  robinhoodDelegate := sampleAddress '2'
  solanaPauser := sampleKey '3'
  solanaUnpauser := sampleKey '3'
  solanaOftStore := sampleStore
  solanaEscrow := sampleKey '4'
  robinhoodOft := sampleOft
  robinhoodSourceConfirmations := some 30
  rateLimitProfile := ⟨1000, 10⟩
  expectedRobinhoodSupplyRaw := 7
  expectedSolanaMintSupplyRaw := 1000000
  expectedSolanaMintAuthority := none
  expectedSolanaFreezeAuthority := none
  forbiddenSolanaBootstrapAuthorities := [sampleKey '9']
  forbiddenRobinhoodBootstrapAuthorities := [sampleAddress '9']
  expectedSolanaProgramData := sampleKey '5'
  expectedSolanaProgramDataSha256 := hashOf 'a'
  expectedSolanaEndpointProgramData := sampleKey '5'
  expectedSolanaEndpointProgramDataSha256 := hashOf 'a'
  expectedSolanaEndpointUpgradeAuthority := sampleKey '2'
  expectedSolanaUlnProgramData := sampleKey '5'
  expectedSolanaUlnProgramDataSha256 := hashOf 'a'
  expectedSolanaUlnUpgradeAuthority := sampleKey '2'
  expectedRobinhoodRuntimeCodeHash := hashOf 'b'
  expectedInFlight := {
    inventoryId := "review-1"
    inventorySha256 := (sampleManifest 7 sampleDigest).manifestChecksum
    scannerSourceCommit := (sampleInput 7).scannerSourceCommit
    solanaFromSlot := 100
    solanaToSlot := 110
    robinhoodFromBlock := 200
    robinhoodToBlock := 210
    solanaToRobinhoodRaw := 0
    robinhoodToSolanaRaw := 0 }

def samplePeer : String := "0x" ++ String.ofList (List.replicate 24 '0' ++ List.replicate 40 '1')

def sampleLimit : DirectionalRateLimit := ⟨1000, some 1000, 1000, some 86400⟩

/-- Both chains as approved, paused after one transfer of 7 has been settled. -/
def sampleObservation : ProductionMainnetObservation where
  solana := {
    eid := .finite 30168
    genesisHash := solanaMainnetGenesisHash
    mint := canonicalSanMint
    tokenProgram := legacySplTokenProgram
    decimals := .finite 6
    sharedDecimals := .finite 6
    oftType := .finite 1
    mintSupplyRaw := 1000000
    mintAuthority := none
    freezeAuthority := none
    programId := productionSolanaOftProgram
    endpoint := productionSolanaEndpoint
    oftStore := sampleStore
    escrow := sampleKey '4'
    tvlRaw := 7
    escrowBalanceRaw := 9
    upgradeAuthority := sampleKey '2'
    storeAdmin := sampleKey '2'
    delegate := sampleKey '2'
    paused := true
    pauser := some (sampleKey '3')
    unpauser := some (sampleKey '3')
    programExecutable := true
    programOwner := solanaUpgradeableLoader
    programData := sampleKey '5'
    programDataSha256 := hashOf 'a'
    programDataOwner := solanaUpgradeableLoader
    programDataExecutable := false
    endpointProgramData := sampleKey '5'
    endpointProgramDataSha256 := hashOf 'a'
    endpointUpgradeAuthority := sampleKey '2'
    endpointProgramDataOwner := solanaUpgradeableLoader
    endpointProgramDataExecutable := false
    ulnProgramData := sampleKey '5'
    ulnProgramDataSha256 := hashOf 'a'
    ulnUpgradeAuthority := sampleKey '2'
    ulnProgramDataOwner := solanaUpgradeableLoader
    ulnProgramDataExecutable := false
    escrowProgramOwner := legacySplTokenProgram
    escrowMint := canonicalSanMint
    escrowAuthority := sampleStore }
  robinhood := {
    chainId := .finite 4663
    eid := .finite 30416
    endpoint := productionRobinhoodEndpoint
    oft := sampleOft
    decimals := .finite 6
    sharedDecimals := .finite 6
    totalSupplyRaw := 7
    owner := sampleAddress '2'
    delegate := sampleAddress '2'
    paused := true
    runtimeCodeHash := hashOf 'b'
    proxyImplementation := none
    proxyAdmin := none
    blockHash := hashOf 'f' }
  layerZero := {
    solana := intendedChain sanLayerZeroPolicy.solana sanLayerZeroPolicy
      samplePeer 32 30
    robinhood := intendedChain sanLayerZeroPolicy.robinhood sanLayerZeroPolicy (hashOf '0') 30 32
    deprecatedDvns := [] }
  solanaReceive := ⟨200000, 0⟩
  robinhoodReceive := ⟨200000, 0⟩
  rateLimits := {
    solana := some ⟨{ sampleLimit with refill := 10 }, { sampleLimit with refill := 10 }⟩
    robinhood := some ⟨sampleLimit, sampleLimit⟩ }
  solanaContext := {
    model := "COMMON_CONTEXT_STRONG"
    commitment := "finalized"
    contextSlot := 120
    finalizedSlotBefore := 119
    finalizedSlotAfter := 121
    blockhash := sampleKey '6'
    accounts := (requiredAccounts.zip Library.Base58.alphabet).map fun a => ⟨a.1, sampleKey a.2, hashOf 'a'⟩ }
  inFlight := inFlightOf (sampleInventory 7 sampleDigest) 120 220

/-- What the formats make of the texts of the sample, in one evaluation. -/
theorem sampleFormats_known :
    (∀ s ∈ ['1', '2', '3', '4', '5', '9'].map sampleKey, (sampleFormats.publicKey (some (.str s))).isSome = true) ∧
    (∀ s ∈ [canonicalSanMint, legacySplTokenProgram, productionSolanaOftProgram, productionSolanaEndpoint,
      solanaUpgradeableLoader], (sampleFormats.publicKey (some (.str s))).isSome = true) ∧
    (∀ s ∈ sanLayerZeroPolicy.solana.addresses, (sampleFormats.publicKey (some (.str s))).isSome = true) ∧
    (∀ s ∈ ['1', '2', '9'].map sampleAddress,
      sampleFormats.getAddress (some (.str s)) = some s ∧ s ≠ addressZero) ∧
    isPlainAddress productionRobinhoodEndpoint = false ∧
    sampleFormats.hexZeroPad sampleOft 32 = some samplePeer ∧
    sampleFormats.publicKey (some (.str sampleStore)) = some (Vector.replicate 32 0) := by
  decide +kernel

theorem sampleKey_known : ∀ s ∈ ['1', '2', '3', '4', '5', '9'].map sampleKey, IsKey sampleFormats s :=
  sampleFormats_known.1

theorem production_known : ∀ s ∈ [canonicalSanMint, legacySplTokenProgram, productionSolanaOftProgram,
    productionSolanaEndpoint, solanaUpgradeableLoader], IsKey sampleFormats s :=
  sampleFormats_known.2.1

theorem policy_known : ∀ s ∈ sanLayerZeroPolicy.solana.addresses, IsKey sampleFormats s :=
  sampleFormats_known.2.2.1

theorem sampleAddress_known {fill : Char} (h : fill ∈ ['1', '2', '9']) :
    sampleFormats.getAddress (some (.str (sampleAddress fill))) = some (sampleAddress fill) ∧
      sampleAddress fill ≠ addressZero :=
  sampleFormats_known.2.2.2.1 _ (List.mem_map_of_mem h)

theorem sampleEndpoint_known : sampleFormats.getAddress (some (.str productionRobinhoodEndpoint)) =
    some "0x6F475642a6e85809B1c36Fa62763669b1b48DD5B" := by
  have hplain := sampleFormats_known.2.2.2.2.1
  simp only [sampleFormats, plainFormats, hplain, Bool.false_eq_true, if_false, List.lookup_cons_self]

theorem sampleHash {fill : Char} (h : isLowerHex fill = true) : isHash32 (hashOf fill) = true :=
  isHash32_of_lower (hashOf_lower h)

theorem requireEvmAddress_sample {fill : Char} {label : String} (h : fill ∈ ['1', '2', '9']) :
    requireEvmAddress sampleFormats (sampleAddress fill) label = .ok () := by
  obtain ⟨haddress, hne⟩ := sampleAddress_known h
  rw [requireEvmAddress, haddress, require_eq_ok]
  exact decide_eq_true ⟨rfl, hne⟩

theorem sampleApproved_valid : validateApprovedState sampleFormats sampleApproved = .ok () := by
  have hkeys := sampleKey_known
  simp only [List.map_cons, List.forall_mem_cons] at hkeys
  obtain ⟨hstore, hgovernance, hpauser, hescrow, hdata, hbootstrap, _⟩ := hkeys
  have hdigest : isHash32 (sampleManifest 7 sampleDigest).manifestChecksum = true :=
    isHash32_of_lower (hexDigest_lower sampleDigest)
  simp only [validateApprovedState, requireSolanaAddress, requireHash, bind_eq_ok, require_eq_ok, ofOption_eq_ok,
    forM_eq_ok, exists_const]
  refine ⟨30, rfl, rfl, rfl, hstore, hescrow, hgovernance, hgovernance, hgovernance, hpauser, hpauser, hdata, hdata,
    hgovernance, hdata, hgovernance, (), requireEvmAddress_sample (by decide), (),
    requireEvmAddress_sample (by decide), (), requireEvmAddress_sample (by decide), sampleHash (by decide),
    sampleHash (by decide), sampleHash (by decide), sampleHash (by decide), hdigest, (sampleInput_scanned 7).2, (),
    rfl, (), rfl, rfl, rfl, rfl, fun x hx => ?_, (), fun x hx => ?_, rfl, rfl, congrArg not (sampleInput_scanned 7).1⟩
  · obtain rfl := List.mem_singleton.mp hx
    exact hbootstrap
  · obtain rfl := List.mem_singleton.mp hx
    exact requireEvmAddress_sample (by decide)

theorem sampleKey_injective : Function.Injective sampleKey := by
  intro a b h
  have hlist := List.append_cancel_left (String.ofList_injective h)
  exact List.singleton_injective hlist

theorem sampleContext_valid : validateSolanaContextEvidence sampleObservation.solanaContext = .ok () := by
  have hall : ∀ a ∈ sampleObservation.solanaContext.accounts, isHash32 a.accountSha256 = true := by
    intro a ha
    obtain ⟨_, _, rfl⟩ := List.mem_map.mp ha
    exact sampleHash (by decide)
  have haddresses : sampleObservation.solanaContext.accounts.map ContextAccount.address =
      (Library.Base58.alphabet.take 18).map sampleKey := rfl
  have hlabels : sampleObservation.solanaContext.accounts.map ContextAccount.label = requiredAccounts := rfl
  have hnodup : (sampleObservation.solanaContext.accounts.map ContextAccount.address).Nodup := by
    rw [haddresses]
    exact List.Nodup.map sampleKey_injective (by decide)
  have hrest : requiredAccounts.diff requiredAccounts = [] := by
    simp only [requiredAccounts, List.diff_cons, List.erase_cons_head, List.diff_nil]
  have hvisit := foldlM_visitAccount ([], requiredAccounts) hall (fun _ _ => List.not_mem_nil) hnodup
  rw [hlabels, hrest] at hvisit
  simp only [validateSolanaContextEvidence, hvisit, ok_bind, bind_eq_ok, require_eq_ok, exists_const]
  exact ⟨rfl, rfl, by decide, rfl⟩

theorem sampleIdentities_valid {host : Host} :
    validateIdentities host sampleFormats sampleObservation sampleApproved = .ok () := by
  have hkeys := sampleKey_known
  have hproduction := production_known
  simp only [List.map_cons, List.forall_mem_cons] at hkeys hproduction
  obtain ⟨hstore, _, _, hescrow, _⟩ := hkeys
  obtain ⟨hmint, htoken, hprogram, hendpoint, _⟩ := hproduction
  simp only [validateIdentities, bind_eq_ok, require_eq_ok, exists_const]
  exact ⟨rfl, rfl, rfl, rfl, (), equalSolanaAddress_self hmint, (), equalSolanaAddress_self htoken, (),
    equalSolanaAddress_self hprogram, (), equalSolanaAddress_self hendpoint, (),
    equalEvmAddress_self (sampleEndpoint_known), (), equalSolanaAddress_self hstore, (),
    equalSolanaAddress_self hescrow, equalEvmAddress_self (sampleAddress_known (by decide)).1⟩

theorem sampleSolana_valid {host : Host} :
    validateSolana host sampleFormats sampleObservation.solana sampleApproved = .ok () := by
  have hkeys := sampleKey_known
  have hproduction := production_known
  simp only [List.map_cons, List.forall_mem_cons] at hkeys hproduction
  obtain ⟨hstore, hgovernance, _, _, hdata, _⟩ := hkeys
  obtain ⟨hmint, htoken, _, _, hloader, _⟩ := hproduction
  have hhash := @sampleHash 'a' (by decide)
  simp only [validateSolana, requireHash, bind_eq_ok, require_eq_ok, exists_const]
  exact ⟨rfl, rfl, rfl, rfl, rfl, rfl, (), equalSolanaAddress_self hloader, (), equalSolanaAddress_self hdata, (),
    equalSolanaAddress_self hloader, rfl, hhash, (), requireSameHash_self, (), equalSolanaAddress_self hdata,
    hhash, (), requireSameHash_self, (), equalSolanaAddress_self hgovernance, (), equalSolanaAddress_self hloader,
    rfl, (), equalSolanaAddress_self hdata, hhash, (), requireSameHash_self, (),
    equalSolanaAddress_self hgovernance, (), equalSolanaAddress_self hloader, rfl, (),
    equalSolanaAddress_self htoken, (), equalSolanaAddress_self hmint, equalSolanaAddress_self hstore⟩

theorem sampleRobinhood_valid {host : Host} :
    validateRobinhood host sampleObservation.robinhood sampleApproved = .ok () := by
  simp only [validateRobinhood, requireHash, bind_eq_ok, require_eq_ok, exists_const]
  exact ⟨sampleHash (by decide), (), requireSameHash_self, rfl, rfl⟩

theorem sampleManifestIdentity_valid {host : Host} :
    validateManifestIdentity host sampleFormats (sampleManifest 7 sampleDigest).toJson sampleApproved = .ok () := by
  have hproduction := production_known
  simp only [List.forall_mem_cons] at hproduction
  obtain ⟨_, _, hprogram, hendpoint, _⟩ := hproduction
  have hstore := sampleKey_known (sampleKey '1') List.mem_cons_self
  simp only [validateManifestIdentity, bind_eq_ok, require_eq_ok, exists_const]
  exact ⟨rfl, (), equalSolanaAddress_self hstore, (), equalSolanaAddress_self hprogram, (),
    equalSolanaAddress_self hendpoint, (), equalEvmAddress_self (sampleAddress_known (by decide)).1,
    equalEvmAddress_self sampleEndpoint_known⟩

theorem sampleManifestRanges_valid {host : Host} :
    validateManifestRanges host (sampleManifest 7 sampleDigest).toJson sampleApproved.expectedInFlight =
      .ok (110, 210) := by
  have hread : ∀ n : Nat, bigInt host (some (.str (toString n))) = .ok n := by
    intro n
    have hn : ReadsUnsigned (some (.str (toString n))) false n := readsUnsigned_toString (by simp)
    exact bigInt_of_readsUnsigned hn
  simp only [validateManifestRanges, bind_eq_ok, require_eq_ok, exists_const]
  exact ⟨100, hread 100, rfl, 110, hread 110, rfl, 200, hread 200, rfl, 210, hread 210, rfl, rfl⟩

theorem sampleOutstanding (stor : Bool) : outstanding stor
    [(deliver (sampleSource 7) (sampleDestination 7) (some "DELIVERED")).toJson] = 0 := by
  have hd : isDelivered (some (deliver (sampleSource 7) (sampleDestination 7) (some "DELIVERED")).toJson) = true :=
    rfl
  rw [outstanding_cons, hd, if_neg (by simp)]
  rfl

theorem sampleInFlight_valid :
    validateInFlight (sampleHost 7 sampleDigest) sampleFormats sampleObservation sampleApproved = .ok () := by
  have hdigest : isHash32 (sampleManifest 7 sampleDigest).manifestChecksum = true :=
    isHash32_of_lower (hexDigest_lower sampleDigest)
  have hstor : sampleObservation.inFlight.solanaToRobinhoodRaw = 0 := congrArg Int.ofNat (sampleOutstanding true)
  have hrtos : sampleObservation.inFlight.robinhoodToSolanaRaw = 0 := congrArg Int.ofNat (sampleOutstanding false)
  simp only [validateInFlight, bind_eq_ok, require_eq_ok, exists_const]
  refine ⟨rfl, rfl, rfl, rfl, (), sampleManifestIdentity_valid, (110, 210), sampleManifestRanges_valid, (), ?_, (),
    ?_, ?_⟩
  · simp only [validateAnchors, bind_eq_ok, require_eq_ok, exists_const]
    exact ⟨rfl, rfl, rfl⟩
  · simp only [validateInventory, hstor, hrtos, requireHash, bind_eq_ok, require_eq_ok, exists_const]
    exact ⟨decide_eq_true ⟨rfl, rfl, rfl, rfl⟩, hdigest, rfl⟩
  · rw [hstor, hrtos]
    rfl

theorem sampleBootstrap_distinct : ∀ s ∈ ['2', '3'].map sampleKey,
    sampleFormats.publicKey (some (.str s)) ≠ sampleFormats.publicKey (some (.str (sampleKey '9'))) := by
  intro s hs hsame
  obtain ⟨key, hkey⟩ := Option.isSome_iff_exists.mp (sampleKey_known (sampleKey '9') (List.mem_map_of_mem (by decide)))
  have htext : s = sampleKey '9' := (plainFormats_spelling (hsame.trans hkey)).symm.trans (plainFormats_spelling hkey)
  obtain ⟨fill, hfill, rfl⟩ := List.mem_map.mp hs
  rw [sampleKey_injective htext] at hfill
  exact absurd hfill (by decide)

theorem sampleAuthorities_valid {host : Host} :
    validateAuthorities host sampleFormats sampleObservation sampleApproved = .ok () := by
  have hkeys := sampleKey_known
  simp only [List.map_cons, List.forall_mem_cons] at hkeys
  obtain ⟨_, hgovernance, hpauser, _, _, hbootstrap, _⟩ := hkeys
  have howner := (@sampleAddress_known '2' (by decide)).1
  have hdeployer := (@sampleAddress_known '9' (by decide)).1
  have hdistinct := sampleBootstrap_distinct
  simp only [List.map_cons, List.forall_mem_cons] at hdistinct
  have hsolana := isSameSolanaAddress_of_ne hgovernance hbootstrap hdistinct.1
  have hsolana' := isSameSolanaAddress_of_ne hpauser hbootstrap hdistinct.2.1
  have hevm : isSameEvmAddress sampleFormats (sampleAddress '2') (sampleAddress '9') = .ok false := by
    have hne : sampleAddress '2' ≠ sampleAddress '9' := by decide
    rw [isSameEvmAddress, getAddress, howner, getAddress, hdeployer]
    simp only [ofOption, ok_bind, hne, decide_false]
  simp only [validateAuthorities, bind_eq_ok, ofOption_eq_ok, forM_eq_ok]
  refine ⟨(), equalSolanaAddress_self hgovernance, (), equalSolanaAddress_self hgovernance, (),
    equalSolanaAddress_self hgovernance, _, rfl, _, rfl, (), equalSolanaAddress_self hpauser, (),
    equalSolanaAddress_self hpauser, (), equalEvmAddress_self howner, (), equalEvmAddress_self howner, (),
    fun x hx => ?_, fun x hx => ?_⟩
  · obtain rfl := List.mem_singleton.mp hx
    exact refuseBootstrap_ok (List.forall_mem_cons.mpr ⟨hsolana, List.forall_mem_cons.mpr ⟨hsolana,
      List.forall_mem_cons.mpr ⟨hsolana, List.forall_mem_cons.mpr ⟨hsolana',
        List.forall_mem_singleton.mpr hsolana'⟩⟩⟩⟩)
  · obtain rfl := List.mem_singleton.mp hx
    exact refuseBootstrap_ok (List.forall_mem_cons.mpr ⟨hevm, List.forall_mem_singleton.mpr hevm⟩)

theorem samplePeer_eq : bytes32FromEvm (sampleHost 7 sampleDigest) sampleFormats sampleOft = .ok samplePeer := by
  have hpad := sampleFormats_known.2.2.2.2.2.1
  have hlower : isLowerHash32 samplePeer = true := isLowerHash32_of_digits rfl (List.all_eq_true.mp (by decide))
  rw [bytes32FromEvm, hpad, ofOption, ok_bind, toLowerCase_of_lower _ hlower]

theorem sampleStore_peer : bytes32FromSolana sampleFormats sampleStore = .ok (hashOf '0') := by
  have hkey := sampleFormats_known.2.2.2.2.2.2
  rw [bytes32FromSolana, hkey]
  rfl

theorem sampleLayerZero_valid {host : Host} :
    validateLayerZeroObservation host sampleFormats sampleObservation.layerZero ⟨samplePeer, hashOf '0'⟩
      sanLayerZeroPolicy = .ok () := by
  simp only [validateLayerZeroObservation, bind_eq_ok, ofOption_eq_ok]
  refine ⟨30, rfl, (), validateChain_intended rfl fun v hv => ?_, validateChain_intended rfl fun v _ => ⟨_, rfl⟩⟩
  obtain ⟨key, hkey⟩ := Option.isSome_iff_exists.mp (policy_known v hv)
  exact ⟨_, by rw [Tooling.Policy.normalize, normalizedSolana, hkey, ofOption, ok_bind]⟩

theorem sampleConfiguration_valid :
    validateConfiguration (sampleHost 7 sampleDigest) sampleFormats sampleObservation sampleApproved = .ok () := by
  have hlimits : validateProductionRateLimitPlan sampleObservation.rateLimits sampleApproved.rateLimitProfile =
      .ok () := rfl
  simp only [validateConfiguration, bind_eq_ok]
  exact ⟨(), rfl, (), rfl, _, samplePeer_eq, _, sampleStore_peer, (), sampleLayerZero_valid, (), hlimits, (), rfl,
    (), rfl, (), rfl, rfl⟩

theorem sampleObservation_valid : validateProductionMainnetObservation (sampleHost 7 sampleDigest) sampleFormats
    sampleObservation sampleApproved .preActivationInert = .ok () := by
  simp only [validateProductionMainnetObservation, bind_eq_ok]
  exact ⟨(), sampleApproved_valid, (), sampleContext_valid, (), sampleIdentities_valid, (), sampleSolana_valid, (),
    sampleRobinhood_valid, (), sampleInFlight_valid, (), sampleAuthorities_valid, (), sampleConfiguration_valid,
    rfl⟩

end Sample

section Backed

variable {contents : String} {inventory : InFlightInventory} {solanaSlot robinhoodBlock : Int}

def undeliveredRaw (messages : List Json) : Nat := ((undelivered messages).map fun m => amountOf (some m)).sum

theorem outstanding_add {messages : List Json} :
    outstanding true messages + outstanding false messages = undeliveredRaw messages := by
  induction messages with
  | nil => rfl
  | cons m messages ih =>
    rw [outstanding_cons, outstanding_cons]
    cases hd : isDelivered (some m) with
    | true => simpa [undeliveredRaw, undelivered, hd] using ih
    | false =>
      have hcons : undeliveredRaw (m :: messages) = amountOf (some m) + undeliveredRaw messages := by
        simp [undeliveredRaw, undelivered, hd]
      rw [hcons, ← ih]
      cases isSolanaToRobinhood (some m) <;> simp <;> omega

/-- Acceptance by the checker implies that the escrow backs the supply and every
message the manifest leaves open. -/
theorem checker_backed (hp : parseInFlightInventory host contents = .ok inventory)
    (ho : observation.inFlight = inFlightOf inventory solanaSlot robinhoodBlock)
    (hv : validateProductionMainnetObservation host formats observation approved expectedState = .ok ()) :
    ∃ messages, get inventory.manifest "messages" = some (.arr messages) ∧
      (∀ m ∈ messages, ReadsHash host (get m "guid") (guidOf host m) ∧
        ReadsUnsigned (get m "amountRaw") true (amountOf m)) ∧
      (messages.map fun m => guidOf host (some m)).Nodup ∧
      observation.solana.tvlRaw = observation.robinhood.totalSupplyRaw +
        ((messages.filter fun m => isDelivered (some m) = false).map fun m => amountOf (some m)).sum ∧
      (∀ m ∈ messages, isDelivered (some m) = true → ∃ height : Nat,
        ReadsUnsigned (get m "destinationHeight") false height ∧
        (approvedRange approved.expectedInFlight (!isSolanaToRobinhood (some m))).1 ≤ height ∧
        height ≤ (approvedRange approved.expectedInFlight (!isSolanaToRobinhood (some m))).2) ∧
      (∀ solana, ∃ stop : Nat, ReadsUnsigned (rangeEnd inventory.manifest solana) true stop ∧
        stop ≤ snapshotHeight observation solana) ∧
      observation.robinhood.totalSupplyRaw ≤ observation.solana.tvlRaw ∧
      observation.solana.tvlRaw ≤ observation.solana.escrowBalanceRaw ∧
      (expectedState = .canaryActive → messages = []) := by
  obtain ⟨value, messages, id, _, hacc, rfl⟩ := parseInFlightInventory_eq_ok.mp hp
  have hchecked := validate_accounted hv
  have htvl := hchecked.tvl
  rw [ho] at htvl
  have hsum : (outstanding true messages : Int) + outstanding false messages = undeliveredRaw messages := by
    exact_mod_cast outstanding_add
  have hstart := hchecked.rangeStart
  have hend := hchecked.rangeEnd
  rw [ho] at hstart hend
  have htvl' : observation.solana.tvlRaw =
      observation.robinhood.totalSupplyRaw + (undeliveredRaw messages : Int) := by
    rw [htvl, ← hsum, ← add_assoc]
    rfl
  refine ⟨messages, hacc.readsMessages, fun m hm => ?_, hacc.distinct, htvl', fun m hm hd => ?_,
    fun solana => ?_, ?_,
    hchecked.escrow, fun hc => ?_⟩
  · have hadmitted := hacc.admitted m hm
    exact ⟨hadmitted.guid, hadmitted.accepted.amountRaw⟩
  · obtain ⟨_, _, hdest⟩ := (hacc.admitted m hm).accepted.destination
    rw [DestinationAccepted, if_pos hd] at hdest
    obtain ⟨height, hheight, start, stop, hs, hstop, hle, hle'⟩ := hdest.inRange
    have hs' := (bigInt_of_readsUnsigned hs).symm.trans (hstart _)
    have hstop' := (bigInt_of_readsUnsigned hstop).symm.trans (hend _)
    rw [Except.ok.injEq] at hs' hstop'
    refine ⟨height, hheight, ?_, ?_⟩
    · rw [← hs']
      exact_mod_cast hle
    · rw [← hstop']
      exact_mod_cast hle'
  · obtain ⟨_, stop, _, hstop⟩ := hacc.range.ends solana
    have hstop' := (bigInt_of_readsUnsigned hstop).symm.trans (hend solana)
    rw [Except.ok.injEq] at hstop'
    refine ⟨stop, hstop, ?_⟩
    rw [hstop']
    exact hchecked.anchored solana
  · rw [htvl']
    omega
  · subst hc
    have hcount := validate_canary hv
    rw [ho] at hcount
    have hlen : ((messages.length : Nat) : ℚ) = 0 := JsNumber.finite.inj hcount
    exact List.length_eq_zero_iff.mp (by exact_mod_cast hlen)

theorem checker_backed_inert : ∃ messages,
    get (sampleInventory 7 sampleDigest).manifest "messages" = some (.arr messages) ∧
    (messages.map fun m => guidOf (sampleHost 7 sampleDigest) (some m)).Nodup ∧
    sampleObservation.solana.tvlRaw = sampleObservation.robinhood.totalSupplyRaw +
      ((messages.filter fun m => isDelivered (some m) = false).map fun m => amountOf (some m)).sum ∧
    sampleObservation.solana.tvlRaw ≤ sampleObservation.solana.escrowBalanceRaw := by
  obtain ⟨messages, hread, _, hnodup, htvl, _, _, _, hescrow, _⟩ :=
    checker_backed (sampleManifest_parses 7 sampleDigest (by decide)) rfl sampleObservation_valid
  exact ⟨messages, hread, hnodup, htvl, hescrow⟩

end Backed

end SanBridge.Tooling.Backing
