import SanBridge.Library.Permutation
import SanBridge.Tooling.Policy

namespace SanBridge.Tooling.Pathway

open Library.Checked Library.Permutation Tooling.Runtime Tooling.Policy

variable {host : Host} {formats : AddressFormats} {chain : ChainName}

section Accounts

/-- Two texts stand for one account: on Solana they decode to one key, on Robinhood they
differ in letter case alone. -/
def SameAccount (host : Host) (formats : AddressFormats) : ChainName → String → String → Prop
  | .solana, v, w => ∃ key, formats.publicKey (some (.str v)) = some key ∧ formats.publicKey (some (.str w)) = some key
  | .robinhood, v, w => host.toLowerCase v = host.toLowerCase w

variable {v w u : String}

theorem toBase58_injective : Function.Injective formats.toBase58 := by
  intro a b h
  have hkey := formats.publicKey_toBase58 a
  rw [h, formats.publicKey_toBase58, Option.some.injEq] at hkey
  exact hkey.symm

theorem normalizedSolana_eq_ok {s : String} : normalizedSolana formats v = .ok s ↔
    ∃ key, formats.publicKey (some (.str v)) = some key ∧ formats.toBase58 key = s := by
  simp only [normalizedSolana, bind_eq_ok, ofOption_eq_ok, Except.ok.injEq]

theorem sameAccount_iff : SameAccount host formats chain v w ↔
    ∃ s, normalize host formats chain v = .ok s ∧ normalize host formats chain w = .ok s := by
  cases chain with
  | solana =>
    simp only [SameAccount, Policy.normalize, normalizedSolana_eq_ok]
    constructor
    · rintro ⟨key, hv, hw⟩
      exact ⟨_, ⟨key, hv, rfl⟩, key, hw, rfl⟩
    · rintro ⟨s, ⟨key, hv, rfl⟩, key', hw, hs⟩
      exact ⟨key, hv, toBase58_injective hs ▸ hw⟩
  | robinhood =>
    simp only [SameAccount, Policy.normalize, Except.ok.injEq]
    exact ⟨fun h => ⟨_, h, rfl⟩, fun ⟨s, hv, hw⟩ => hv.trans hw.symm⟩

theorem SameAccount.symm (h : SameAccount host formats chain v w) : SameAccount host formats chain w v := by
  obtain ⟨s, hv, hw⟩ := sameAccount_iff.mp h
  exact sameAccount_iff.mpr ⟨s, hw, hv⟩

theorem SameAccount.trans (h : SameAccount host formats chain v w) (h' : SameAccount host formats chain w u) :
    SameAccount host formats chain v u := by
  obtain ⟨s, hv, hw⟩ := sameAccount_iff.mp h
  obtain ⟨s', hw', hu⟩ := sameAccount_iff.mp h'
  rw [hw, Except.ok.injEq] at hw'
  exact sameAccount_iff.mpr ⟨s, hv, hw' ▸ hu⟩

theorem assertChainAddressEqual_eq_ok {label : String} {r : Unit} :
    assertChainAddressEqual host formats v w label chain = .ok r ↔ SameAccount host formats chain v w := by
  simp only [assertChainAddressEqual, bind_eq_ok, require_eq_ok, decide_eq_true_eq, sameAccount_iff]
  constructor
  · rintro ⟨s, hv, s', hw, rfl⟩
    exact ⟨s, hv, hw⟩
  · rintro ⟨s, hv, hw⟩
    exact ⟨s, hv, s, hw, rfl⟩

theorem normalize_same {s : String} (hv : normalize host formats chain v = .ok s)
    (h : SameAccount host formats chain v w) : normalize host formats chain w = .ok s := by
  obtain ⟨s', hv', hw⟩ := sameAccount_iff.mp h
  rw [hv, Except.ok.injEq] at hv'
  rw [hw, hv']

theorem normalizedSet_eq_ok {values set : List String} (h : normalizedSet host formats values chain = .ok set) :
    PermBy (fun v s => normalize host formats chain v = .ok s) values set := by
  obtain ⟨normalized, hmap, hset⟩ := bind_eq_ok.mp h
  rw [Except.ok.injEq] at hset
  have hall := mapM_eq_ok.mp hmap
  have hsorted : normalized.Perm set := hset ▸ (List.perm_insertionSort _ normalized).symm
  exact (PermBy.of_forall₂ hall).comp (PermBy.of_perm hsorted) fun _ _ _ hab hbc => hbc ▸ hab

theorem mem_deprecatedSet {values : List String} {s : String} : s ∈ deprecatedSet host formats values chain ↔
    ∃ d ∈ values, normalize host formats chain d = .ok s := by
  simp only [deprecatedSet, List.mem_filterMap, toOption_eq_some]

end Accounts

section Policy

/-- What a policy asks of the configuration of one direction. -/
structure UlnMatches (host : Host) (formats : AddressFormats) (chain : ChainName) (observation : UlnObservation)
    (intended : ChainPolicy) (deprecatedDvns : List String) (threshold : JsNumber) (confirmations : Int) : Prop where
  explicitNoRequired : observation.explicitNoRequired = true
  explicitConfirmations : observation.explicitConfirmations = true
  explicitOptionalDvns : observation.explicitOptionalDvns = true
  required : observation.requiredDvns = []
  threshold : observation.optionalThreshold.strictEqual threshold = true
  confirmations : observation.confirmations = confirmations
  current : ∀ d ∈ deprecatedDvns, ∀ v ∈ observation.optionalDvns, ¬ SameAccount host formats chain d v
  dvns : PermBy (SameAccount host formats chain) observation.optionalDvns intended.optionalDvns

structure ChainMatches (host : Host) (formats : AddressFormats) (chain : ChainName) (observed : ChainObservation)
    (intended : ChainPolicy) (deprecatedDvns : List String) (expectedPeer : String) (threshold : JsNumber)
    (sendConfirmations receiveConfirmations : Int) : Prop where
  sendLibrary : SameAccount host formats chain observed.sendLibrary intended.sendLibrary
  receiveLibrary : SameAccount host formats chain observed.receiveLibrary intended.receiveLibrary
  executor : SameAccount host formats chain observed.executor intended.executor
  sendLibraryExplicit : observed.sendLibraryExplicit = true
  receiveLibraryExplicit : observed.receiveLibraryExplicit = true
  executorExplicit : observed.executorExplicit = true
  peer : host.toLowerCase observed.peer = host.toLowerCase expectedPeer
  send : UlnMatches host formats chain observed.send intended deprecatedDvns threshold sendConfirmations
  receive : UlnMatches host formats chain observed.receive intended deprecatedDvns threshold receiveConfirmations

/-- The confirmations of a direction are those of its source chain. -/
structure PathwayMatches (host : Host) (formats : AddressFormats) (observation : BridgeObservation) (peers : Peers)
    (policy : BridgePolicy) (robinhoodSourceConfirmations : Int) : Prop where
  solana : ChainMatches host formats .solana observation.solana policy.solana observation.deprecatedDvns peers.solana
    policy.optionalThreshold policy.solanaSourceConfirmations robinhoodSourceConfirmations
  robinhood : ChainMatches host formats .robinhood observation.robinhood policy.robinhood observation.deprecatedDvns
    peers.robinhood policy.optionalThreshold robinhoodSourceConfirmations policy.solanaSourceConfirmations

def DistinctDvns (host : Host) (formats : AddressFormats) (chain : ChainName) (dvns : List String) : Prop :=
  dvns.Pairwise fun v w => ¬ SameAccount host formats chain v w

variable {observation : UlnObservation} {intended : ChainPolicy} {deprecatedDvns : List String} {policy : BridgePolicy}
  {confirmations : Int} {label : String}

/-- The two loops and the two lengths compare the lists as multisets. -/
theorem dvns_match {actual expected : List String}
    (hactual : normalizedSet host formats observation.optionalDvns chain = .ok actual)
    (hexpected : normalizedSet host formats intended.optionalDvns chain = .ok expected)
    (hdistinct : DistinctDvns host formats chain intended.optionalDvns) (hlength : actual.length = expected.length)
    (hcovers : ∀ dvn ∈ expected, dvn ∈ actual) :
    PermBy (SameAccount host formats chain) observation.optionalDvns intended.optionalDvns := by
  have hread := normalizedSet_eq_ok hactual
  have hintended := normalizedSet_eq_ok hexpected
  apply permBy_of_covers
  · rw [hread.length_eq, hintended.length_eq, hlength]
  · intro w hw
    obtain ⟨s, hs, hw⟩ := hintended.flip.covers hw
    obtain ⟨v, hv, hvs⟩ := hread.covers (hcovers s hs)
    exact ⟨v, hv, sameAccount_iff.mpr ⟨s, hvs, hw⟩⟩
  · exact hdistinct.imp fun hne v hv hv' => hne (hv.symm.trans hv')

variable {xs ys : List String}

theorem normalizes_of_dvns (h : PermBy (SameAccount host formats chain) xs ys) :
    ∀ v ∈ xs, Normalizes host formats chain v := by
  intro v hv
  obtain ⟨w, _, hsame⟩ := h.flip.covers hv
  obtain ⟨s, hs, _⟩ := sameAccount_iff.mp hsame
  exact ⟨s, hs⟩

theorem mem_of_dvns {actual expected : List String} {s : String}
    (h : PermBy (SameAccount host formats chain) xs ys)
    (hxs : PermBy (fun v s => normalize host formats chain v = .ok s) xs actual)
    (hys : PermBy (fun v s => normalize host formats chain v = .ok s) ys expected) (hs : s ∈ actual) :
    s ∈ expected := by
  obtain ⟨v, hv, hvs⟩ := hxs.covers hs
  obtain ⟨w, hw, hsame⟩ := h.flip.covers hv
  obtain ⟨s', hs', hws⟩ := hys.flip.covers hw
  rw [normalize_same hvs hsame, Except.ok.injEq] at hws
  exact hws ▸ hs'

theorem validateUln_eq_ok {r : Unit} (hdistinct : DistinctDvns host formats chain intended.optionalDvns) :
    validateUln host formats label observation intended (deprecatedSet host formats deprecatedDvns chain) policy
      confirmations chain = .ok r ↔
    UlnMatches host formats chain observation intended deprecatedDvns policy.optionalThreshold confirmations := by
  simp only [validateUln, bind_eq_ok, require_eq_ok, forM_eq_ok, decide_eq_true_eq, exists_const, mem_deprecatedSet]
  constructor
  · rintro ⟨hno, hcon, hopt, hreq, hthr, hconf, actual, hactual, expected, hexpected, hlength, hin, hcovers⟩
    refine ⟨hno, hcon, hopt, List.length_eq_zero_iff.mp hreq, hthr, hconf, ?_,
      dvns_match hactual hexpected hdistinct hlength hcovers⟩
    intro d hd v hv hsame
    obtain ⟨s, hs, hvs⟩ := (normalizedSet_eq_ok hactual).flip.covers hv
    exact (hin s hs).1 ⟨d, hd, normalize_same hvs hsame.symm⟩
  · intro h
    have hback := h.dvns.symm SameAccount.symm
    obtain ⟨actual, hactual⟩ := normalizedSet_ok (normalizes_of_dvns h.dvns)
    obtain ⟨expected, hexpected⟩ := normalizedSet_ok (normalizes_of_dvns hback)
    have hin := normalizedSet_eq_ok hactual
    have hout := normalizedSet_eq_ok hexpected
    refine ⟨h.explicitNoRequired, h.explicitConfirmations, h.explicitOptionalDvns, ?_, h.threshold, h.confirmations,
      actual, hactual, expected, hexpected, ?_, fun s hs => ⟨?_, mem_of_dvns h.dvns hin hout hs⟩,
      fun s hs => mem_of_dvns hback hout hin hs⟩
    · rw [h.required, List.length_nil]
    · rw [← hin.length_eq, ← hout.length_eq, h.dvns.length_eq]
    · rintro ⟨d, hd, hds⟩
      obtain ⟨v, hv, hvs⟩ := hin.covers hs
      exact h.current d hd v hv (sameAccount_iff.mpr ⟨s, hds, hvs⟩)

theorem validateChain_eq_ok {observed : ChainObservation} {expectedPeer : String}
    {sendConfirmations receiveConfirmations : Int} {r : Unit}
    (hdistinct : DistinctDvns host formats chain intended.optionalDvns) :
    validateChain host formats chain observed intended deprecatedDvns expectedPeer policy sendConfirmations
      receiveConfirmations = .ok r ↔
    ChainMatches host formats chain observed intended deprecatedDvns expectedPeer policy.optionalThreshold
      sendConfirmations receiveConfirmations := by
  simp only [validateChain, bind_eq_ok, require_eq_ok, exists_const, assertChainAddressEqual_eq_ok,
    validateUln_eq_ok hdistinct, assertBytes32Equal, decide_eq_true_eq]
  constructor
  · rintro ⟨hsend, hreceive, hexecutor, hs, hr, he, hpeer, hsendUln, hreceiveUln⟩
    exact ⟨hsend, hreceive, hexecutor, hs, hr, he, hpeer, hsendUln, hreceiveUln⟩
  · intro h
    exact ⟨h.sendLibrary, h.receiveLibrary, h.executor, h.sendLibraryExplicit, h.receiveLibraryExplicit,
      h.executorExplicit, h.peer, h.send, h.receive⟩

theorem validateLayerZeroObservation_eq_ok {observed : BridgeObservation} {peers : Peers}
    {robinhoodSourceConfirmations : Int}
    (hresolved : policy.robinhoodSourceConfirmations = some robinhoodSourceConfirmations)
    (hsolana : DistinctDvns host formats .solana policy.solana.optionalDvns)
    (hrobinhood : DistinctDvns host formats .robinhood policy.robinhood.optionalDvns) :
    validateLayerZeroObservation host formats observed peers policy = .ok () ↔
    PathwayMatches host formats observed peers policy robinhoodSourceConfirmations := by
  simp only [validateLayerZeroObservation, hresolved, ofOption, ok_bind, bind_eq_ok, exists_const,
    validateChain_eq_ok hsolana, validateChain_eq_ok hrobinhood]
  constructor
  · rintro ⟨hs, hr⟩
    exact ⟨hs, hr⟩
  · intro h
    exact ⟨h.solana, h.robinhood⟩

end Policy

section Spelling

/-- On Robinhood the case of the letters of an address is free. -/
def SameSpelling (host : Host) : ChainName → String → String → Prop
  | .solana, v, w => v = w
  | .robinhood, v, w => host.toLowerCase v = host.toLowerCase w

/-- A deprecated DVN is spelled in another letter case when it is no Solana key. -/
def SameDeprecated (host : Host) (formats : AddressFormats) (v w : String) : Prop :=
  v = w ∨ (formats.publicKey (some (.str v)) = none ∧ formats.publicKey (some (.str w)) = none ∧
    host.toLowerCase v = host.toLowerCase w)

/-- The same configuration with its lists in another order and its EVM addresses in another
letter case. -/
structure UlnRespelled (host : Host) (chain : ChainName) (o o' : UlnObservation) : Prop where
  explicitNoRequired : o.explicitNoRequired = o'.explicitNoRequired
  explicitConfirmations : o.explicitConfirmations = o'.explicitConfirmations
  explicitOptionalDvns : o.explicitOptionalDvns = o'.explicitOptionalDvns
  optionalThreshold : o.optionalThreshold = o'.optionalThreshold
  confirmations : o.confirmations = o'.confirmations
  requiredDvns : PermBy (SameSpelling host chain) o.requiredDvns o'.requiredDvns
  optionalDvns : PermBy (SameSpelling host chain) o.optionalDvns o'.optionalDvns

structure ChainRespelled (host : Host) (chain : ChainName) (o o' : ChainObservation) : Prop where
  sendLibrary : SameSpelling host chain o.sendLibrary o'.sendLibrary
  receiveLibrary : SameSpelling host chain o.receiveLibrary o'.receiveLibrary
  executor : SameSpelling host chain o.executor o'.executor
  sendLibraryExplicit : o.sendLibraryExplicit = o'.sendLibraryExplicit
  receiveLibraryExplicit : o.receiveLibraryExplicit = o'.receiveLibraryExplicit
  executorExplicit : o.executorExplicit = o'.executorExplicit
  peer : host.toLowerCase o.peer = host.toLowerCase o'.peer
  send : UlnRespelled host chain o.send o'.send
  receive : UlnRespelled host chain o.receive o'.receive

structure ObservationRespelled (host : Host) (formats : AddressFormats) (o o' : BridgeObservation) : Prop where
  solana : ChainRespelled host .solana o.solana o'.solana
  robinhood : ChainRespelled host .robinhood o.robinhood o'.robinhood
  deprecatedDvns : PermBy (SameDeprecated host formats) o.deprecatedDvns o'.deprecatedDvns

structure PeersRespelled (host : Host) (p p' : Peers) : Prop where
  solana : host.toLowerCase p.solana = host.toLowerCase p'.solana
  robinhood : host.toLowerCase p.robinhood = host.toLowerCase p'.robinhood

structure ChainPolicyRespelled (host : Host) (chain : ChainName) (p p' : ChainPolicy) : Prop where
  sendLibrary : SameSpelling host chain p.sendLibrary p'.sendLibrary
  receiveLibrary : SameSpelling host chain p.receiveLibrary p'.receiveLibrary
  executor : SameSpelling host chain p.executor p'.executor
  optionalDvns : PermBy (SameSpelling host chain) p.optionalDvns p'.optionalDvns

structure PolicyRespelled (host : Host) (p p' : BridgePolicy) : Prop where
  solanaSourceConfirmations : p.solanaSourceConfirmations = p'.solanaSourceConfirmations
  robinhoodSourceConfirmations : p.robinhoodSourceConfirmations = p'.robinhoodSourceConfirmations
  optionalThreshold : p.optionalThreshold = p'.optionalThreshold
  solana : ChainPolicyRespelled host .solana p.solana p'.solana
  robinhood : ChainPolicyRespelled host .robinhood p.robinhood p'.robinhood

variable {v w v' w' : String}

theorem SameSpelling.normalize_eq (h : SameSpelling host chain v w) :
    normalize host formats chain v = normalize host formats chain w := by
  cases chain with
  | solana => exact congrArg (normalizedSolana formats) h
  | robinhood => exact congrArg Except.ok h

theorem SameSpelling.symm (h : SameSpelling host chain v w) : SameSpelling host chain w v := by
  cases chain with
  | solana => exact Eq.symm h
  | robinhood => exact Eq.symm h

theorem SameDeprecated.normalize_eq (h : SameDeprecated host formats v w) :
    normalize host formats chain v = normalize host formats chain w := by
  rcases h with rfl | ⟨hv, hw, hcase⟩
  · rfl
  · cases chain with
    | solana => simp only [Policy.normalize, normalizedSolana, hv, hw]
    | robinhood => exact congrArg Except.ok hcase

theorem SameDeprecated.symm (h : SameDeprecated host formats v w) : SameDeprecated host formats w v := by
  rcases h with rfl | ⟨hv, hw, hcase⟩
  · exact .inl rfl
  · exact .inr ⟨hw, hv, hcase.symm⟩

theorem sameAccount_congr (hv : normalize host formats chain v = normalize host formats chain v')
    (hw : normalize host formats chain w = normalize host formats chain w') :
    SameAccount host formats chain v w ↔ SameAccount host formats chain v' w' := by
  rw [sameAccount_iff, sameAccount_iff, hv, hw]

theorem dvns_respelled {xs xs' ys ys' : List String} (hxs : PermBy (SameSpelling host chain) xs xs')
    (hys : PermBy (SameSpelling host chain) ys ys') (h : PermBy (SameAccount host formats chain) xs ys) :
    PermBy (SameAccount host formats chain) xs' ys' := by
  have hleft : PermBy (SameAccount host formats chain) xs' ys :=
    hxs.flip.comp h fun _ _ _ hx hxy => (sameAccount_congr hx.normalize_eq rfl).mp hxy
  exact hleft.comp hys fun _ _ _ hxy hy => (sameAccount_congr rfl hy.normalize_eq).mp hxy

theorem DistinctDvns.respelled {ys ys' : List String} (hys : PermBy (SameSpelling host chain) ys ys')
    (h : DistinctDvns host formats chain ys) : DistinctDvns host formats chain ys' :=
  hys.pairwise h (fun hne hsame => hne hsame.symm) fun hac hbd hne hsame =>
    hne ((sameAccount_congr hac.normalize_eq hbd.normalize_eq).mpr hsame)

theorem DistinctDvns.of_match {xs ys : List String} (hxs : PermBy (SameAccount host formats chain) xs ys)
    (h : DistinctDvns host formats chain ys) : DistinctDvns host formats chain xs :=
  hxs.flip.pairwise h (fun hne hsame => hne hsame.symm) fun hac hbd hne hsame =>
    hne (hac.symm.trans (hsame.trans hbd))

variable {o o' : UlnObservation} {p p' : ChainPolicy} {deprecatedDvns deprecatedDvns' : List String}
  {threshold : JsNumber} {confirmations sendConfirmations receiveConfirmations : Int}

theorem UlnMatches.respelled (ho : UlnRespelled host chain o o') (hp : ChainPolicyRespelled host chain p p')
    (hd : PermBy (SameDeprecated host formats) deprecatedDvns deprecatedDvns')
    (h : UlnMatches host formats chain o p deprecatedDvns threshold confirmations) :
    UlnMatches host formats chain o' p' deprecatedDvns' threshold confirmations := by
  have hrequired := ho.requiredDvns.length_eq
  rw [h.required, List.length_nil] at hrequired
  refine {
    explicitNoRequired := ho.explicitNoRequired ▸ h.explicitNoRequired
    explicitConfirmations := ho.explicitConfirmations ▸ h.explicitConfirmations
    explicitOptionalDvns := ho.explicitOptionalDvns ▸ h.explicitOptionalDvns
    required := List.length_eq_zero_iff.mp hrequired.symm
    threshold := ho.optionalThreshold ▸ h.threshold
    confirmations := ho.confirmations ▸ h.confirmations
    current := ?_
    dvns := dvns_respelled ho.optionalDvns hp.optionalDvns h.dvns }
  intro d' hd' v' hv' hsame
  obtain ⟨d, hd, hdd⟩ := hd.covers hd'
  obtain ⟨v, hv, hvv⟩ := ho.optionalDvns.covers hv'
  exact h.current d hd v hv ((sameAccount_congr hdd.normalize_eq hvv.normalize_eq).mpr hsame)

theorem ChainMatches.respelled {observed observed' : ChainObservation} {peer peer' : String}
    (ho : ChainRespelled host chain observed observed') (hp : ChainPolicyRespelled host chain p p')
    (hd : PermBy (SameDeprecated host formats) deprecatedDvns deprecatedDvns')
    (hpeer : host.toLowerCase peer = host.toLowerCase peer')
    (h : ChainMatches host formats chain observed p deprecatedDvns peer threshold sendConfirmations
      receiveConfirmations) :
    ChainMatches host formats chain observed' p' deprecatedDvns' peer' threshold sendConfirmations
      receiveConfirmations where
  sendLibrary := (sameAccount_congr ho.sendLibrary.normalize_eq hp.sendLibrary.normalize_eq).mp h.sendLibrary
  receiveLibrary :=
    (sameAccount_congr ho.receiveLibrary.normalize_eq hp.receiveLibrary.normalize_eq).mp h.receiveLibrary
  executor := (sameAccount_congr ho.executor.normalize_eq hp.executor.normalize_eq).mp h.executor
  sendLibraryExplicit := ho.sendLibraryExplicit ▸ h.sendLibraryExplicit
  receiveLibraryExplicit := ho.receiveLibraryExplicit ▸ h.receiveLibraryExplicit
  executorExplicit := ho.executorExplicit ▸ h.executorExplicit
  peer := ho.peer.symm.trans (h.peer.trans hpeer)
  send := h.send.respelled ho.send hp hd
  receive := h.receive.respelled ho.receive hp hd

theorem UlnRespelled.symm (h : UlnRespelled host chain o o') : UlnRespelled host chain o' o where
  explicitNoRequired := h.explicitNoRequired.symm
  explicitConfirmations := h.explicitConfirmations.symm
  explicitOptionalDvns := h.explicitOptionalDvns.symm
  optionalThreshold := h.optionalThreshold.symm
  confirmations := h.confirmations.symm
  requiredDvns := h.requiredDvns.symm SameSpelling.symm
  optionalDvns := h.optionalDvns.symm SameSpelling.symm

theorem ChainRespelled.symm {observed observed' : ChainObservation} (h : ChainRespelled host chain observed observed') :
    ChainRespelled host chain observed' observed where
  sendLibrary := h.sendLibrary.symm
  receiveLibrary := h.receiveLibrary.symm
  executor := h.executor.symm
  sendLibraryExplicit := h.sendLibraryExplicit.symm
  receiveLibraryExplicit := h.receiveLibraryExplicit.symm
  executorExplicit := h.executorExplicit.symm
  peer := h.peer.symm
  send := h.send.symm
  receive := h.receive.symm

theorem ChainPolicyRespelled.symm (h : ChainPolicyRespelled host chain p p') :
    ChainPolicyRespelled host chain p' p where
  sendLibrary := h.sendLibrary.symm
  receiveLibrary := h.receiveLibrary.symm
  executor := h.executor.symm
  optionalDvns := h.optionalDvns.symm SameSpelling.symm

section Pathway

variable {observation observation' : BridgeObservation} {peers peers' : Peers} {policy policy' : BridgePolicy}
  {robinhoodSourceConfirmations : Int}

theorem ObservationRespelled.symm (h : ObservationRespelled host formats observation observation') :
    ObservationRespelled host formats observation' observation where
  solana := h.solana.symm
  robinhood := h.robinhood.symm
  deprecatedDvns := h.deprecatedDvns.symm SameDeprecated.symm

theorem PeersRespelled.symm (h : PeersRespelled host peers peers') : PeersRespelled host peers' peers where
  solana := h.solana.symm
  robinhood := h.robinhood.symm

theorem PolicyRespelled.symm (h : PolicyRespelled host policy policy') : PolicyRespelled host policy' policy where
  solanaSourceConfirmations := h.solanaSourceConfirmations.symm
  robinhoodSourceConfirmations := h.robinhoodSourceConfirmations.symm
  optionalThreshold := h.optionalThreshold.symm
  solana := h.solana.symm
  robinhood := h.robinhood.symm

theorem PathwayMatches.respelled (ho : ObservationRespelled host formats observation observation')
    (hpeers : PeersRespelled host peers peers') (hp : PolicyRespelled host policy policy')
    (h : PathwayMatches host formats observation peers policy robinhoodSourceConfirmations) :
    PathwayMatches host formats observation' peers' policy' robinhoodSourceConfirmations where
  solana := by
    rw [← hp.optionalThreshold, ← hp.solanaSourceConfirmations]
    exact h.solana.respelled ho.solana hp.solana ho.deprecatedDvns hpeers.solana
  robinhood := by
    rw [← hp.optionalThreshold, ← hp.solanaSourceConfirmations]
    exact h.robinhood.respelled ho.robinhood hp.robinhood ho.deprecatedDvns hpeers.robinhood

/-- An accepted pathway is what the policy asks for, on both chains and in both directions, and
nothing depends on the order of the DVNs or on the case of the letters of an EVM address. -/
theorem validateLayerZeroObservation_exact
    (hresolved : policy.robinhoodSourceConfirmations = some robinhoodSourceConfirmations)
    (hsolana : DistinctDvns host formats .solana policy.solana.optionalDvns)
    (hrobinhood : DistinctDvns host formats .robinhood policy.robinhood.optionalDvns) :
    (validateLayerZeroObservation host formats observation peers policy = .ok () ↔
      PathwayMatches host formats observation peers policy robinhoodSourceConfirmations) ∧
    (validateLayerZeroObservation host formats observation peers policy = .ok () →
      (∀ uln ∈ [observation.solana.send, observation.solana.receive],
        DistinctDvns host formats .solana uln.optionalDvns) ∧
      (∀ uln ∈ [observation.robinhood.send, observation.robinhood.receive],
        DistinctDvns host formats .robinhood uln.optionalDvns) ∧
      observation.solana.send.confirmations = observation.robinhood.receive.confirmations ∧
      observation.robinhood.send.confirmations = observation.solana.receive.confirmations) ∧
    ∀ observation' peers' policy', ObservationRespelled host formats observation observation' →
      PeersRespelled host peers peers' → PolicyRespelled host policy policy' →
      (validateLayerZeroObservation host formats observation peers policy = .ok () ↔
        validateLayerZeroObservation host formats observation' peers' policy' = .ok ()) := by
  have hexact := @validateLayerZeroObservation_eq_ok host formats policy observation peers _ hresolved hsolana
    hrobinhood
  refine ⟨hexact, ?_, ?_⟩
  · intro hok
    have h := hexact.mp hok
    simp only [List.forall_mem_cons, List.not_mem_nil, false_imp_iff, implies_true, and_true]
    exact ⟨⟨.of_match h.solana.send.dvns hsolana, .of_match h.solana.receive.dvns hsolana⟩,
      ⟨.of_match h.robinhood.send.dvns hrobinhood, .of_match h.robinhood.receive.dvns hrobinhood⟩,
      h.solana.send.confirmations.trans h.robinhood.receive.confirmations.symm,
      h.robinhood.send.confirmations.trans h.solana.receive.confirmations.symm⟩
  · intro observation' peers' policy' ho hpeers hp
    rw [hexact, validateLayerZeroObservation_eq_ok (hp.robinhoodSourceConfirmations ▸ hresolved)
      (hsolana.respelled hp.solana.optionalDvns) (hrobinhood.respelled hp.robinhood.optionalDvns)]
    exact ⟨fun h => h.respelled ho hpeers hp, fun h => h.respelled ho.symm hpeers.symm hp.symm⟩

theorem sanLayerZeroPolicy_exact :
    let observation : BridgeObservation := {
      solana := intendedChain sanLayerZeroPolicy.solana sanLayerZeroPolicy "0xab" 32 30
      robinhood := intendedChain sanLayerZeroPolicy.robinhood sanLayerZeroPolicy "0xcd" 30 32
      deprecatedDvns := [] }
    validateLayerZeroObservation (plainHost (Vector.replicate 32 0)) (plainFormats []) observation ⟨"0xAB", "0xcd"⟩
      sanLayerZeroPolicy = .ok () ↔
    PathwayMatches (plainHost (Vector.replicate 32 0)) (plainFormats []) observation ⟨"0xAB", "0xcd"⟩
      sanLayerZeroPolicy 30 := by
  intro observation
  have hsolana : DistinctDvns (plainHost (Vector.replicate 32 0)) (plainFormats []) .solana
      sanLayerZeroPolicy.solana.optionalDvns := by
    have hne : sanLayerZeroPolicy.solana.optionalDvns.Pairwise (· ≠ ·) := by decide
    refine hne.imp fun hne hsame => ?_
    obtain ⟨key, hv, hw⟩ := hsame
    exact hne ((plainFormats_spelling hv).symm.trans (plainFormats_spelling hw))
  have hrobinhood : DistinctDvns (plainHost (Vector.replicate 32 0)) (plainFormats []) .robinhood
      sanLayerZeroPolicy.robinhood.optionalDvns := by
    have hne : sanLayerZeroPolicy.robinhood.optionalDvns.Pairwise fun v w =>
        v.toList.map Char.toLower ≠ w.toList.map Char.toLower := by
      decide
    exact hne.imp fun hne hsame => hne (String.ofList_injective hsame)
  exact (validateLayerZeroObservation_exact rfl hsolana hrobinhood).1

end Pathway

end Spelling

end SanBridge.Tooling.Pathway
