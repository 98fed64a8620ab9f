import SanBridge.Tooling.Ordering

namespace SanBridge.Tooling.Arrangement

open Library.Checked Library.Matching Library.Sorting Tooling.Runtime Tooling.Inventory Tooling.Acceptance
open Tooling.Manifest Tooling.Building Tooling.Evidence Tooling.Canonical Tooling.Ordering

variable {host : Host} {input : BuildManifestInput} {o : Outstanding} {messages : List Json} {id : String}

section Identification

/-- Lower case neither takes a colon away nor brings one. -/
def KeepsColon (host : Host) : Prop := ∀ s : String, ':' ∈ (host.toLowerCase s).toList ↔ ':' ∈ s.toList

theorem guids_nodup {ms : List InFlightMessageEvidence} (h : (ms.map fun m => host.toLowerCase m.guid).Nodup) :
    (ms.map InFlightMessageEvidence.guid).Nodup := by
  have hkeys : ((ms.map InFlightMessageEvidence.guid).map host.toLowerCase).Nodup := by
    rw [List.map_map]
    exact h
  exact hkeys.of_map

/-- What the parser establishes about the sources of the manifest it accepts. -/
structure SourcesAccepted (host : Host) (sources : List InFlightMessageEvidence) : Prop where
  keys_nodup : (sources.map (sourceKey host)).Nodup
  guid : ∀ s ∈ sources, isHash32 s.guid = true
  index : ∀ s ∈ sources, FiniteIndex s

theorem sources_accepted (h : Accepted host (manifestOf host input o).toJson messages id) :
    SourcesAccepted host input.primary.sourceMessages := by
  have hlisted : ∀ s ∈ input.primary.sourceMessages, ∃ m : InFlightMessageEvidence, m.toJson ∈ messages ∧
      m.guid = s.guid ∧ m.sourceEventIndex = s.sourceEventIndex := by
    intro s hs
    obtain ⟨p, _, rfl, hp⟩ := @listed_of_source host input s hs
    rw [accepted_messages h]
    exact ⟨_, List.mem_map_of_mem hp, settle_guid, settle_index⟩
  refine ⟨sourceKeys_nodup h, fun s hs => ?_, fun s hs => ?_⟩
  · obtain ⟨m, hm, hguid, _⟩ := hlisted s hs
    obtain ⟨t, ht, hhash, _⟩ := (h.admitted _ hm).guid
    have hmt : get (some m.toJson) "guid" = some (.str m.guid) := rfl
    rw [hmt, Option.some.injEq, Json.str.injEq] at ht
    rw [← hguid, ht]
    exact hhash
  · obtain ⟨m, hm, _, hindex⟩ := hlisted s hs
    have hsafe := (h.admitted _ hm).accepted.sourceEventIndex
    change isSafeIndex (some (ofNumber m.sourceEventIndex)) = true at hsafe
    rw [FiniteIndex, ← hindex]
    cases hi : m.sourceEventIndex with
    | finite q => exact ⟨q, rfl⟩
    | infinite _ | nan =>
      rw [hi] at hsafe
      cases hsafe

theorem SourcesAccepted.identified {sources : List InFlightMessageEvidence} (h : SourcesAccepted host sources) :
    Identified sources := by
  exact ⟨guids_nodup h.keys_nodup, fun s hs => plain_of_isHash32 (h.guid s hs)⟩

theorem receipts_identified (hb : Built host input o) (hs : SourcesAccepted host input.primary.sourceMessages)
    (hc : KeepsColon host) : Identified input.primary.destinationMessages := by
  refine ⟨guids_nodup hb.distinct, fun d hd hcolon => ?_⟩
  have hrest := hb.consumed
  rw [consume_rest, List.filter_eq_nil_iff] at hrest
  have hkey := hrest (entryOf host d) (List.mem_map_of_mem hd)
  simp only [decide_eq_true_eq, not_not] at hkey
  obtain ⟨s, hmem, he⟩ := List.mem_map.mp hkey
  have hlower : host.toLowerCase s.guid = host.toLowerCase d.guid := he
  exact plain_of_isHash32 (hs.guid s hmem) ((hc s.guid).mp (hlower ▸ (hc d.guid).mpr hcolon))

/-- What an accepted manifest shows of the evidence it was built from. -/
structure Agreed (host : Host) (input : BuildManifestInput) : Prop where
  sources : SourcesAccepted host input.primary.sourceMessages
  receipts : Identified input.primary.destinationMessages
  secondarySources : Identified input.secondary.sourceMessages
  secondaryReceipts : Identified input.secondary.destinationMessages
  ranges : canonicalJson host input.primary.ranges.toJson = canonicalJson host input.secondary.ranges.toJson
  sourceTexts : (sortMessages host input.primary.sourceMessages).map (messageText host) =
    (sortMessages host input.secondary.sourceMessages).map (messageText host)
  receiptTexts : (sortMessages host input.primary.destinationMessages).map (messageText host) =
    (sortMessages host input.secondary.destinationMessages).map (messageText host)

theorem agreed_of_accepted (hp : PrintsNumbers host) (hc : KeepsColon host) (hb : Built host input o)
    (hacc : Accepted host (manifestOf host input o).toJson messages id) : Agreed host input := by
  have hs := sources_accepted hacc
  have hreceipts := receipts_identified hb hs hc
  obtain ⟨hranges, hst, hdt⟩ := (providerComparable_eq_iff hp).mp hb.agreement
  -- what the secondary provider returned is identified because it was found equal
  exact ⟨hs, hreceipts, hs.identified.of_texts hp hst, hreceipts.of_texts hp hdt, hranges, hst, hdt⟩

theorem settled_identified (hs : SourcesAccepted host input.primary.sourceMessages) :
    Identified ((pairing host input.primary).map (settle host input.layerZeroStatuses)) := by
  refine hs.identified.of_guids ?_
  rw [List.map_map, ← pairing_fst host, List.map_map]
  exact List.map_congr_left fun p _ => settle_guid.symm

end Identification

section Runs

def manifestFile (host : Host) (manifest : InFlightManifest) : String := stringify host manifest.toJson ++ "\n"

/-- The end of a scan: the manifest is built, written and read. -/
def buildAndParse (host : Host) (input : BuildManifestInput) : Result (InFlightManifest × InFlightInventory) := do
  let manifest ← buildInFlightManifest host input
  let inventory ← parseInFlightInventory host (manifestFile host manifest)
  .ok (manifest, inventory)

def ReadsBack (host : Host) (input : BuildManifestInput) : Prop :=
  ∀ manifest, buildInFlightManifest host input = .ok manifest →
    host.jsonParse (manifestFile host manifest) = some manifest.toJson

def withLists (input : BuildManifestInput)
    (primarySources primaryReceipts secondarySources secondaryReceipts : List InFlightMessageEvidence) :
    BuildManifestInput :=
  { input with
    primary := ⟨input.primary.ranges, primarySources, primaryReceipts⟩
    secondary := ⟨input.secondary.ranges, secondarySources, secondaryReceipts⟩ }

theorem buildAndParse_eq_ok (hr : ReadsBack host input) {result : InFlightManifest × InFlightInventory} :
    buildAndParse host input = .ok result ↔
      ∃ o messages id, Built host input o ∧ Accepted host (manifestOf host input o).toJson messages id ∧
        result = (manifestOf host input o, inventoryOf host (manifestOf host input o).toJson messages id) := by
  simp only [buildAndParse, bind_eq_ok, buildInFlightManifest_eq_ok, parseInFlightInventory_eq_ok, Except.ok.injEq]
  constructor
  · rintro ⟨_, ⟨o, hb, rfl⟩, _, ⟨value, messages, id, hv, hacc, rfl⟩, rfl⟩
    rw [hr _ (buildInFlightManifest_eq_ok.mpr ⟨o, hb, rfl⟩), Option.some.injEq] at hv
    subst hv
    exact ⟨o, messages, id, hb, hacc, rfl⟩
  · rintro ⟨o, messages, id, hb, hacc, rfl⟩
    exact ⟨_, ⟨o, hb, rfl⟩, _, ⟨_, messages, id, hr _ (buildInFlightManifest_eq_ok.mpr ⟨o, hb, rfl⟩), hacc, rfl⟩, rfl⟩

variable {ps pd ss sd : List InFlightMessageEvidence}

/-- What is built from an input whose manifest is accepted is built from every
arrangement of it. -/
theorem built_of_rearranged (hp : PrintsNumbers host) (hl : TellsApart host) (hc : KeepsColon host)
    (hps : ps.Perm input.primary.sourceMessages) (hpd : pd.Perm input.primary.destinationMessages)
    (hss : ss.Perm input.secondary.sourceMessages) (hsd : sd.Perm input.secondary.destinationMessages)
    (hb : Built host input o) (hacc : Accepted host (manifestOf host input o).toJson messages id) :
    Built host (withLists input ps pd ss sd) o ∧
      messagesOf host (withLists input ps pd ss sd) = messagesOf host input := by
  have h := agreed_of_accepted hp hc hb hacc
  obtain ⟨hpairs, hrest⟩ := consume_perm h.sources.keys_nodup hb.keys_nodup hps.symm (hpd.symm.map (entryOf host))
  have hpairing : (pairing host (withLists input ps pd ss sd).primary).Perm (pairing host input.primary) :=
    hpairs.symm
  have hmessages : messagesOf host (withLists input ps pd ss sd) = messagesOf host input :=
    ((settled_identified h.sources).sortMessages_eq_of_perm hl (hpairing.map _).symm).symm
  refine ⟨⟨?_, ?_, ?_, ?_, ?_⟩, hmessages⟩
  · refine (providerComparable_eq_iff hp).mpr ⟨h.ranges, ?_, ?_⟩
    · change (sortMessages host ps).map _ = (sortMessages host ss).map _
      rw [← h.sources.identified.sortMessages_eq_of_perm hl hps.symm, h.sourceTexts,
        h.secondarySources.sortMessages_eq_of_perm hl hss.symm]
    · change (sortMessages host pd).map _ = (sortMessages host sd).map _
      rw [← h.receipts.sortMessages_eq_of_perm hl hpd.symm, h.receiptTexts,
        h.secondaryReceipts.sortMessages_eq_of_perm hl hsd.symm]
  · exact (hpd.map _).nodup_iff.mpr hb.distinct
  · exact fun p hmem => hb.compatible p (hpairing.mem_iff.mp hmem)
  · have hnil := hb.consumed ▸ hrest
    exact hnil.symm.eq_nil
  · rw [hmessages]
    exact hb.totals

/-- The manifest and its inventory do not depend on the order in which the providers
return their evidence. -/
theorem buildAndParse_rearranged (hp : PrintsNumbers host) (hl : TellsApart host) (hc : KeepsColon host)
    (hps : ps.Perm input.primary.sourceMessages) (hpd : pd.Perm input.primary.destinationMessages)
    (hss : ss.Perm input.secondary.sourceMessages) (hsd : sd.Perm input.secondary.destinationMessages)
    (hr : ReadsBack host input) (hr' : ReadsBack host (withLists input ps pd ss sd))
    (result : InFlightManifest × InFlightInventory) :
    buildAndParse host input = .ok result ↔ buildAndParse host (withLists input ps pd ss sd) = .ok result := by
  have hmanifest {o : Outstanding} (h : messagesOf host (withLists input ps pd ss sd) = messagesOf host input) :
      manifestOf host (withLists input ps pd ss sd) o = manifestOf host input o := by
    rw [manifestOf, h]
    rfl
  rw [buildAndParse_eq_ok hr, buildAndParse_eq_ok hr']
  constructor
  · rintro ⟨o, messages, id, hb, hacc, rfl⟩
    obtain ⟨hb', hmessages⟩ := built_of_rearranged hp hl hc hps hpd hss hsd hb hacc
    rw [← hmanifest hmessages] at hacc ⊢
    exact ⟨o, messages, id, hb', hacc, rfl⟩
  · rintro ⟨o, messages, id, hb, hacc, rfl⟩
    obtain ⟨hb', hmessages⟩ := built_of_rearranged hp hl hc hps.symm hpd.symm hss.symm hsd.symm hb hacc
    rw [hmanifest hmessages.symm] at hacc ⊢
    exact ⟨o, messages, id, hb', hacc, rfl⟩

end Runs

section Sample

def signatureOf (first : Char) : String := String.ofList (first :: List.replicate 87 '1')

def pairSource (guid first : Char) : InFlightMessageEvidence :=
  { sampleSource 7 with guid := hashOf guid, sourceTransaction := signatureOf first }

def pairSources : List InFlightMessageEvidence := [pairSource '1' 'a', pairSource '2' 'B']

def pairStatuses (guid : String) : Option String :=
  if guid = hashOf '1' ∨ guid = hashOf '2' then some "INFLIGHT" else none

/-- Two transfers of one slot, both in flight. -/
def pairInput : BuildManifestInput :=
  { sampleInput 7 with
    primary := ⟨sampleRanges, pairSources, []⟩
    secondary := ⟨sampleRanges, pairSources, []⟩
    layerZeroStatuses := some pairStatuses }

theorem pairSource_evidence {guid first : Char} (hg : isLowerHex guid = true)
    (ht : blank (signatureOf first) = false) :
    SourceEvidence pairInput.identities pairInput.primary.ranges (pairSource guid first) :=
  have h := (sampleInput_scanned 7).sources (sampleSource 7) (List.mem_singleton_self _)
  { guid := hashOf_lower hg
    sourceNonce := h.sourceNonce
    sourceTransaction := ht
    sourceHeight := h.sourceHeight
    sourceBlockHash := h.sourceBlockHash
    sourceEventIndex := h.sourceEventIndex
    pathway := h.pathway
    amountRaw := h.amountRaw
    receiver := h.receiver
    status := h.status
    destination := h.destination
    layerZeroApiStatus := h.layerZeroApiStatus }

theorem pairInput_scanned : ScannedEvidence pairInput pairStatuses :=
  have h := sampleInput_scanned 7
  { inventoryId := h.inventoryId
    scannerSourceCommit := h.scannerSourceCommit
    generatedAt := h.generatedAt
    solanaProviders := h.solanaProviders
    robinhoodProviders := h.robinhoodProviders
    identities := h.identities
    secondary := rfl
    ranges := h.ranges
    sources := by
      intro s hs
      cases hs with
      | head => exact pairSource_evidence (by decide) (by decide)
      | tail _ hs =>
        obtain rfl := List.mem_singleton.mp hs
        exact pairSource_evidence (by decide) (by decide)
    distinct := by decide
    destinations := fun _ hd => absurd hd List.not_mem_nil
    layerZeroStatuses := rfl
    known := by decide }

/-- The SHA-256 digest of their manifest. -/
def pairDigest : Vector UInt8 32 :=
  #v[159, 69, 29, 72, 84, 237, 21, 190, 166, 49, 227, 9, 221, 235, 79, 140, 219, 237, 116, 142, 55, 95,
    187, 53, 251, 131, 18, 4, 84, 230, 6, 80]

/-- Their messages, by the code units of their transactions. -/
def pairMessages : List InFlightMessageEvidence :=
  [pairSource '2' 'B', pairSource '1' 'a'].map fun s =>
    { s with status := .inFlight, layerZeroApiStatus := some "INFLIGHT" }

def pairManifest : InFlightManifest :=
  ⟨unsignedManifest pairInput pairMessages ⟨14, 0, 2⟩, "0x" ++ hexDigest pairDigest.toList⟩

def pairHost : Host := reading (exactly (plainHost pairDigest)) pairManifest.toJson pairManifest.keysDistinct

theorem pairHost_messages : messagesOf pairHost pairInput = pairMessages := by decide +kernel

theorem pairHost_built : Built pairHost pairInput ⟨14, 0, 2⟩ where
  agreement := rfl
  distinct := List.nodup_nil
  compatible := by
    have hpairing : pairing pairHost pairInput.primary = pairSources.map fun s => (s, none) := rfl
    intro p hp
    rw [hpairing] at hp
    obtain ⟨s, hs, rfl⟩ := List.mem_map.mp hp
    cases hs with
    | head =>
      rw [Compatible]
      decide
    | tail _ hs =>
      obtain rfl := List.mem_singleton.mp hs
      rw [Compatible]
      decide
  consumed := rfl
  totals := by
    rw [pairHost_messages]
    rfl

theorem pairHost_manifest : manifestOf pairHost pairInput ⟨14, 0, 2⟩ = pairManifest := by
  rw [manifestOf, pairHost_messages]
  rfl

theorem pairHost_accepted : Accepted pairHost (manifestOf pairHost pairInput ⟨14, 0, 2⟩).toJson
    ((messagesOf pairHost pairInput).map InFlightMessageEvidence.toJson) "review-1" := by
  refine pairInput_scanned.accepted pairHost_built ?_ ?_
  · decide
  · intro s _ api hapi
    rw [pairStatuses] at hapi
    split_ifs at hapi
    obtain rfl := Option.some.inj hapi
    decide

theorem pairHost_tellsApart : TellsApart pairHost := by
  intro s t h h'
  exact codeUnits_injective (le_antisymm (of_decide_eq_true h) (of_decide_eq_true h'))

theorem toLower_eq_colon {c : Char} : c.toLower = ':' ↔ c = ':' := by
  by_cases hu : c.val ≥ 'A'.val ∧ c.val ≤ 'Z'.val
  · have hlower : c.toLower.val = c.val + 32 := congrArg Char.val (dif_pos hu)
    have h1 := UInt32.le_iff_toNat_le.mp hu.1
    have h2 := UInt32.le_iff_toNat_le.mp hu.2
    change 65 ≤ c.val.toNat at h1
    change c.val.toNat ≤ 90 at h2
    constructor
    · intro h
      rw [h] at hlower
      have hnat := congrArg UInt32.toNat hlower
      rw [UInt32.toNat_add] at hnat
      change 58 = (c.val.toNat + 32) % 2 ^ 32 at hnat
      omega
    · rintro rfl
      exact absurd h1 (by decide)
  · have hsame : c.toLower = c := dif_neg hu
    rw [hsame]

theorem pairHost_keepsColon : KeepsColon pairHost := by
  intro s
  have hlower : (pairHost.toLowerCase s).toList = s.toList.map Char.toLower := String.toList_ofList
  rw [hlower, List.mem_map]
  constructor
  · rintro ⟨c, hc, he⟩
    exact toLower_eq_colon.mp he ▸ hc
  · intro h
    exact ⟨':', h, rfl⟩

theorem pairHost_prints : PrintsNumbers pairHost := (exactly_prints _).reading

theorem pairHost_readsBack {input : BuildManifestInput} (hb : Built pairHost input ⟨14, 0, 2⟩)
    (hm : manifestOf pairHost input ⟨14, 0, 2⟩ = pairManifest) : ReadsBack pairHost input := by
  intro manifest h
  rw [buildInFlightManifest_eq_ok.mpr ⟨_, hb, rfl⟩, Except.ok.injEq, hm] at h
  subst h
  exact reading_reads _ _ _

def pairInventory : InFlightInventory :=
  inventoryOf pairHost pairManifest.toJson (pairMessages.map InFlightMessageEvidence.toJson) "review-1"

theorem pairHost_builds : buildInFlightManifest pairHost pairInput = .ok pairManifest :=
  buildInFlightManifest_eq_ok.mpr ⟨_, pairHost_built, pairHost_manifest.symm⟩

theorem pairHost_parses : parseInFlightInventory pairHost (manifestFile pairHost pairManifest) = .ok pairInventory := by
  have hacc := pairHost_accepted
  rw [pairHost_manifest, pairHost_messages] at hacc
  exact parseInFlightInventory_eq_ok.mpr ⟨_, _, _, reading_reads _ _ _, hacc, rfl⟩

theorem buildAndParse_pair : buildAndParse pairHost pairInput = .ok (pairManifest, pairInventory) := by
  rw [buildAndParse, pairHost_builds, ok_bind, pairHost_parses, ok_bind]

theorem buildAndParse_pair_rearranged :
    buildAndParse pairHost (withLists pairInput pairSources.reverse [] pairSources []) =
      .ok (pairManifest, pairInventory) := by
  have hps : pairSources.reverse.Perm pairInput.primary.sourceMessages := List.reverse_perm _
  have hpd : List.Perm [] pairInput.primary.destinationMessages := .refl _
  have hss : pairSources.Perm pairInput.secondary.sourceMessages := .refl _
  have hsd : List.Perm [] pairInput.secondary.destinationMessages := .refl _
  obtain ⟨hb, hmessages⟩ := built_of_rearranged pairHost_prints pairHost_tellsApart pairHost_keepsColon hps hpd hss
    hsd pairHost_built pairHost_accepted
  have hm : manifestOf pairHost (withLists pairInput pairSources.reverse [] pairSources []) ⟨14, 0, 2⟩ =
      pairManifest := by
    rw [manifestOf, hmessages, pairHost_messages]
    rfl
  exact (buildAndParse_rearranged pairHost_prints pairHost_tellsApart pairHost_keepsColon hps hpd hss hsd
    (pairHost_readsBack pairHost_built pairHost_manifest) (pairHost_readsBack hb hm) _).mp buildAndParse_pair

end Sample

end SanBridge.Tooling.Arrangement
