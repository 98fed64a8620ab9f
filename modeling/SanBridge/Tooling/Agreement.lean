import SanBridge.System.Bridge
import SanBridge.Tooling.Evidence

namespace SanBridge.Tooling.Agreement

open Library.Matching Tooling.Runtime Tooling.Inventory Tooling.Manifest Tooling.Acceptance Tooling.Building
open Tooling.Evidence

variable {host : Host} {input : BuildManifestInput} {statuses : String → Option String}
  {manifest : InFlightManifest} {inventory : InFlightInventory} {contents : String} {o : Outstanding}

structure Returns (summary : Summary) (inventory : InFlightInventory) : Prop where
  messageCount : inventory.messageCount = summary.resultCount
  unresolvedPacketCount : inventory.unresolvedPacketCount = summary.unresolvedPacketCount
  solanaToRobinhoodRaw : toString inventory.solanaToRobinhoodRaw = summary.solanaToRobinhoodRaw
  robinhoodToSolanaRaw : toString inventory.robinhoodToSolanaRaw = summary.robinhoodToSolanaRaw

theorem returns_inventoryOf (he : ScannedEvidence input statuses) (hb : Built host input o) (value : Json)
    (inventoryId : String) :
    Returns (manifestOf host input o).summary
      (inventoryOf host value ((messagesOf host input).map InFlightMessageEvidence.toJson) inventoryId) := by
  have ho := he.outstanding_eq hb
  have hsummary : (manifestOf host input o).summary = ⟨(messagesOf host input).length, o.unresolvedPacketCount,
      toString o.solanaToRobinhoodRaw, toString o.robinhoodToSolanaRaw⟩ := rfl
  rw [hsummary, ho]
  refine ⟨List.length_map _, ?_, ?_, ?_⟩
  · change (undelivered _).length = (unsettled (messagesOf host input)).length
    rw [undelivered_toJson, List.length_map]
  · exact congrArg toString (@outstanding_toJson .solanaToRobinhood (messagesOf host input))
  · exact congrArg toString (@outstanding_toJson .robinhoodToSolana (messagesOf host input))

theorem accepted_source (he : ScannedEvidence input statuses) {messages : List Json} {inventoryId : String}
    (hacc : Accepted host (manifestOf host input o).toJson messages inventoryId)
    {s : InFlightMessageEvidence} (hs : s ∈ input.primary.sourceMessages) :
    0 < rawAmount s ∧ ∀ api, statuses s.guid = some api → blank api = false := by
  obtain ⟨p, hp, rfl, hlisted⟩ := @listed_of_source host input s hs
  have hmem := accepted_messages hacc ▸ List.mem_map_of_mem (f := InFlightMessageEvidence.toJson) hlisted
  have hadmitted := (hacc.admitted _ hmem).accepted
  refine ⟨?_, fun api hapi => ?_⟩
  · obtain ⟨_, _, _, hpos, _⟩ := hadmitted.amountRaw
    have ha : amountOf (settle host input.layerZeroStatuses p).toJson = rawAmount p.1 := by
      rw [amountOf_toJson, settle_amountRaw, rawAmount]
    exact ha ▸ hpos rfl
  · obtain ⟨text, htext, _⟩ := hadmitted.destination
    obtain ⟨api', hknown, hstatus⟩ := he.apiStatus host (source_of_pairing hp).1
    rw [hapi, Option.some.injEq] at hknown
    subst hknown
    have hfield : (settle host input.layerZeroStatuses p).layerZeroApiStatus = some api := by
      obtain ⟨s, _ | d⟩ := p <;> exact hstatus
    have hread : get (settle host input.layerZeroStatuses p).toJson "layerZeroApiStatus" = some (.str api) := by
      change some (ofNullable (settle host input.layerZeroStatuses p).layerZeroApiStatus) = _
      rw [hfield]
      rfl
    obtain ⟨hstr, hblank⟩ := htext
    rw [hread, Option.some.injEq, Json.str.injEq] at hstr
    exact hstr ▸ hblank

/-- The parser accepts what the scanner writes exactly when no transfer is of amount
zero and no status is blank, and then it returns the totals of the summary. -/
theorem manifest_accepted_iff (he : ScannedEvidence input statuses)
    (hb : buildInFlightManifest host input = .ok manifest)
    (hc : host.jsonParse contents = some manifest.toJson) :
    (∃ inventory, parseInFlightInventory host contents = .ok inventory ∧ Returns manifest.summary inventory) ↔
      ∀ s ∈ input.primary.sourceMessages,
        0 < decimalValue s.amountRaw ∧ ∀ api, statuses s.guid = some api → blank api = false := by
  obtain ⟨o, hbuilt, rfl⟩ := buildInFlightManifest_eq_ok.mp hb
  constructor
  · rintro ⟨inventory, hp, _⟩ s hs
    obtain ⟨value, messages, id, hv, hacc, _⟩ := parseInFlightInventory_eq_ok.mp hp
    rw [hc, Option.some.injEq] at hv
    subst hv
    exact accepted_source he hacc hs
  · intro h
    have hacc := he.accepted hbuilt (fun s hs => (h s hs).1) fun s hs => (h s hs).2
    exact ⟨_, parseInFlightInventory_eq_ok.mpr ⟨_, _, _, hc, hacc, rfl⟩, returns_inventoryOf he hbuilt _ _⟩

theorem manifest_accepted_iff_paid :
    ((∃ inventory, parseInFlightInventory (sampleHost 7 sampleDigest)
        (sampleContents 7 sampleDigest) = .ok inventory ∧
        Returns (sampleManifest 7 sampleDigest).summary inventory) ↔
      ∀ s ∈ (sampleInput 7).primary.sourceMessages,
        0 < decimalValue s.amountRaw ∧ ∀ api, sampleStatuses s.guid = some api → blank api = false) ∧
    decimalValue (sampleSource 7).amountRaw = 7 :=
  ⟨manifest_accepted_iff (sampleInput_scanned 7)
    (buildInFlightManifest_eq_ok.mpr ⟨_, sampleInput_built 7 sampleDigest, sampleManifest_eq 7 sampleDigest⟩)
    (readingHost_reads _ _ _), decimalValue_toString 7⟩

/-- The SHA-256 digest of the manifest of a settled transfer of nothing. -/
def zeroDigest : Vector UInt8 32 :=
  #v[80, 11, 115, 51, 219, 200, 140, 121, 89, 166, 255, 238, 66, 14, 249, 64, 1, 174, 30, 13, 120, 137, 217, 61,
    168, 19, 213, 194, 77, 87, 217, 14]

open Solana.Instructions in
/-- The program sends nothing for anybody, and the manifest of the transfer is rejected. -/
theorem zero_transfer_rejected :
    (∃ s result, send Solana.Program.sampleOapp System.Bridge.sampleAccounts
        { System.Bridge.sampleParams with amountLd := 0, minAmountLd := 0 } System.Bridge.matchedStore =
          .ok (s, result) ∧ result.event.amountReceivedLd = 0) ∧
    ScannedEvidence (sampleInput 0) sampleStatuses ∧ (sampleSource 0).amountRaw = toString 0 ∧
    buildInFlightManifest (sampleHost 0 zeroDigest) (sampleInput 0) = .ok (sampleManifest 0 zeroDigest) ∧
    ∃ contents, (sampleHost 0 zeroDigest).jsonParse contents = some (sampleManifest 0 zeroDigest).toJson ∧
      ∀ inventory, parseInFlightInventory (sampleHost 0 zeroDigest) contents ≠ .ok inventory := by
  have hread := readingHost_reads zeroDigest _ (sampleManifest 0 zeroDigest).keysDistinct
  have hbuilt := buildInFlightManifest_eq_ok.mpr
    ⟨_, sampleInput_built 0 zeroDigest, sampleManifest_eq 0 zeroDigest⟩
  refine ⟨⟨_, _, rfl, rfl⟩, sampleInput_scanned 0, rfl, hbuilt, _, hread, fun inventory hp => ?_⟩
  obtain ⟨value, messages, id, hv, hacc, _⟩ := parseInFlightInventory_eq_ok.mp hp
  have hvalue := Option.some.inj (hread.symm.trans hv)
  rw [← hvalue, sampleManifest_eq] at hacc
  have hpos := (accepted_source (sampleInput_scanned 0) hacc (List.mem_singleton_self _)).1
  exact absurd hpos (by decide)

end SanBridge.Tooling.Agreement
