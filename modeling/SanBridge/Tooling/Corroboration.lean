import SanBridge.Library.Grouping
import SanBridge.Tooling.Arrangement
import SanBridge.Tooling.Correspondence
import SanBridge.Tooling.Reconciliation
import SanBridge.Tooling.Settlement

namespace SanBridge.Tooling.Corroboration

open Library.Checked Library.Grouping Library.Matching Tooling.Runtime Tooling.Inventory Tooling.Policy Tooling.Checker
open Tooling.Manifest Tooling.Acceptance Tooling.Building Tooling.Reconciliation Tooling.Arrangement Tooling.SolanaScan
open Tooling.RobinhoodScan

section Service

/-- One of the messages LayerZero Scan knows of a transaction; any part of it may be missing. -/
structure ScanEntry where
  guid : Option String
  srcEid : Option JsNumber
  dstEid : Option JsNumber
  statusName : Option String

structure ScanResponse where
  ok : Bool
  status : Nat
  data : Result (Option (List ScanEntry))

abbrev LayerZeroScan := String → Result ScanResponse

variable (host : Host) (scan : LayerZeroScan)

/-- A `Map` from transactions to their messages, in the order of their insertion. -/
def byTransaction (messages : List InFlightMessageEvidence) : List (String × List InFlightMessageEvidence) :=
  groupBy InFlightMessageEvidence.sourceTransaction messages

def expectedEids : InFlightDirection → Nat × Nat
  | .solanaToRobinhood => (solanaEid, robinhoodEid)
  | .robinhoodToSolana => (robinhoodEid, solanaEid)

def entryStatus (data : Option (List ScanEntry)) (m : InFlightMessageEvidence) : Result String := do
  let entry := (data.getD []).find? fun candidate => candidate.guid.map host.toLowerCase = some (sourceKey host m)
  -- an empty name is as good as none
  let name := (entry.bind (·.statusName)).getD ""
  require ("LayerZero Scan omitted source GUID " ++ m.guid) (name ≠ "")
  require ("LayerZero Scan pathway disagrees for GUID " ++ m.guid)
    (entry.bind (·.srcEid) = some (.finite (expectedEids m.direction).1) ∧
      entry.bind (·.dstEid) = some (.finite (expectedEids m.direction).2))
  .ok name

abbrev Statuses := String → Option String

def recordStatus (data : Option (List ScanEntry)) (statuses : Statuses) (m : InFlightMessageEvidence) :
    Result Statuses := do
  let name ← entryStatus host data m
  .ok (Function.update statuses (sourceKey host m) (some name))

/-- `data` of the answer for a transaction. -/
def answerFor (transaction : String) : Result (Option (List ScanEntry)) := do
  let response ← scan transaction
  require ("LayerZero Scan corroboration failed for " ++ transaction ++ ": HTTP " ++ toString response.status)
    response.ok
  response.data

def corroborateGroup (statuses : Statuses) (group : String × List InFlightMessageEvidence) : Result Statuses := do
  let data ← answerFor scan group.1
  group.2.foldlM (recordStatus host data) statuses

def fetchLayerZeroStatuses (messages : List InFlightMessageEvidence) : Result Statuses :=
  (byTransaction messages).foldlM (corroborateGroup host scan) fun _ => none

end Service

section Scanner

/-- What the scanner reads and whom it asks: its environment, the number a text denotes,
the protocol and host of a URL, the clock, the nodes behind their URLs, and LayerZero Scan. -/
structure Surroundings where
  env : String → Option String
  toNumber : String → JsNumber
  parseUrl : String → Result (String × String)
  now : String
  solana : String → SolanaRpc
  robinhood : String → RobinhoodRpc
  layerZeroScan : LayerZeroScan

variable (host : Host) (formats : EvmFormats) (world : Surroundings)

def required (name : String) : Result String := do
  let value := String.ofList (trim ((world.env name).getD "").toList)
  require (name ++ " is required; the scanner never infers production identities or ranges") (value ≠ "")
  .ok value

def safeProviderId (url : String) : Result String := do
  let parsed ← world.parseUrl url
  .ok (parsed.1 ++ "//" ++ parsed.2)

/-- `Number.isSafeInteger` -/
def safeInteger : JsNumber → Option Int
  | .finite q => if q.den = 1 ∧ |q.num| ≤ 2 ^ 53 - 1 then some q.num else none
  | _ => none

structure ScanValues where
  solanaFrom : Int
  solanaTo : Int
  robinhoodFrom : Int
  robinhoodTo : Int
  store : String
  oft : String
  deriving DecidableEq

structure ScanSettings extends ScanValues where
  solanaPrimary : String
  solanaSecondary : String
  robinhoodPrimary : String
  robinhoodSecondary : String
  deriving DecidableEq

/-- What `scanProductionInFlight` reads before it asks anyone. -/
def scanSettings : Result ScanSettings := do
  let solanaPrimary ← required world "SOLANA_MAINNET_RPC_URL"
  let solanaSecondary ← required world "SOLANA_MAINNET_SECONDARY_RPC_URL"
  let robinhoodPrimary ← required world "ROBINHOOD_RPC_URL"
  let robinhoodSecondary ← required world "ROBINHOOD_SECONDARY_RPC_URL"
  let solanaFrom ← required world "SAN_SCAN_SOLANA_FROM_SLOT"
  let solanaTo ← required world "SAN_SCAN_SOLANA_TO_SLOT"
  let robinhoodFrom ← required world "SAN_SCAN_ROBINHOOD_FROM_BLOCK"
  let robinhoodTo ← required world "SAN_SCAN_ROBINHOOD_TO_BLOCK"
  let store ← required world "SAN_SOLANA_OFT_STORE"
  let store ← getPublicKey formats.toScanFormats store
  let oft ← required world "SAN_ROBINHOOD_OFT_ADDRESS"
  let oft ← getAddress formats.toAddressFormats (some (.str oft))
  let unsafeRange := "Scanner ranges must be safe integers"
  let solanaFrom ← ofOption unsafeRange (safeInteger (world.toNumber solanaFrom))
  let solanaTo ← ofOption unsafeRange (safeInteger (world.toNumber solanaTo))
  let robinhoodFrom ← ofOption unsafeRange (safeInteger (world.toNumber robinhoodFrom))
  let robinhoodTo ← ofOption unsafeRange (safeInteger (world.toNumber robinhoodTo))
  .ok {
    solanaFrom := solanaFrom
    solanaTo := solanaTo
    robinhoodFrom := robinhoodFrom
    robinhoodTo := robinhoodTo
    store := formats.toBase58 store
    oft := oft
    solanaPrimary := solanaPrimary
    solanaSecondary := solanaSecondary
    robinhoodPrimary := robinhoodPrimary
    robinhoodSecondary := robinhoodSecondary }

def pageSize : Int := 2000

/-- Where both scans fail, which error is thrown depends on which comes first; here it is that of Solana. -/
def scanProviderPair (fuel : Nat) (solanaRpc robinhoodRpc : String) (values : ScanValues) :
    Result ScannerProviderResult := do
  let solana ← scanSolana host formats.toScanFormats (world.solana solanaRpc) fuel values.solanaFrom values.solanaTo
    values.store values.oft
  let robinhood ← scanRobinhood host formats (world.robinhood robinhoodRpc) fuel values.robinhoodFrom
    values.robinhoodTo values.oft values.store pageSize
  .ok {
    ranges := ⟨solana.range, robinhood.range⟩
    sourceMessages := solana.sent ++ robinhood.sent
    destinationMessages := solana.received ++ robinhood.received }

def manifestInput (settings : ScanSettings) (primary secondary : ScannerProviderResult) (statuses : Statuses) :
    Result BuildManifestInput := do
  let inventoryId ← required world "SAN_APPROVED_IN_FLIGHT_INVENTORY_ID"
  let scannerSourceCommit ← required world "SAN_SCANNER_SOURCE_COMMIT"
  let solanaPrimary ← safeProviderId world settings.solanaPrimary
  let solanaSecondary ← safeProviderId world settings.solanaSecondary
  let robinhoodPrimary ← safeProviderId world settings.robinhoodPrimary
  let robinhoodSecondary ← safeProviderId world settings.robinhoodSecondary
  .ok {
    inventoryId := inventoryId
    scannerSourceCommit := scannerSourceCommit
    generatedAt := world.now
    solanaProviderIds := [solanaPrimary, solanaSecondary]
    robinhoodProviderIds := [robinhoodPrimary, robinhoodSecondary]
    primary := primary
    secondary := secondary
    identities := {
      solana := ⟨productionSolanaEndpoint, productionSolanaOftProgram, settings.store⟩
      robinhood := ⟨productionRobinhoodEndpoint, settings.oft⟩ }
    layerZeroStatuses := some statuses }

/-- The requests run at once; the model makes those of the primary providers first. -/
def scanProductionInFlight (fuel : Nat) : Result InFlightManifest := do
  let settings ← scanSettings formats world
  let primary ← scanProviderPair host formats world fuel settings.solanaPrimary settings.robinhoodPrimary
    settings.toScanValues
  let secondary ← scanProviderPair host formats world fuel settings.solanaSecondary settings.robinhoodSecondary
    settings.toScanValues
  let statuses ← fetchLayerZeroStatuses host world.layerZeroScan primary.sourceMessages
  let input ← manifestInput world settings primary secondary statuses
  let manifest ← buildInFlightManifest host input
  let _ ← parseInFlightInventory host (manifestFile host manifest)
  .ok manifest

end Scanner

section Statuses

variable {host : Host} {scan : LayerZeroScan} {messages : List InFlightMessageEvidence} {m : InFlightMessageEvidence}
  {statuses : Statuses} {data : Option (List ScanEntry)} {name : String}

/-- The first entry of the GUID of a message has the status `name`, and the pathway of the message. -/
structure Names (host : Host) (entries : List ScanEntry) (m : InFlightMessageEvidence) (name : String) : Prop where
  notEmpty : name ≠ ""
  entry : ∃ entry, (entries.find? fun candidate => candidate.guid.map host.toLowerCase = some (sourceKey host m)) =
      some entry ∧ entry.statusName = some name ∧
    entry.srcEid = some (.finite (expectedEids m.direction).1) ∧
    entry.dstEid = some (.finite (expectedEids m.direction).2)

theorem entryStatus_eq_ok : entryStatus host data m = .ok name ↔
    ∃ entries, data = some entries ∧ Names host entries m name := by
  simp only [entryStatus, bind_eq_ok, require_eq_ok, decide_eq_true_eq, exists_const, Except.ok.injEq]
  constructor
  · rintro ⟨hne, ⟨hsrc, hdst⟩, rfl⟩
    obtain ⟨entry, hentry, _⟩ := Option.bind_eq_some_iff.mp hsrc
    rw [hentry, Option.bind_some] at hsrc hdst hne ⊢
    obtain ⟨entries, rfl⟩ : ∃ entries, data = some entries := by
      cases data with
      | none => cases hentry
      | some entries => exact ⟨entries, rfl⟩
    obtain ⟨name, hname⟩ : ∃ name, entry.statusName = some name := by
      cases hs : entry.statusName with
      | none =>
        rw [hs] at hne
        exact absurd rfl hne
      | some name => exact ⟨name, rfl⟩
    rw [hname, Option.getD_some] at hne ⊢
    exact ⟨entries, rfl, hne, entry, hentry, hname, hsrc, hdst⟩
  · rintro ⟨entries, rfl, hne, entry, hentry, hname, hsrc, hdst⟩
    rw [Option.getD_some, hentry, Option.bind_some, hname, Option.getD_some]
    exact ⟨hne, ⟨hsrc, hdst⟩, rfl⟩

/-- The service, asked for the transaction of a message, names its status. -/
structure Corroborates (host : Host) (scan : LayerZeroScan) (m : InFlightMessageEvidence) (name : String) : Prop where
  answer : ∃ entries, answerFor scan m.sourceTransaction = .ok (some entries) ∧ Names host entries m name

def reported (host : Host) (scan : LayerZeroScan) (m : InFlightMessageEvidence) : Option String :=
  (answerFor scan m.sourceTransaction >>= fun data => entryStatus host data m).toOption

theorem reported_eq_some : reported host scan m = some name ↔ Corroborates host scan m name := by
  rw [reported, toOption_eq_some, bind_eq_ok]
  simp only [entryStatus_eq_ok]
  constructor
  · rintro ⟨_, hanswer, entries, rfl, hnames⟩
    exact ⟨entries, hanswer, hnames⟩
  · rintro ⟨entries, hanswer, hnames⟩
    exact ⟨_, hanswer, entries, rfl, hnames⟩

theorem reported_of_answer (h : answerFor scan m.sourceTransaction = .ok data) :
    reported host scan m = some name ↔ entryStatus host data m = .ok name := by
  rw [reported, h, ok_bind, toOption_eq_some]

theorem recordStatus_eq_ok {t : Statuses} (h : answerFor scan m.sourceTransaction = .ok data) :
    recordStatus host data statuses m = .ok t ↔
      (∃ name, Corroborates host scan m name) ∧ t = record (sourceKey host) (reported host scan) statuses m := by
  rw [recordStatus, bind_eq_ok]
  simp only [← reported_of_answer h, ← reported_eq_some, Except.ok.injEq, record]
  constructor
  · rintro ⟨name, hname, rfl⟩
    exact ⟨⟨name, hname⟩, by rw [hname]⟩
  · rintro ⟨⟨name, hname⟩, rfl⟩
    exact ⟨name, hname, by rw [hname]⟩

theorem corroborateGroup_eq_ok {group : String × List InFlightMessageEvidence} {t : Statuses}
    (hg : Keyed InFlightMessageEvidence.sourceTransaction group) :
    corroborateGroup host scan statuses group = .ok t ↔
      (∀ m ∈ group.2, ∃ name, Corroborates host scan m name) ∧
        t = group.2.foldl (record (sourceKey host) (reported host scan)) statuses := by
  obtain ⟨hne, hkey⟩ := hg
  have hloop : ∀ data, answerFor scan group.1 = .ok data → (group.2.foldlM (recordStatus host data) statuses = .ok t ↔
      (∀ m ∈ group.2, ∃ name, Corroborates host scan m name) ∧
        t = group.2.foldl (record (sourceKey host) (reported host scan)) statuses) := by
    intro data hdata
    have hrecord : ∀ m ∈ group.2, ∀ s u, recordStatus host data s m = .ok u ↔
        (∃ name, Corroborates host scan m name) ∧ u = record (sourceKey host) (reported host scan) s m := by
      intro m hm s u
      rw [← hkey m hm] at hdata
      exact recordStatus_eq_ok hdata
    exact foldlM_eq_ok hrecord
  rw [corroborateGroup, bind_eq_ok]
  constructor
  · rintro ⟨data, hdata, hall⟩
    exact (hloop data hdata).mp hall
  · intro hall
    -- the answer for any message of the group is the answer for the group
    obtain ⟨m, hm⟩ := List.exists_mem_of_ne_nil _ hne
    obtain ⟨_, entries, hdata, _⟩ := hall.1 m hm
    rw [hkey m hm] at hdata
    exact ⟨_, hdata, (hloop _ hdata).mpr hall⟩

def requested (messages : List InFlightMessageEvidence) : List InFlightMessageEvidence :=
  (byTransaction messages).flatMap Prod.snd

theorem requested_perm (messages : List InFlightMessageEvidence) : (requested messages).Perm messages :=
  groupBy_perm messages

theorem mem_byTransaction : (∃ group ∈ byTransaction messages, m ∈ group.2) ↔ m ∈ messages := by
  rw [← (requested_perm messages).mem_iff, requested, List.mem_flatMap]

/-- The requests together succeed exactly when the service names a status for every message. -/
theorem fetchLayerZeroStatuses_eq_ok : fetchLayerZeroStatuses host scan messages = .ok statuses ↔
    (∀ m ∈ messages, ∃ name, Corroborates host scan m name) ∧
      statuses = (requested messages).foldl (record (sourceKey host) (reported host scan)) fun _ => none := by
  have hloop := foldlM_eq_ok (f := corroborateGroup host scan) (s := fun _ => none) (t := statuses)
    fun group hg s t => corroborateGroup_eq_ok (keyed_groupBy messages group hg)
  rw [fetchLayerZeroStatuses, byTransaction, hloop, requested, List.foldl_flatMap]
  refine and_congr_left fun _ => ⟨fun h m hm => ?_, fun h group hg m hm => ?_⟩
  · obtain ⟨group, hg, hm⟩ := mem_byTransaction.mpr hm
    exact h group hg m hm
  · exact h m (mem_byTransaction.mp ⟨group, hg, hm⟩)

theorem fetched_status (hd : (messages.map (sourceKey host)).Nodup)
    (h : fetchLayerZeroStatuses host scan messages = .ok statuses) (hm : m ∈ messages) :
    ∃ name, Corroborates host scan m name ∧ statuses (sourceKey host m) = some name := by
  obtain ⟨hall, rfl⟩ := fetchLayerZeroStatuses_eq_ok.mp h
  obtain ⟨name, hname⟩ := hall m hm
  have hd' := ((requested_perm messages).map (sourceKey host)).nodup_iff.mpr hd
  refine ⟨name, hname, ?_⟩
  rw [foldl_record_of_mem hd' ((requested_perm messages).mem_iff.mpr hm)]
  exact reported_eq_some.mpr hname

theorem fetched_none {guid : String} (h : fetchLayerZeroStatuses host scan messages = .ok statuses)
    (hguid : guid ∉ messages.map (sourceKey host)) : statuses guid = none := by
  obtain ⟨_, rfl⟩ := fetchLayerZeroStatuses_eq_ok.mp h
  exact foldl_record_of_not_mem (mt ((requested_perm messages).map (sourceKey host)).mem_iff.mp hguid)

end Statuses

section Pipeline

variable {host : Host} {formats : EvmFormats} {world : Surroundings} {fuel : Nat} {manifest : InFlightManifest}

theorem corroborates_settle {scan : LayerZeroScan} {statuses : Option Statuses} {p : Match} {name : String} :
    Corroborates host scan (settle host statuses p) name ↔ Corroborates host scan p.1 name := by
  have hsame : reported host scan (settle host statuses p) = reported host scan p.1 := by
    obtain ⟨source, _ | destination⟩ := p <;> rfl
  rw [← reported_eq_some, ← reported_eq_some, hsame]

theorem ne_of_fewerThanTwo {a b : String} (h : fewerThanTwo (some (.arr ([a, b].map Json.str))) = .ok false) :
    a ≠ b := by
  rintro rfl
  simp [fewerThanTwo, setSize, sameValueZero] at h

/-- What is published of the messages of a scan, told by the receipts it found and by the service. -/
structure Told (host : Host) (scan : LayerZeroScan) (receipts : List InFlightMessageEvidence)
    (m : InFlightMessageEvidence) : Prop where
  status : ∃ name, Corroborates host scan m name ∧ m.layerZeroApiStatus = some name ∧
    if ∃ d ∈ receipts, sourceKey host d = sourceKey host m then
      m.status = .delivered ∧ host.toUpperCase name ∈ ["DELIVERED", "CONFIRMING"]
    else m.status = unresolvedStatus host (some name) ∧ host.toUpperCase name ≠ "DELIVERED"

theorem published_told {input : BuildManifestInput} {inventory : InFlightInventory} {statuses : Statuses}
    {scan : LayerZeroScan} (hp : Published host input manifest inventory) (hi : input.layerZeroStatuses = some statuses)
    (hf : fetchLayerZeroStatuses host scan input.primary.sourceMessages = .ok statuses)
    {m : InFlightMessageEvidence} (hm : m ∈ manifest.messages) :
    Told host scan input.primary.destinationMessages m := by
  have hdelivered := hp.delivered_iff hm
  obtain ⟨o, hb, rfl⟩ := buildInFlightManifest_eq_ok.mp hp.1
  obtain ⟨p, hpair, rfl⟩ := List.mem_map.mp ((messagesOf_perm host input).mem_iff.mp hm)
  obtain ⟨name, hname, hstatus⟩ := fetched_status hp.distinct hf (source_of_pairing hpair).1
  have hcompatible := hb.compatible p hpair
  obtain ⟨source, _ | destination⟩ := p
  · rw [hi] at hcompatible hdelivered ⊢
    refine ⟨name, corroborates_settle.mpr hname, hstatus, ?_⟩
    rw [if_neg (mt hdelivered.mpr unresolvedStatus_ne_delivered)]
    have hapi : apiStatusOf (some statuses) (sourceKey host source) = some name := hstatus
    rw [Compatible, hapi, Option.map_some, ne_eq, Option.some.injEq] at hcompatible
    exact ⟨congrArg (unresolvedStatus host) hapi, hcompatible⟩
  · rw [hi] at hcompatible hdelivered ⊢
    refine ⟨name, corroborates_settle.mpr hname, hstatus, ?_⟩
    rw [if_pos (hdelivered.mp rfl)]
    have hapi : apiStatusOf (some statuses) (sourceKey host source) = some name := hstatus
    obtain ⟨_, _, hnames⟩ := hname.answer
    rw [Compatible, hapi, Option.getD_some] at hcompatible
    exact ⟨rfl, hcompatible.2.resolve_left hnames.notEmpty⟩

theorem published_providers {input : BuildManifestInput} {inventory : InFlightInventory} {a b c d : String}
    (hp : Published host input manifest inventory) (hs : input.solanaProviderIds = [a, b])
    (hr : input.robinhoodProviderIds = [c, d]) : a ≠ b ∧ c ≠ d := by
  obtain ⟨o, _, rfl⟩ := buildInFlightManifest_eq_ok.mp hp.1
  obtain ⟨_, hacc, _⟩ := hp.accepted
  have hprovenance := hacc.provenance
  simp only [validateProvenance, bind_eq_ok, require_eq_ok, decide_eq_true_eq, Bool.not_eq_true', exists_const]
    at hprovenance
  obtain ⟨_, _, _, _, hsolana, rfl, _, hrobinhood, ⟨rfl, _⟩, _⟩ := hprovenance
  have hsolana' : fewerThanTwo (some (.arr (input.solanaProviderIds.map Json.str))) = .ok false := hsolana
  have hrobinhood' : fewerThanTwo (some (.arr (input.robinhoodProviderIds.map Json.str))) = .ok false := hrobinhood
  rw [hs] at hsolana'
  rw [hr] at hrobinhood'
  exact ⟨ne_of_fewerThanTwo hsolana', ne_of_fewerThanTwo hrobinhood'⟩

/-- The input made of two scans: what they found, as it is, under the identities of the settings. -/
theorem manifestInput_eq_ok {settings : ScanSettings} {primary secondary : ScannerProviderResult} {statuses : Statuses}
    {input : BuildManifestInput} (h : manifestInput world settings primary secondary statuses = .ok input) :
    input.primary = primary ∧ input.secondary = secondary ∧ input.layerZeroStatuses = some statuses ∧
      (∃ a b, safeProviderId world settings.solanaPrimary = .ok a ∧
        safeProviderId world settings.solanaSecondary = .ok b ∧ input.solanaProviderIds = [a, b]) ∧
      ∃ a b, safeProviderId world settings.robinhoodPrimary = .ok a ∧
        safeProviderId world settings.robinhoodSecondary = .ok b ∧ input.robinhoodProviderIds = [a, b] := by
  simp only [manifestInput, bind_eq_ok, Except.ok.injEq] at h
  obtain ⟨_, _, _, _, a, ha, b, hb, c, hc, d, hd, rfl⟩ := h
  exact ⟨rfl, rfl, rfl, ⟨a, b, ha, hb, rfl⟩, c, d, hc, hd, rfl⟩

/-- The evidence behind a published manifest: two providers of each chain, not of the same protocol and host, found
the same, and every message is listed once, as the receipts and the service tell of it. -/
structure Reconciled (host : Host) (formats : EvmFormats) (world : Surroundings) (fuel : Nat) (settings : ScanSettings)
    (manifest : InFlightManifest) : Prop where
  solanaProviders : safeProviderId world settings.solanaPrimary ≠ safeProviderId world settings.solanaSecondary
  robinhoodProviders : safeProviderId world settings.robinhoodPrimary ≠ safeProviderId world settings.robinhoodSecondary
  evidence : ∃ primary secondary,
    scanProviderPair host formats world fuel settings.solanaPrimary settings.robinhoodPrimary settings.toScanValues =
        .ok primary ∧
      scanProviderPair host formats world fuel settings.solanaSecondary settings.robinhoodSecondary
        settings.toScanValues = .ok secondary ∧
      providerComparable host primary = providerComparable host secondary ∧
      (manifest.messages.map (sourceKey host)).Perm (primary.sourceMessages.map (sourceKey host)) ∧
      (manifest.messages.map (sourceKey host)).Nodup ∧
      ∀ m ∈ manifest.messages, Told host world.layerZeroScan primary.destinationMessages m

theorem listed_perm {input : BuildManifestInput} {o : Outstanding} :
    ((manifestOf host input o).messages.map (sourceKey host)).Perm
      (input.primary.sourceMessages.map (sourceKey host)) := by
  have hperm := (messagesOf_perm host input).map (sourceKey host)
  have hkeys : ((pairing host input.primary).map (settle host input.layerZeroStatuses)).map (sourceKey host) =
      input.primary.sourceMessages.map (sourceKey host) := by
    rw [← pairing_fst host, List.map_map, List.map_map]
    refine List.map_congr_left fun p _ => ?_
    rw [Function.comp_apply, sourceKey, settle_guid]
    rfl
  rwa [hkeys] at hperm

end Pipeline

section Sample

open Library.BigEndian System.Bridge Tooling.Evidence Tooling.Extraction Tooling.Correspondence Tooling.Settlement
open Solana.Program (pubkey)

variable {host : Host}

def reportOf (name : String) (m : InFlightMessageEvidence) : ScanEntry where
  guid := some m.guid
  srcEid := some (.finite (expectedEids m.direction).1)
  dstEid := some (.finite (expectedEids m.direction).2)
  statusName := some name

def serviceOf (messages : List InFlightMessageEvidence) (name : String) : LayerZeroScan := fun transaction =>
  .ok ⟨true, 200, .ok (some ((messages.filter fun m => m.sourceTransaction = transaction).map (reportOf name)))⟩

theorem corroborates_serviceOf {messages : List InFlightMessageEvidence} {name : String} (hne : name ≠ "")
    (hd : (messages.map (sourceKey host)).Nodup) {m : InFlightMessageEvidence} (hm : m ∈ messages) :
    Corroborates host (serviceOf messages name) m name := by
  have hlisted : m ∈ messages.filter fun m' => m'.sourceTransaction = m.sourceTransaction :=
    List.mem_filter.mpr ⟨hm, decide_eq_true rfl⟩
  have hsame : ∀ m' ∈ messages, some (sourceKey host m') = some (sourceKey host m) → m' = m := fun m' hm' hkey =>
    List.inj_on_of_nodup_map hd hm' hm (Option.some.inj hkey)
  have hfind : (messages.filter fun m' => m'.sourceTransaction = m.sourceTransaction).find?
      (fun m' => some (sourceKey host m') = some (sourceKey host m)) = some m := by
    cases hfound : (messages.filter fun m' => m'.sourceTransaction = m.sourceTransaction).find?
        fun m' => some (sourceKey host m') = some (sourceKey host m) with
    | none => exact absurd (decide_eq_true rfl) (List.find?_eq_none.mp hfound m hlisted)
    | some m' =>
      have hkey := List.find?_some hfound
      rw [decide_eq_true_eq] at hkey
      rw [hsame m' (List.mem_of_mem_filter (List.mem_of_find?_eq_some hfound)) hkey]
  refine ⟨_, rfl, hne, reportOf name m, ?_, rfl, rfl, rfl⟩
  rw [List.find?_map]
  exact congrArg (Option.map (reportOf name)) hfind

/-! The transfer of 9 tokens from Robinhood that is still on its way, scanned. -/

def abiWord (data : List Char) (index : Nat) : List Char := (data.drop (64 * index)).take 64

def parseSent (log : Log) : Option OftLog :=
  match log.topics with
  | [topic, guid, fromAddress] =>
    if topic = "0x85496b760a4b7f8d66384b9df21b381f5d1b1e79f229a47aaf4c232edc2fe59a" then do
      let data := log.data.toList.drop 2
      let dstEid ← radixValue 16 (abiWord data 0)
      let amountSentLD ← radixValue 16 (abiWord data 1)
      let amountReceivedLD ← radixValue 16 (abiWord data 2)
      some (.oftSent guid dstEid ("0x" ++ String.ofList (fromAddress.toList.drop 26)) amountSentLD amountReceivedLD)
    else none
  | _ => none

def abiBytes (data : List Char) (index : Nat) : Option String := do
  let offset ← radixValue 16 (abiWord data index)
  let length ← radixValue 16 ((data.drop (2 * offset)).take 64)
  some ("0x" ++ String.ofList ((data.drop (2 * offset + 64)).take (2 * length)))

def parsePacketSent (log : Log) : Option PacketSent :=
  if log.topics = ["0x1ab700d4ced0c005b164c0f789fd09fcbb0156d4c2041b8a3bfbcd961cd1567f"] then do
    let data := log.data.toList.drop 2
    let encodedPayload ← abiBytes data 0
    let options ← abiBytes data 1
    some ⟨encodedPayload, options, "0x" ++ String.ofList ((abiWord data 2).drop 24)⟩
  else none

def waitingFormats : EvmFormats :=
  { transferFormats with
    toAddressFormats := plainFormats []
    parseOftLog := parseSent
    parseEndpointLog := parsePacketSent }

def waitingPacket : Packet where
  dstEid := 30168
  sender := lowRecipient
  receiver := pubkey 9
  guid := pubkey 17
  nonce := 1
  message := (pubkey 27).toList ++ beBytes 8 9

def waitingPayload : Bytes := encodePacket 30416 waitingPacket

def packetData : Bytes :=
  beBytes 32 96 ++ beBytes 32 288 ++ beBytes 32 34 ++ beBytes 32 153 ++ waitingPayload ++ List.replicate 7 0 ++
    beBytes 32 0

def packetLog : Log where
  address := productionRobinhoodEndpoint
  topics := ["0x1ab700d4ced0c005b164c0f789fd09fcbb0156d4c2041b8a3bfbcd961cd1567f"]
  data := hexText packetData
  transactionHash := hashOf 'a'
  blockNumber := 205
  blockHash := hashOf 'b'
  logIndex := 1

def sentData : Bytes := beBytes 32 30168 ++ beBytes 32 9 ++ beBytes 32 9

def sentLog : Log where
  address := sampleOft
  topics := ["0x85496b760a4b7f8d66384b9df21b381f5d1b1e79f229a47aaf4c232edc2fe59a", hexText (pubkey 17).toList,
    hexText (List.replicate 12 0 ++ List.replicate 20 34)]
  data := hexText sentData
  transactionHash := hashOf 'a'
  blockNumber := 205
  blockHash := hashOf 'b'
  logIndex := 0

def waitingNode : RobinhoodRpc where
  getNetwork := .ok 4663
  finalizedBlock := .ok (some ⟨some "0xd2", some (hashOf 'f')⟩)
  getBlock number := .ok (if number = 200 then some (hashOf 'e') else if number = 210 then some (hashOf 'f') else none)
  getLogs address first last := .ok ([sentLog].filter fun log =>
    log.address = address ∧ first ≤ log.blockNumber ∧ log.blockNumber ≤ last)
  getTransactionReceipt hash := .ok (if hash = hashOf 'a' then some ⟨some 1, [packetLog, sentLog]⟩ else none)

def quietTx : Solana.Tenants.Transaction := ⟨"quiet", 105, false, []⟩

def waitingWorld : Surroundings where
  env name := List.lookup name [("SOLANA_MAINNET_RPC_URL", "https://provider-a.example"),
    ("SOLANA_MAINNET_SECONDARY_RPC_URL", "https://provider-b.example"),
    ("ROBINHOOD_RPC_URL", "https://provider-a.example"),
    ("ROBINHOOD_SECONDARY_RPC_URL", "https://provider-b.example"), ("SAN_SCAN_SOLANA_FROM_SLOT", "100"),
    ("SAN_SCAN_SOLANA_TO_SLOT", "105"), ("SAN_SCAN_ROBINHOOD_FROM_BLOCK", "200"),
    ("SAN_SCAN_ROBINHOOD_TO_BLOCK", "210"), ("SAN_SOLANA_OFT_STORE", approvedStore),
    ("SAN_ROBINHOOD_OFT_ADDRESS", sampleOft), ("SAN_APPROVED_IN_FLIGHT_INVENTORY_ID", "review-1"),
    ("SAN_SCANNER_SOURCE_COMMIT", String.ofList (List.replicate 40 '1'))]
  toNumber text := .finite (decimalValue text)
  parseUrl url :=
    let rest := url.toList.dropWhile fun c => c ≠ '/'
    .ok (String.ofList (url.toList.takeWhile fun c => c ≠ '/'),
      String.ofList ((rest.drop 2).takeWhile fun c => c ≠ '/'))
  now := "2026-09-03T00:00:00.000Z"
  solana _ := nodeOf waitingFormats.toScanFormats sampleProgram [quietTx] 1000
  robinhood _ := waitingNode
  layerZeroScan := serviceOf [transferEvidence] "INFLIGHT"

def waitingSettings : ScanSettings where
  solanaFrom := 100
  solanaTo := 105
  robinhoodFrom := 200
  robinhoodTo := 210
  store := approvedStore
  oft := sampleOft
  solanaPrimary := "https://provider-a.example"
  solanaSecondary := "https://provider-b.example"
  robinhoodPrimary := "https://provider-a.example"
  robinhoodSecondary := "https://provider-b.example"

theorem waiting_settings : scanSettings waitingFormats waitingWorld = .ok waitingSettings :=
  toOption_eq_some.mp (by decide +kernel)

def digitsOf (bytes : Bytes) : List Char :=
  bytes.flatMap fun b => [Nat.digitChar (b.toNat / 16), Nat.digitChar (b.toNat % 16)]

theorem drop_hexText (bytes : Bytes) : (hexText bytes).toList.drop 2 = digitsOf bytes := by
  rw [toList_hexText, List.drop_succ_cons, List.drop_succ_cons, List.drop_zero, toList_hexDigest]
  rfl

theorem packetLog_parsed :
    ∃ sent, parsePacketSent packetLog = some sent ∧ sent.encodedPayload = hexText waitingPayload := by
  have hoffset : radixValue 16 (abiWord (digitsOf packetData) 0) = some 96 := by decide +kernel
  have hlength : radixValue 16 (((digitsOf packetData).drop (2 * 96)).take 64) = some 153 := by decide +kernel
  have hpayload : ((digitsOf packetData).drop (2 * 96 + 64)).take (2 * 153) = digitsOf waitingPayload := by
    decide +kernel
  have hoptions : radixValue 16 (abiWord (digitsOf packetData) 1) = some 288 := by decide +kernel
  have hempty : radixValue 16 (((digitsOf packetData).drop (2 * 288)).take 64) = some 0 := by decide +kernel
  have hdata : packetLog.data.toList.drop 2 = digitsOf packetData := drop_hexText _
  have hbytes : abiBytes (digitsOf packetData) 0 = some (hexText waitingPayload) := by
    simp only [abiBytes, hoffset, hlength, hpayload, Option.bind_eq_bind, Option.bind_some]
    rfl
  obtain ⟨options, hoptions⟩ : ∃ options, abiBytes (digitsOf packetData) 1 = some options := by
    simp only [abiBytes, hoptions, hempty, Option.bind_eq_bind, Option.bind_some, Option.some.injEq, exists_eq']
  have htopics : packetLog.topics = ["0x1ab700d4ced0c005b164c0f789fd09fcbb0156d4c2041b8a3bfbcd961cd1567f"] := rfl
  rw [parsePacketSent, if_pos htopics]
  simp only [hdata, hbytes, hoptions, Option.bind_eq_bind, Option.bind_some, Option.some.injEq, exists_eq_left']

theorem waiting_packets : packetsOf host waitingFormats ⟨some 1, [packetLog, sentLog]⟩ =
    .ok [decodePacket waitingPayload] := by
  obtain ⟨sent, hsent, hpayload⟩ := packetLog_parsed
  have hother : parsePacketSent sentLog = none := if_neg (by decide)
  have hparsed : ([packetLog, sentLog].filter fun entry =>
      host.toLowerCase entry.address = host.toLowerCase productionRobinhoodEndpoint).filterMap parsePacketSent =
        [sent] := by
    have hendpoint : decide (host.toLowerCase packetLog.address =
        host.toLowerCase productionRobinhoodEndpoint) = true := decide_eq_true rfl
    rw [List.filter_cons, if_pos hendpoint, List.filterMap_cons_some hsent, List.filter_cons]
    split_ifs
    · rw [List.filterMap_cons_none hother]
      rfl
    · rfl
  have hread : waitingFormats.packetFrom sent.encodedPayload = .ok (decodePacket waitingPayload) := by
    rw [hpayload]
    change Except.ok (decodePacket (bufferFromHex ((hexText waitingPayload).toList.drop 2))) = _
    rw [toList_hexText, List.drop_succ_cons, List.drop_succ_cons, List.drop_zero, bufferFromHex_hexDigest]
  change List.mapM _ (List.filterMap parsePacketSent _) = _
  rw [hparsed, mapM_eq_ok]
  exact .cons hread .nil

theorem waiting_sent : RobinhoodScan.sentEvidence host waitingFormats waitingNode sampleOft approvedStore sentLog
    (hexText (pubkey 17).toList) 9 = .ok transferEvidence := by
  have hreads : ReadsEvmPacket 30416 waitingPacket (decodePacket waitingPayload) := decodePacket_encodePacket _ _
  have hguid : host.toLowerCase (decodePacket waitingPayload).guid = host.toLowerCase (hexText (pubkey 17).toList) := by
    rw [hreads.guid]
    rfl
  have hsender : host.toLowerCase (decodePacket waitingPayload).senderAddressB20 = host.toLowerCase sampleOft := by
    have htext : hexText (waitingPacket.sender.toList.drop 12) = sampleOft := by decide +kernel
    rw [hreads.senderAddressB20, htext]
  have hreceiver : host.toLowerCase (decodePacket waitingPayload).receiver =
      host.toLowerCase (hexText (pubkey 9).toList) := by
    rw [hreads.receiver]
    rfl
  have hmessage : readOftReceiver (decodePacket waitingPayload).message = .ok (hexText (pubkey 27).toList) := by
    rw [hreads.message, readOftReceiver_hexText (by decide)]
    rfl
  have hfind : [decodePacket waitingPayload].find? (fun packet =>
      host.toLowerCase packet.guid = host.toLowerCase (hexText (pubkey 17).toList)) =
        some (decodePacket waitingPayload) :=
    List.find?_cons_of_pos (decide_eq_true hguid)
  have hnonce : (decodePacket waitingPayload).nonce = toString 1 := by decide +kernel
  have hkey : waitingFormats.publicKey (some (.str approvedStore)) = some (pubkey 9) :=
    waitingFormats.publicKey_toBase58 _
  have hoft : waitingFormats.getAddress (some (.str sampleOft)) = some sampleOft := by decide +kernel
  simp only [RobinhoodScan.sentEvidence, bind_eq_ok, ofOption_eq_ok, require_eq_ok, decide_eq_true_eq]
  refine ⟨_, rfl, _, rfl, _, waiting_packets, _, hfind, (), ⟨hreads.srcEid, hreads.dstEid, hsender⟩, pubkey 9, ?_, (),
    hreceiver, sampleOft, ?_, _, hmessage, ?_⟩
  · rw [getPublicKey, hkey]
    rfl
  · rw [getAddress, hoft]
    rfl
  · have htx : host.toLowerCase sentLog.transactionHash = hashOf 'a' :=
      toLowerCase_of_lower host (hashOf_lower (by decide))
    have hblock : host.toLowerCase sentLog.blockHash = hashOf 'b' :=
      toLowerCase_of_lower host (hashOf_lower (by decide))
    rw [hnonce, toLowerCase_hexText, htx, hblock]
    rfl

theorem sentLog_parsed :
    ∃ fromAddress, parseSent sentLog = some (.oftSent (hexText (pubkey 17).toList) 30168 fromAddress 9 9) := by
  have hdst : radixValue 16 (abiWord (digitsOf sentData) 0) = some 30168 := by decide +kernel
  have hsent : radixValue 16 (abiWord (digitsOf sentData) 1) = some 9 := by decide +kernel
  have hreceived : radixValue 16 (abiWord (digitsOf sentData) 2) = some 9 := by decide +kernel
  simp only [parseSent, sentLog, drop_hexText, hdst, hsent, hreceived, if_true, Option.bind_eq_bind,
    Option.bind_some, Option.some.injEq, OftLog.oftSent.injEq, true_and, and_true, exists_eq']

theorem waiting_visit :
    RobinhoodScan.visitLog host waitingFormats waitingNode sampleOft approvedStore ⟨[], []⟩ sentLog =
      .ok ⟨[transferEvidence], []⟩ := by
  obtain ⟨fromAddress, hparsed⟩ := sentLog_parsed
  have hlog : waitingFormats.parseOftLog sentLog = some (.oftSent (hexText (pubkey 17).toList) 30168 fromAddress 9 9) :=
    hparsed
  rw [RobinhoodScan.visitLog, hlog]
  exact bind_eq_ok.mpr ⟨_, waiting_sent, rfl⟩

def waitingRanges : ScanRangeEvidence where
  solana := ⟨toString 100, toString 105, toString 105, solanaMainnetGenesisHash, toString 100, toString 105, true, true⟩
  robinhood := ⟨toString 200, toString 210, toString 210, hashOf 'e', hashOf 'f', true, true⟩

theorem waiting_robinhood : scanRobinhood host waitingFormats waitingNode 2 200 210 sampleOft approvedStore pageSize =
    .ok ⟨waitingRanges.robinhood, [transferEvidence], []⟩ := by
  have hstart : host.toLowerCase (hashOf 'e') = hashOf 'e' := toLowerCase_of_lower host (hashOf_lower (by decide))
  have hend : host.toLowerCase (hashOf 'f') = hashOf 'f' := toLowerCase_of_lower host (hashOf_lower (by decide))
  have hhead : stringToBigInt "0xd2" = .ok 210 := toOption_eq_some.mp (by decide +kernel)
  have hwindows : scanWindows host waitingFormats waitingNode sampleOft approvedStore 210 pageSize 2 200 ⟨[], []⟩ =
      .ok ⟨[transferEvidence], []⟩ := by
    have hlogs : waitingNode.getLogs sampleOft 200 (min (200 + pageSize - 1) 210) = .ok [sentLog] :=
      congrArg Except.ok (List.filter_cons_of_pos (decide_eq_true ⟨rfl, by decide, by decide⟩))
    rw [scanWindows, if_neg (by decide), hlogs, ok_bind, List.foldlM_cons, waiting_visit, ok_bind]
    rfl
  simp only [scanRobinhood, bind_eq_ok, require_eq_ok, decide_eq_true_eq]
  refine ⟨4663, rfl, (), rfl, _, rfl, (), ⟨by decide, by decide⟩, 210, hhead, (), rfl, some (hashOf 'e'), rfl,
    some (hashOf 'f'), rfl, (), ⟨by decide, by decide, fun _ => rfl⟩, _, hwindows, ?_⟩
  rw [Option.getD_some, Option.getD_some, hstart, hend]
  rfl

theorem waiting_solana : scanSolana host waitingFormats.toScanFormats
    (nodeOf waitingFormats.toScanFormats sampleProgram [quietTx] 1000) 2 100 105 approvedStore sampleOft =
      .ok ⟨waitingRanges.solana, [], []⟩ := by
  have hsignatures :
    collectSignatures (nodeOf waitingFormats.toScanFormats sampleProgram [quietTx] 1000) 100 105 2 none =
      .ok ([infoOf quietTx], true) := rfl
  simp only [scanSolana, bind_eq_ok]
  refine ⟨105, rfl, (), rfl, 0, rfl, (), rfl, toString (100 : Int), rfl, toString (105 : Int), rfl, _, rfl, (), rfl,
    _, hsignatures, (), rfl, ⟨[], []⟩, rfl, rfl⟩

def waitingFound : ScannerProviderResult := ⟨waitingRanges, [transferEvidence], []⟩

theorem waiting_pair (solanaRpc robinhoodRpc : String) :
    scanProviderPair host waitingFormats waitingWorld 2 solanaRpc robinhoodRpc waitingSettings.toScanValues =
      .ok waitingFound := by
  rw [scanProviderPair, bind_eq_ok]
  exact ⟨_, waiting_solana, bind_eq_ok.mpr ⟨_, waiting_robinhood, rfl⟩⟩

def waitingStatuses : Statuses := Function.update (fun _ => none) transferEvidence.guid (some "INFLIGHT")

theorem waiting_corroborated : Corroborates host waitingWorld.layerZeroScan transferEvidence "INFLIGHT" :=
  have hd : ([transferEvidence].map (sourceKey host)).Nodup := List.nodup_singleton _
  corroborates_serviceOf (by decide) hd (List.mem_singleton_self _)

theorem waiting_statuses : fetchLayerZeroStatuses host waitingWorld.layerZeroScan waitingFound.sourceMessages =
    .ok waitingStatuses := by
  have hkey : sourceKey host transferEvidence = transferEvidence.guid := toLowerCase_hexText _
  refine fetchLayerZeroStatuses_eq_ok.mpr ⟨fun m hm => ?_, ?_⟩
  · obtain rfl := List.mem_singleton.mp hm
    exact ⟨_, waiting_corroborated⟩
  · change waitingStatuses = Function.update _ (sourceKey host transferEvidence) (reported host _ transferEvidence)
    rw [hkey, reported_eq_some.mpr waiting_corroborated]
    rfl

def waitingInput : BuildManifestInput :=
  { sampleInput 9 with
    solanaProviderIds := ["https://provider-a.example", "https://provider-b.example"]
    robinhoodProviderIds := ["https://provider-a.example", "https://provider-b.example"]
    primary := waitingFound
    secondary := waitingFound
    identities := ⟨⟨productionSolanaEndpoint, productionSolanaOftProgram, approvedStore⟩,
      ⟨productionRobinhoodEndpoint, sampleOft⟩⟩
    layerZeroStatuses := some waitingStatuses }

theorem waiting_input : manifestInput waitingWorld waitingSettings waitingFound waitingFound waitingStatuses =
    .ok waitingInput := by
  have hid : required waitingWorld "SAN_APPROVED_IN_FLIGHT_INVENTORY_ID" = .ok "review-1" :=
    toOption_eq_some.mp (by decide +kernel)
  have hcommit : required waitingWorld "SAN_SCANNER_SOURCE_COMMIT" = .ok (String.ofList (List.replicate 40 '1')) :=
    toOption_eq_some.mp (by decide +kernel)
  have hprovider : ∀ url ids, (safeProviderId waitingWorld url).toOption = some ids →
      safeProviderId waitingWorld url = .ok ids := fun _ _ => toOption_eq_some.mp
  simp only [manifestInput, bind_eq_ok]
  have hfirst := hprovider "https://provider-a.example" "https://provider-a.example" (by decide +kernel)
  have hsecond := hprovider "https://provider-b.example" "https://provider-b.example" (by decide +kernel)
  exact ⟨_, hid, _, hcommit, _, hfirst, _, hsecond, _, hfirst, _, hsecond, rfl⟩

/-- The SHA-256 digest of its manifest. -/
def waitingDigest : Vector UInt8 32 :=
  #v[18, 164, 31, 5, 119, 163, 66, 154, 154, 140, 124, 46, 115, 42, 35, 172, 104, 107, 76, 121, 233, 9, 28, 251,
    182, 188, 210, 232, 92, 149, 171, 213]

def waitingManifest : InFlightManifest :=
  ⟨unsignedManifest waitingInput
      [leaveUnresolved (plainHost waitingDigest) transferEvidence (some "INFLIGHT")] ⟨0, 9, 1⟩,
    "0x" ++ hexDigest waitingDigest.toList⟩

def waitingHost : Host := readingHost waitingDigest waitingManifest.toJson waitingManifest.keysDistinct

theorem waiting_scanned : ScannedEvidence waitingInput waitingStatuses where
  inventoryId := (sampleInput_scanned 9).inventoryId
  scannerSourceCommit := (sampleInput_scanned 9).scannerSourceCommit
  generatedAt := (sampleInput_scanned 9).generatedAt
  solanaProviders := ⟨"https://provider-a.example", "https://provider-b.example", by decide, rfl⟩
  robinhoodProviders := ⟨"https://provider-a.example", "https://provider-b.example", by decide, rfl⟩
  identities := ⟨by decide +kernel, (sampleInput_scanned 9).identities.2⟩
  secondary := rfl
  ranges := {
    solana := ⟨100, 105, rfl, rfl, rfl, by decide, by decide⟩
    robinhood := ⟨200, 210, rfl, rfl, rfl, by decide, by decide⟩
    complete := ⟨rfl, rfl, rfl, rfl⟩
    genesisHash := rfl
    solanaHashes := (by decide : blank "100" = false ∧ blank "105" = false)
    robinhoodHashes := ⟨isHash32_of_lower (hashOf_lower (by decide)), isHash32_of_lower (hashOf_lower (by decide))⟩ }
  sources := by
    intro s hs
    obtain rfl := List.mem_singleton.mp hs
    exact {
      guid := isLowerHash32_of_digits (by decide) (List.all_eq_true.mp (by decide))
      sourceNonce := ⟨1, by decide, rfl⟩
      sourceTransaction := blank_of_isHash32 (isHash32_of_lower (hashOf_lower (by decide)))
      sourceHeight := ⟨205, 200, 210, rfl, rfl, by decide, by decide⟩
      sourceBlockHash := isHash32_of_lower (hashOf_lower (by decide))
      sourceEventIndex := ⟨0, by decide, rfl⟩
      pathway := ⟨rfl, rfl⟩
      amountRaw := ⟨9, rfl⟩
      receiver := isLowerHash32_of_digits (by decide) (List.all_eq_true.mp (by decide))
      status := rfl
      destination := ⟨rfl, rfl, rfl⟩
      layerZeroApiStatus := rfl }
  distinct := List.nodup_singleton _
  destinations := by
    intro d hd
    cases hd
  layerZeroStatuses := rfl
  known := by
    intro s hs
    obtain rfl := List.mem_singleton.mp hs
    rw [waitingStatuses, Function.update_self]
    rfl

theorem waiting_api :
    apiStatusOf waitingInput.layerZeroStatuses (sourceKey host transferEvidence) = some "INFLIGHT" := by
  have hkey : sourceKey host transferEvidence = transferEvidence.guid := toLowerCase_hexText _
  have hstatus : waitingStatuses transferEvidence.guid = some "INFLIGHT" := by
    rw [waitingStatuses, Function.update_self]
  rw [hkey]
  exact hstatus

theorem waiting_messages : messagesOf waitingHost waitingInput =
    [leaveUnresolved (plainHost waitingDigest) transferEvidence (some "INFLIGHT")] := by
  change [leaveUnresolved waitingHost transferEvidence (apiStatusOf waitingInput.layerZeroStatuses _)] = _
  rw [waiting_api]
  rfl

theorem waiting_built : Built waitingHost waitingInput ⟨0, 9, 1⟩ where
  agreement := rfl
  distinct := List.nodup_nil
  compatible := by
    intro p hp
    obtain rfl := List.mem_singleton.mp hp
    change (apiStatusOf waitingInput.layerZeroStatuses (sourceKey waitingHost transferEvidence)).map _ ≠
      some "DELIVERED"
    rw [waiting_api]
    decide
  consumed := rfl
  totals := by
    rw [waiting_messages]
    rfl

theorem waiting_manifest : manifestOf waitingHost waitingInput ⟨0, 9, 1⟩ = waitingManifest := by
  rw [manifestOf, waiting_messages]
  rfl

theorem waiting_reads :
    waitingHost.jsonParse (manifestFile waitingHost waitingManifest) = some waitingManifest.toJson :=
  readingHost_reads waitingDigest waitingManifest.toJson waitingManifest.keysDistinct

theorem waiting_accepted : ∃ inventory,
    parseInFlightInventory waitingHost (manifestFile waitingHost waitingManifest) = .ok inventory := by
  have haccepted := waiting_scanned.accepted waiting_built
    (by
      intro s hs
      obtain rfl := List.mem_singleton.mp hs
      decide)
    (by
      intro s hs api hapi
      obtain rfl := List.mem_singleton.mp hs
      rw [waitingStatuses, Function.update_self] at hapi
      obtain rfl := Option.some.inj hapi
      decide)
  rw [waiting_manifest] at haccepted
  exact ⟨_, parseInFlightInventory_eq_ok.mpr ⟨_, _, _, waiting_reads, haccepted, rfl⟩⟩

theorem scan_waiting : scanProductionInFlight waitingHost waitingFormats waitingWorld 2 = .ok waitingManifest := by
  have hbuild : buildInFlightManifest waitingHost waitingInput = .ok waitingManifest :=
    buildInFlightManifest_eq_ok.mpr ⟨_, waiting_built, waiting_manifest.symm⟩
  obtain ⟨inventory, hparse⟩ := waiting_accepted
  simp only [scanProductionInFlight, bind_eq_ok]
  exact ⟨_, waiting_settings, _, waiting_pair _ _, _, waiting_pair _ _, _, waiting_statuses, _, waiting_input, _,
    hbuild, _, hparse, rfl⟩

/-- Two transactions, of which one sends twice. -/
def spreadMessages : List InFlightMessageEvidence :=
  [transferEvidence, { transferEvidence with guid := hashOf '2', sourceTransaction := hashOf 'c' },
    { transferEvidence with guid := hashOf '3' }]

end Sample

section Results

variable {host : Host} {formats : EvmFormats} {world : Surroundings} {fuel : Nat} {manifest : InFlightManifest}
  {scan : LayerZeroScan} {messages : List InFlightMessageEvidence} {statuses : Statuses}

/-- The statuses of messages of distinct GUIDs are those the service names, and no others,
however the messages are spread over the transactions. -/
theorem statuses_corroborated (hd : (messages.map (sourceKey host)).Nodup) :
    fetchLayerZeroStatuses host scan messages = .ok statuses ↔
      (∀ m ∈ messages, ∃ name, Corroborates host scan m name ∧ statuses (sourceKey host m) = some name) ∧
        ∀ guid, guid ∉ messages.map (sourceKey host) → statuses guid = none := by
  constructor
  · intro h
    exact ⟨fun m hm => fetched_status hd h hm, fun guid hguid => fetched_none h hguid⟩
  · rintro ⟨hall, hnone⟩
    have hfetch := fetchLayerZeroStatuses_eq_ok.mpr ⟨fun m hm => (hall m hm).imp fun _ h => h.1, rfl⟩
    rw [hfetch, Except.ok.injEq]
    funext guid
    by_cases hguid : guid ∈ messages.map (sourceKey host)
    · obtain ⟨m, hm, rfl⟩ := List.mem_map.mp hguid
      obtain ⟨name, hname, hstatus⟩ := hall m hm
      obtain ⟨name', hname', hstatus'⟩ := fetched_status hd hfetch hm
      rw [hstatus, hstatus', ← reported_eq_some.mpr hname, reported_eq_some.mpr hname']
    · rw [hnone guid hguid, fetched_none hfetch hguid]

theorem statuses_corroborated_spread : ∃ statuses,
    fetchLayerZeroStatuses (plainHost waitingDigest) (serviceOf spreadMessages "CONFIRMING") spreadMessages =
        .ok statuses ∧
      (∀ m ∈ spreadMessages, ∃ name,
        Corroborates (plainHost waitingDigest) (serviceOf spreadMessages "CONFIRMING") m name ∧
          statuses (sourceKey (plainHost waitingDigest) m) = some name) ∧
      ∀ guid, guid ∉ spreadMessages.map (sourceKey (plainHost waitingDigest)) → statuses guid = none := by
  have hd : (spreadMessages.map (sourceKey (plainHost waitingDigest))).Nodup := by decide +kernel
  have hfetch := fetchLayerZeroStatuses_eq_ok.mpr
    ⟨fun m hm => ⟨"CONFIRMING", corroborates_serviceOf (by decide) hd hm⟩, rfl⟩
  exact ⟨_, hfetch, (statuses_corroborated hd).mp hfetch⟩

/-- A manifest that a scan publishes, and that reads back as it was written, is reconciled. -/
theorem scan_reconciled (h : scanProductionInFlight host formats world fuel = .ok manifest)
    (hr : host.jsonParse (manifestFile host manifest) = some manifest.toJson) :
    ∃ settings, scanSettings formats world = .ok settings ∧ Reconciled host formats world fuel settings manifest := by
  simp only [scanProductionInFlight, bind_eq_ok] at h
  obtain ⟨settings, hsettings, primary, hprimary, secondary, hsecondary, statuses, hstatuses, input, hinput, manifest,
    hbuild, inventory, hparse, ⟨⟩⟩ := h
  have hp : Published host input manifest inventory := ⟨hbuild, _, hr, hparse⟩
  obtain ⟨hfirst, hsecond, hapi, ⟨a, b, ha, hb, hs⟩, c, d, hc, hd, hr⟩ := manifestInput_eq_ok hinput
  obtain ⟨hsolana, hrobinhood⟩ := published_providers hp hs hr
  obtain ⟨o, hbuilt, rfl⟩ := buildInFlightManifest_eq_ok.mp hbuild
  subst hfirst
  subst hsecond
  refine ⟨settings, hsettings, ?_, ?_, input.primary, input.secondary, hprimary, hsecondary, hbuilt.agreement,
    listed_perm, listed_perm.nodup_iff.mpr hp.distinct, fun m hm => published_told hp hapi hstatuses hm⟩
  · rw [ha, hb, ne_eq, Except.ok.injEq]
    exact hsolana
  · rw [hc, hd, ne_eq, Except.ok.injEq]
    exact hrobinhood

theorem scan_reconciled_waiting : ∃ settings, scanSettings waitingFormats waitingWorld = .ok settings ∧
    Reconciled waitingHost waitingFormats waitingWorld 2 settings waitingManifest :=
  scan_reconciled scan_waiting waiting_reads

end Results

end SanBridge.Tooling.Corroboration
