import SanBridge.Tooling.Building

namespace SanBridge.Tooling.Evidence

open Library.Checked Library.Matching Tooling.Runtime Tooling.Inventory Tooling.Manifest Tooling.Acceptance
open Tooling.Building

section Shape

def rangeTexts (r : ScanRangeEvidence) (solana : Bool) : String × String :=
  if solana then (r.solana.fromSlot, r.solana.toSlot) else (r.robinhood.fromBlock, r.robinhood.toBlock)

def Within (r : ScanRangeEvidence) (solana : Bool) (height : String) : Prop :=
  ∃ k m n : Nat, height = toString k ∧ rangeTexts r solana = (toString m, toString n) ∧ m ≤ k ∧ k ≤ n

def BlockHashText (solana : Bool) (hash : String) : Prop :=
  if solana then blank hash = false else isHash32 hash = true

structure CompleteScan (r : ScanRangeEvidence) : Prop where
  solana : ∃ m n : Nat, r.solana.fromSlot = toString m ∧ r.solana.toSlot = toString n ∧
    r.solana.finalizedSlot = toString n ∧ 0 < n ∧ m ≤ n
  robinhood : ∃ m n : Nat, r.robinhood.fromBlock = toString m ∧ r.robinhood.toBlock = toString n ∧
    r.robinhood.finalizedBlock = toString n ∧ 0 < n ∧ m ≤ n
  complete : r.solana.complete = true ∧ r.solana.paginationComplete = true ∧ r.robinhood.complete = true ∧
    r.robinhood.paginationComplete = true
  genesisHash : r.solana.genesisHash = solanaMainnetGenesisHash
  solanaHashes : BlockHashText true r.solana.startBlockhash ∧ BlockHashText true r.solana.endBlockhash
  robinhoodHashes : BlockHashText false r.robinhood.startBlockHash ∧ BlockHashText false r.robinhood.endBlockHash

def fromSolana (m : InFlightMessageEvidence) : Bool := m.direction = .solanaToRobinhood

def oapps (ids : Identities) (solanaToRobinhood : Bool) : String × String :=
  if solanaToRobinhood then (ids.solana.oftStore, ids.robinhood.oft) else (ids.robinhood.oft, ids.solana.oftStore)

/-- The record either scanner derives from an `OFTSent` event and its packet. -/
structure SourceEvidence (ids : Identities) (r : ScanRangeEvidence) (m : InFlightMessageEvidence) : Prop where
  guid : isLowerHash32 m.guid = true
  sourceNonce : ∃ n : Nat, 0 < n ∧ m.sourceNonce = toString n
  sourceTransaction : blank m.sourceTransaction = false
  sourceHeight : Within r (fromSolana m) m.sourceHeight
  sourceBlockHash : BlockHashText (fromSolana m) m.sourceBlockHash
  sourceEventIndex : ∃ n : Nat, n < 2 ^ 53 ∧ m.sourceEventIndex = .finite n
  pathway : m.sourceOft = (oapps ids (fromSolana m)).1 ∧ m.destinationOft = (oapps ids (fromSolana m)).2
  amountRaw : ∃ n : Nat, m.amountRaw = toString n
  receiver : isLowerHash32 m.receiver = true
  status : m.status = .unresolved
  destination : m.destinationTransaction = none ∧ m.destinationHeight = none ∧ m.destinationBlockHash = none
  layerZeroApiStatus : m.layerZeroApiStatus = none

/-- The record either scanner derives from the `OFTReceived` event of a source message. -/
structure DestinationEvidence (r : ScanRangeEvidence) (source m : InFlightMessageEvidence) : Prop where
  guid : m.guid = source.guid
  direction : m.direction = source.direction
  amountRaw : m.amountRaw = source.amountRaw
  receiver : m.receiver = source.receiver
  destinationTransaction : ∃ t, m.destinationTransaction = some t ∧ blank t = false
  destinationHeight : ∃ h, m.destinationHeight = some h ∧ Within r (!fromSolana m) h
  destinationBlockHash : ∃ b, m.destinationBlockHash = some b ∧ BlockHashText (!fromSolana m) b

/-- Evidence of any transfers the bridge accepts, as `scanProductionInFlight` gathers it. -/
structure ScannedEvidence (input : BuildManifestInput) (statuses : String → Option String) : Prop where
  inventoryId : blank input.inventoryId = false
  scannerSourceCommit : isCommit input.scannerSourceCommit = true
  generatedAt : isTimestamp input.generatedAt = true
  solanaProviders : ∃ a b, a ≠ b ∧ input.solanaProviderIds = [a, b]
  robinhoodProviders : ∃ a b, a ≠ b ∧ input.robinhoodProviderIds = [a, b]
  identities : blank input.identities.solana.oftStore = false ∧ blank input.identities.robinhood.oft = false
  secondary : input.secondary = input.primary
  ranges : CompleteScan input.primary.ranges
  sources : ∀ s ∈ input.primary.sourceMessages, SourceEvidence input.identities input.primary.ranges s
  distinct : (input.primary.sourceMessages.map InFlightMessageEvidence.guid).Nodup
  destinations : ∀ d ∈ input.primary.destinationMessages, ∃ s ∈ input.primary.sourceMessages,
    DestinationEvidence input.primary.ranges s d
  layerZeroStatuses : input.layerZeroStatuses = some statuses
  known : ∀ s ∈ input.primary.sourceMessages, (statuses s.guid).isSome = true

end Shape

section Fields

variable {host : Host}

theorem readsUnsigned_toString {n : Nat} {positive : Bool} (h : positive = true → 0 < n) :
    ReadsUnsigned (some (.str (toString n))) positive n :=
  ⟨_, rfl, isDigits_toString n, h, decimalValue_toString n⟩

theorem readsText {s : String} (h : blank s = false) : ReadsText (some (.str s)) s := ⟨rfl, h⟩

theorem readsHash {s : String} (h : isHash32 s = true) :
    ReadsHash host (some (.str s)) (host.toLowerCase s) := ⟨s, rfl, h, rfl⟩

theorem readsBlockHash {solana : Bool} {s : String} (h : BlockHashText solana s) :
    ReadsBlockHash host solana (some (.str s)) := by
  cases solana with
  | true => exact ⟨s, readsText h⟩
  | false => exact ⟨_, readsHash h⟩

theorem blank_of_isHash32 {s : String} (h : isHash32 s = true) : blank s = false := by
  simp only [isHash32, decide_eq_true_eq, startsWith, List.isPrefixOf_iff_prefix] at h
  obtain ⟨⟨digits, hs⟩, _⟩ := h
  rw [blank, ← hs]
  rfl

theorem BlockHashText.notBlank {solana : Bool} {s : String} (h : BlockHashText solana s) : blank s = false := by
  cases solana with
  | true => exact h
  | false => exact blank_of_isHash32 h

theorem isStr_self {s : String} : isStr (some (.str s)) s = true := decide_eq_true rfl

theorem isNum_self {q : ℚ} : isNum (some (.num (.finite q))) q = true := decide_eq_true rfl

theorem truthy_of_notBlank {s : String} (h : blank s = false) : truthy (some (.str s)) = true := by
  have hne : s ≠ "" := by
    rintro rfl
    cases h
  exact decide_eq_true hne

theorem truthy_of_isDigits {s : String} (h : isDigits s = true) : truthy (some (.str s)) = true := by
  have hne : s ≠ "" := by
    rintro rfl
    cases h
  exact decide_eq_true hne

end Fields

section Order

variable {host : Host} {ms : List InFlightMessageEvidence}

def FiniteIndex (m : InFlightMessageEvidence) : Prop := ∃ q, m.sourceEventIndex = .finite q

theorem messageKey_toJson {m : InFlightMessageEvidence} (h : FiniteIndex m) :
    messageKey host (some m.toJson) = .ok (sortKey host m) := by
  obtain ⟨q, hq⟩ := h
  obtain ⟨guid, direction, nonce, transaction, height, block, index, _⟩ := m
  subst hq
  rfl

theorem mapM_withKey (h : ∀ m ∈ ms, FiniteIndex m) :
    (ms.map InFlightMessageEvidence.toJson).mapM (withKey host) =
      .ok (ms.map fun m => (sortKey host m, m.toJson)) := by
  induction ms with
  | nil => rfl
  | cons m ms ih =>
    have hm : withKey host m.toJson = .ok (sortKey host m, m.toJson) := by
      rw [withKey, messageKey_toJson (h m List.mem_cons_self), ok_bind]
    rw [List.map_cons, List.mapM_cons, hm, ok_bind, ih fun m' h' => h m' (List.mem_cons_of_mem _ h'), ok_bind]
    rfl

theorem sortMessages_pairwise :
    (sortMessages host ms).Pairwise fun a b => host.localeLe (sortKey host a) (sortKey host b) = true := by
  have ht : Std.Total fun a b => host.localeLe (sortKey host a) (sortKey host b) = true :=
    ⟨fun a b => host.localeLe_total _ _⟩
  have htr : IsTrans _ fun a b => host.localeLe (sortKey host a) (sortKey host b) = true :=
    ⟨fun a b c => host.localeLe_trans _ _ _⟩
  exact List.pairwise_insertionSort _ _

/-- The order the scanner writes is the order the parser asks for. -/
theorem canonicalOrder_sortMessages (h : ∀ m ∈ ms, FiniteIndex m) :
    canonicalOrder host ((sortMessages host ms).map InFlightMessageEvidence.toJson) =
      .ok ((sortMessages host ms).map InFlightMessageEvidence.toJson) := by
  have hf : ∀ m ∈ sortMessages host ms, FiniteIndex m := by
    intro m hm
    exact h m ((List.perm_insertionSort _ _).mem_iff.mp hm)
  have hp : ((sortMessages host ms).map fun m => (sortKey host m, m.toJson)).Pairwise
      fun a b => host.localeLe a.1 b.1 = true := by
    rw [List.pairwise_map]
    exact sortMessages_pairwise
  rw [canonicalOrder]
  split
  · rfl
  · rw [mapM_withKey hf, ok_bind, hp.insertionSort_eq, List.map_map]
    rfl

end Order

section Accepted

variable {host : Host} {input : BuildManifestInput} {statuses : String → Option String} {o : Outstanding}
  {s m d : InFlightMessageEvidence}

theorem rangeStart_toJson (solana : Bool) :
    rangeStart (manifestOf host input o).toJson solana =
      some (.str (rangeTexts input.primary.ranges solana).1) := by
  cases solana <;> rfl

theorem rangeEnd_toJson (solana : Bool) :
    rangeEnd (manifestOf host input o).toJson solana =
      some (.str (rangeTexts input.primary.ranges solana).2) := by
  cases solana <;> rfl

theorem pathway_toJson (solanaToRobinhood : Bool) :
    Inventory.pathway (manifestOf host input o).toJson solanaToRobinhood =
      (some (.str (oapps input.identities solanaToRobinhood).1),
        some (.str (oapps input.identities solanaToRobinhood).2)) := by
  cases solanaToRobinhood <;> rfl

variable (host) (o) in
theorem Within.inRange {solana : Bool} {height : String} (h : Within input.primary.ranges solana height) :
    ∃ k, ReadsUnsigned (some (.str height)) false k ∧ InRange (manifestOf host input o).toJson solana k := by
  obtain ⟨k, m, n, rfl, hr, hm, hn⟩ := h
  refine ⟨k, readsUnsigned_toString nofun, m, n, ?_, ?_, hm, hn⟩
  · rw [rangeStart_toJson, hr]
    exact readsUnsigned_toString nofun
  · rw [rangeEnd_toJson, hr]
    exact readsUnsigned_toString nofun

theorem equalIdentity_self {text : String} : equalIdentity host text (some (.str text)) = .ok true := by
  rw [equalIdentity, asString, ok_bind]
  split_ifs <;> simp

def listed (s : InFlightMessageEvidence) (status : PacketStatus) (transaction height block api : Option String) :
    InFlightMessageEvidence :=
  { s with
    status := status
    destinationTransaction := transaction
    destinationHeight := height
    destinationBlockHash := block
    layerZeroApiStatus := api }

variable {status : PacketStatus} {transaction height block : Option String} {api : String}

theorem status_known : ["in_flight", "delivered", "failed", "blocked", "unresolved"].any
    (isStr (some (.str status.text))) = true := by
  cases status <;> decide

theorem direction_known {direction : InFlightDirection} :
    ["solana-to-robinhood", "robinhood-to-solana"].any (isStr (some (.str direction.text))) = true := by
  cases direction <;> decide

variable (host) (o) (status) (transaction height block) (api) in
theorem SourceEvidence.sourceAccepted (h : SourceEvidence input.identities input.primary.ranges s) :
    ∃ k, ReadsUnsigned (some (.str s.sourceHeight)) false k ∧
      SourceAccepted host (manifestOf host input o).toJson (listed s status transaction height block (some api)).toJson
        s.sourceOft s.destinationOft k := by
  obtain ⟨k, hk, hrange⟩ := h.sourceHeight.inRange host o
  have hdir : isSolanaToRobinhood (listed s status transaction height block (some api)).toJson = fromSolana s :=
    isSolanaToRobinhood_toJson
  have hpath := h.pathway
  refine ⟨k, hk, ?_, ?_, ?_, ?_⟩
  · rw [hdir, pathway_toJson, ← hpath.1]
    exact equalIdentity_self
  · rw [hdir, pathway_toJson, ← hpath.2]
    exact equalIdentity_self
  · rw [hdir]
    exact hrange
  · rw [hdir]
    exact readsBlockHash h.sourceBlockHash

theorem SourceEvidence.admitted (h : SourceEvidence input.identities input.primary.ranges s)
    (hids : blank input.identities.solana.oftStore = false ∧ blank input.identities.robinhood.oft = false)
    (hamount : 0 < rawAmount s) (hapi : blank api = false)
    (hdest : DestinationAccepted host (manifestOf host input o).toJson
      (listed s status transaction height block (some api)).toJson api) :
    Admitted host (manifestOf host input o).toJson (listed s status transaction height block (some api)).toJson := by
  obtain ⟨nonce, hnonce, htext⟩ := h.sourceNonce
  obtain ⟨amount, hamountText⟩ := h.amountRaw
  obtain ⟨index, hindex, hindexText⟩ := h.sourceEventIndex
  obtain ⟨k, hk, hsource⟩ := h.sourceAccepted host o status transaction height block api
  have hpath := h.pathway
  have hofts : blank s.sourceOft = false ∧ blank s.destinationOft = false := by
    rw [hpath.1, hpath.2]
    cases fromSolana s with
    | true => exact hids
    | false => exact hids.symm
  have hsafe : isSafeIndex (some (ofNumber s.sourceEventIndex)) = true := by
    rw [hindexText]
    refine decide_eq_true ⟨Rat.den_natCast index, ?_, ?_⟩
    · rw [Rat.num_natCast]
      omega
    · rw [Rat.num_natCast]
      omega
  refine ⟨⟨_, rfl, rfl⟩, readsHash (isHash32_of_lower h.guid), ?_⟩
  exact {
    sourceNonce := ⟨nonce, by
      change ReadsUnsigned (some (.str s.sourceNonce)) true nonce
      rw [htext]
      exact readsUnsigned_toString fun _ => hnonce⟩
    amountRaw := by
      refine ⟨s.amountRaw, rfl, ?_, fun _ => hamount, rfl⟩
      rw [hamountText]
      exact isDigits_toString amount
    sourceTransaction := ⟨_, readsText h.sourceTransaction⟩
    sourceBlockHash := ⟨_, readsText h.sourceBlockHash.notBlank⟩
    receiver := ⟨_, readsText (blank_of_isHash32 (isHash32_of_lower h.receiver))⟩
    sourceEventIndex := hsafe
    direction := direction_known
    status := status_known
    source := ⟨k, s.sourceOft, s.destinationOft, hk, readsText hofts.1, readsText hofts.2, hsource⟩
    destination := ⟨api, readsText hapi, hdest⟩ }

theorem destinationAbsent (hstatus : status ≠ .delivered) (hapi : host.toUpperCase api ≠ "DELIVERED") :
    DestinationAccepted host (manifestOf host input o).toJson (listed s status none none none (some api)).toJson
      api := by
  have hd : isDelivered (listed s status none none none (some api)).toJson = false := by
    rw [isDelivered_toJson]
    exact decide_eq_false hstatus
  rw [DestinationAccepted, hd]
  exact ⟨rfl, rfl, rfl, hapi⟩

theorem DestinationEvidence.present {source : InFlightMessageEvidence}
    (h : DestinationEvidence input.primary.ranges source d) (hdir : d.direction = s.direction)
    (hapi : host.toUpperCase api ∈ ["DELIVERED", "CONFIRMING"]) :
    DestinationAccepted host (manifestOf host input o).toJson (deliver s d (some api)).toJson api := by
  obtain ⟨t, ht, htext⟩ := h.destinationTransaction
  obtain ⟨height, hh, hwithin⟩ := h.destinationHeight
  obtain ⟨b, hb, hblock⟩ := h.destinationBlockHash
  obtain ⟨k, hk, hrange⟩ := hwithin.inRange host o
  have hfrom : fromSolana d = fromSolana s := by rw [fromSolana, fromSolana, hdir]
  have hstor : isSolanaToRobinhood (deliver s d (some api)).toJson = fromSolana s := isSolanaToRobinhood_toJson
  have hd : isDelivered (deliver s d (some api)).toJson = true := rfl
  have htx : get (deliver s d (some api)).toJson "destinationTransaction" = some (.str t) := by
    change some (ofNullable d.destinationTransaction) = _
    rw [ht]
    rfl
  have hheight : get (deliver s d (some api)).toJson "destinationHeight" = some (.str height) := by
    change some (ofNullable d.destinationHeight) = _
    rw [hh]
    rfl
  have hhash : get (deliver s d (some api)).toJson "destinationBlockHash" = some (.str b) := by
    change some (ofNullable d.destinationBlockHash) = _
    rw [hb]
    rfl
  rw [hfrom] at hrange hblock
  rw [DestinationAccepted, hd, if_pos rfl]
  refine ⟨?_, ?_, ?_, ⟨k, ?_, ?_⟩, ?_, hapi⟩
  · rw [htx]
    exact truthy_of_notBlank htext
  · obtain ⟨k', _, _, rfl, _⟩ := hwithin
    rw [hheight]
    exact truthy_of_isDigits (isDigits_toString k')
  · rw [hhash]
    exact truthy_of_notBlank hblock.notBlank
  · rw [hheight]
    exact hk
  · rw [hstor]
    exact hrange
  · rw [hstor, hhash]
    exact readsBlockHash hblock

theorem sourceKey_of_evidence (h : SourceEvidence input.identities input.primary.ranges s) :
    sourceKey host s = s.guid := toLowerCase_of_lower host h.guid

variable (he : ScannedEvidence input statuses) (hb : Built host input o)

include he

variable (host) in
theorem ScannedEvidence.keys_nodup : (input.primary.sourceMessages.map (sourceKey host)).Nodup := by
  have hk : input.primary.sourceMessages.map (sourceKey host) =
      input.primary.sourceMessages.map InFlightMessageEvidence.guid :=
    List.map_congr_left fun s hs => sourceKey_of_evidence (he.sources s hs)
  rw [hk]
  exact he.distinct

variable (host) in
theorem ScannedEvidence.apiStatus (hs : s ∈ input.primary.sourceMessages) :
    ∃ api, statuses s.guid = some api ∧
      apiStatusOf input.layerZeroStatuses (sourceKey host s) = some api := by
  obtain ⟨api, hapi⟩ := Option.isSome_iff_exists.mp (he.known s hs)
  refine ⟨api, hapi, ?_⟩
  rw [apiStatusOf, he.layerZeroStatuses, sourceKey_of_evidence (he.sources s hs)]
  exact hapi

theorem ScannedEvidence.finiteIndex {ms : List InFlightMessageEvidence}
    (hms : ∀ m ∈ ms, ∃ p ∈ pairing host input.primary, m = settle host input.layerZeroStatuses p) :
    ∀ m ∈ ms, FiniteIndex m := by
  intro m hm
  obtain ⟨⟨s, d⟩, hp, rfl⟩ := hms m hm
  obtain ⟨index, _, hindex⟩ := (he.sources s (source_of_pairing hp).1).sourceEventIndex
  cases d <;> exact ⟨index, hindex⟩

theorem ScannedEvidence.range :
    RangeAccepted host (get (get (manifestOf host input o).toJson "ranges") "solana")
      (get (get (manifestOf host input o).toJson "ranges") "robinhood") := by
  obtain ⟨⟨m, n, hm, hn, hn', hpos, hle⟩, ⟨k, l, hk, hl, hl', hpos', hle'⟩, ⟨hc, hpc, hrc, hrpc⟩, hgenesis,
    ⟨ha, hb⟩, ⟨hx, hy⟩⟩ := he.ranges
  have hread : ∀ {text : String} {n : Nat} {positive : Bool}, text = toString n → (positive = true → 0 < n) →
      ReadsUnsigned (some (.str text)) positive n := by
    intro text n positive ht hp
    rw [ht]
    exact readsUnsigned_toString hp
  exact {
    solanaKeys := ⟨_, rfl, rfl⟩
    robinhoodKeys := ⟨_, rfl, rfl⟩
    solanaRange := ⟨m, n, hread hm nofun, hread hn fun _ => hpos, hread hn' fun _ => hpos, hle⟩
    robinhoodRange := ⟨k, l, hread hk nofun, hread hl fun _ => hpos', hread hl' fun _ => hpos', hle'⟩
    complete := ⟨hc, hpc, hrc, hrpc⟩
    genesisHash := by
      change ReadsText (some (.str input.primary.ranges.solana.genesisHash)) _
      rw [hgenesis]
      exact readsText (by decide)
    startBlockhash := ⟨_, readsText ha⟩
    endBlockhash := ⟨_, readsText hb⟩
    startBlockHash := ⟨_, readsHash hx⟩
    endBlockHash := ⟨_, readsHash hy⟩ }

theorem ScannedEvidence.identity :
    validateIdentity host (manifestOf host input o).toJson = .ok input.inventoryId := by
  simp only [validateIdentity, bind_eq_ok, require_eq_ok, nonempty_eq_ok, exactKeys_eq_ok, decide_eq_true_eq,
    exists_const]
  exact ⟨rfl, input.inventoryId, readsText he.inventoryId, input.generatedAt, rfl, he.generatedAt, ⟨_, rfl, rfl⟩,
    ⟨isStr_self, isStr_self, isStr_self⟩, input.scannerSourceCommit, rfl, he.scannerSourceCommit, ⟨_, rfl, rfl⟩,
    ⟨_, rfl, rfl⟩, ⟨_, rfl, rfl⟩, ⟨isStr_self, isNum_self, isNum_self, isNum_self⟩, rfl⟩

omit he

theorem fewerThanTwo_pair {a b : String} (h : a ≠ b) :
    fewerThanTwo (some (.arr ([a, b].map Json.str))) = .ok false := by
  simp [fewerThanTwo, setSize, sameValueZero, h]

include he

theorem ScannedEvidence.provenance : validateProvenance (manifestOf host input o).toJson = .ok () := by
  obtain ⟨a, b, hab, hids⟩ := he.solanaProviders
  obtain ⟨c, d, hcd, hids'⟩ := he.robinhoodProviders
  have hsolana : fewerThanTwo (some (.arr (input.solanaProviderIds.map Json.str))) = .ok false := by
    rw [hids]
    exact fewerThanTwo_pair hab
  have hrobinhood : fewerThanTwo (some (.arr (input.robinhoodProviderIds.map Json.str))) = .ok false := by
    rw [hids']
    exact fewerThanTwo_pair hcd
  have hapi : truthy (some (.bool input.layerZeroStatuses.isSome)) = true := by
    rw [he.layerZeroStatuses]
    rfl
  simp only [validateProvenance, bind_eq_ok, require_eq_ok, exactKeys_eq_ok, decide_eq_true_eq, exists_const]
  exact ⟨⟨_, rfl, rfl⟩, isStr_self, false, hsolana, rfl, false, hrobinhood, ⟨rfl, rfl, rfl, hapi⟩,
    some (.num (.finite 0)), rfl, isNum_self⟩

theorem ScannedEvidence.distinct_toJson :
    (((messagesOf host input).map InFlightMessageEvidence.toJson).map fun m => guidOf host (some m)).Nodup := by
  have hp := (messagesOf_perm host input).map fun m => host.toLowerCase m.guid
  rw [List.map_map]
  apply hp.nodup_iff.mpr
  have hk := he.keys_nodup host
  rw [← pairing_fst host, List.map_map] at hk
  rw [List.map_map]
  simpa only [Function.comp_def, settle_guid, sourceKey] using hk

theorem ScannedEvidence.digits (hm : m ∈ messagesOf host input) : isDigits m.amountRaw = true := by
  obtain ⟨p, hp, rfl⟩ := List.mem_map.mp ((messagesOf_perm host input).mem_iff.mp hm)
  obtain ⟨n, hn⟩ := (he.sources p.1 (source_of_pairing hp).1).amountRaw
  rw [settle_amountRaw, hn]
  exact isDigits_toString n

include hb

/-- What is written in the summary is what the parser counts. -/
theorem ScannedEvidence.outstanding_eq : o =
    ⟨total .solanaToRobinhood (unsettled (messagesOf host input)),
      total .robinhoodToSolana (unsettled (messagesOf host input)),
      (unsettled (messagesOf host input)).length⟩ := by
  have ht := hb.totals
  rw [foldlM_addOutstanding fun m hm => he.digits hm] at ht
  simpa using (Except.ok.inj ht).symm

theorem ScannedEvidence.summary :
    SummaryAccepted (get (manifestOf host input o).toJson "summary")
      ((messagesOf host input).map InFlightMessageEvidence.toJson) := by
  have ho := he.outstanding_eq hb
  have hread : ∀ (direction : InFlightDirection) (raw : Int),
      raw = (total direction (unsettled (messagesOf host input)) : Int) →
      ReadsUnsigned (some (.str (toString raw))) false (outstanding (decide (direction = .solanaToRobinhood))
        ((messagesOf host input).map InFlightMessageEvidence.toJson)) := by
    rintro direction _ rfl
    rw [outstanding_toJson]
    exact readsUnsigned_toString nofun
  exact {
    resultCount := by
      rw [List.length_map]
      exact isNum_self
    unresolvedPacketCount := by
      rw [undelivered_toJson, List.length_map]
      change isNum (some (ofNat o.unresolvedPacketCount)) _ = true
      rw [ho]
      exact isNum_self
    solanaToRobinhoodRaw := hread .solanaToRobinhood o.solanaToRobinhoodRaw (by rw [ho])
    robinhoodToSolanaRaw := hread .robinhoodToSolana o.robinhoodToSolanaRaw (by rw [ho]) }

theorem ScannedEvidence.admitted (hm : m ∈ messagesOf host input)
    (hamounts : ∀ s ∈ input.primary.sourceMessages, 0 < rawAmount s)
    (hapis : ∀ s ∈ input.primary.sourceMessages, ∀ api, statuses s.guid = some api → blank api = false) :
    Admitted host (manifestOf host input o).toJson m.toJson := by
  obtain ⟨⟨s, d⟩, hp, rfl⟩ := List.mem_map.mp ((messagesOf_perm host input).mem_iff.mp hm)
  obtain ⟨hs, hd⟩ := source_of_pairing hp
  obtain ⟨api, hknown, hapi⟩ := he.apiStatus host hs
  have hsource := he.sources s hs
  have hblank := hapis s hs api hknown
  have hcompatible := hb.compatible _ hp
  cases d with
  | none =>
    rw [Compatible, hapi, Option.map_some] at hcompatible
    have hapi' : host.toUpperCase api ≠ "DELIVERED" := fun hc => hcompatible (congrArg some hc)
    obtain ⟨ht, hh, hk⟩ := hsource.destination
    have hlisted : settle host input.layerZeroStatuses (s, none) =
        listed s (unresolvedStatus host (some api)) none none none (some api) := by
      rw [settle, hapi]
      simp only [leaveUnresolved, listed, ht, hh, hk]
    rw [hlisted]
    exact hsource.admitted he.identities (hamounts s hs) hblank
      (destinationAbsent unresolvedStatus_ne_delivered hapi')
  | some d =>
    obtain ⟨source, _, hdest⟩ := he.destinations d (hd d rfl)
    rw [Compatible, hapi, Option.getD_some] at hcompatible
    have hne : api ≠ "" := by
      rintro rfl
      cases hblank
    have hsettle : settle host input.layerZeroStatuses (s, some d) = deliver s d (some api) := by
      rw [settle, hapi]
    rw [hsettle]
    exact hsource.admitted he.identities (hamounts s hs) hblank
      (hdest.present hcompatible.1.direction (hcompatible.2.resolve_left hne))

/-- Every manifest written from such evidence, all of its amounts positive and all of
its statuses visible, is accepted. -/
theorem ScannedEvidence.accepted (hamounts : ∀ s ∈ input.primary.sourceMessages, 0 < rawAmount s)
    (hapis : ∀ s ∈ input.primary.sourceMessages, ∀ api, statuses s.guid = some api → blank api = false) :
    Accepted host (manifestOf host input o).toJson
      ((messagesOf host input).map InFlightMessageEvidence.toJson) input.inventoryId where
  isObject := rfl
  keys := ⟨_, rfl, rfl⟩
  identity := he.identity
  range := he.range
  provenance := he.provenance
  readsMessages := rfl
  summaryKeys := ⟨_, rfl, rfl⟩
  ordered := by
    have hfinite : ∀ m ∈ (pairing host input.primary).map (settle host input.layerZeroStatuses), FiniteIndex m :=
      he.finiteIndex fun m hm => (List.mem_map.mp hm).imp fun p h => ⟨h.1, h.2.symm⟩
    exact ⟨_, canonicalOrder_sortMessages hfinite, rfl⟩
  admitted := by
    intro message hmessage
    obtain ⟨m, hm, rfl⟩ := List.mem_map.mp hmessage
    exact he.admitted hb hm hamounts hapis
  distinct := he.distinct_toJson
  summary := he.summary hb
  checksum := by
    have hunsigned : unsignedPart (manifestOf host input o).toJson =
        (unsignedManifest input (messagesOf host input) o).toJson := rfl
    have hlower := hexDigest_lower (host.sha256 ("SAN_IN_FLIGHT_MANIFEST_V2\n" ++
      canonicalJson host (unsignedManifest input (messagesOf host input) o).toJson))
    rw [hunsigned]
    exact ⟨_, rfl, isHash32_of_lower hlower, toLowerCase_of_lower host hlower⟩

end Accepted

section Sample

variable (amount : Nat) (digest : Vector UInt8 32)

theorem hashOf_lower {fill : Char} (h : isLowerHex fill = true) : isLowerHash32 (hashOf fill) = true :=
  isLowerHash32_of_digits (List.length_replicate) fun _ hc => (List.eq_of_mem_replicate hc) ▸ h

theorem sampleInput_scanned : ScannedEvidence (sampleInput amount) sampleStatuses where
  inventoryId := (by decide : blank "review-1" = false)
  scannerSourceCommit := (by decide : isCommit (String.ofList (List.replicate 40 '1')) = true)
  generatedAt := (by decide : isTimestamp "2026-09-03T00:00:00.000Z" = true)
  solanaProviders := ⟨"solana-a", "solana-b", by decide, rfl⟩
  robinhoodProviders := ⟨"robinhood-a", "robinhood-b", by decide, rfl⟩
  identities := (by decide : blank sampleStore = false ∧ blank sampleOft = false)
  secondary := rfl
  ranges := {
    solana := ⟨100, 110, rfl, rfl, rfl, by decide, by decide⟩
    robinhood := ⟨200, 210, rfl, rfl, rfl, by decide, by decide⟩
    complete := ⟨rfl, rfl, rfl, rfl⟩
    genesisHash := rfl
    solanaHashes := (by decide : blank "start" = false ∧ blank "end" = false)
    robinhoodHashes := ⟨isHash32_of_lower (hashOf_lower (by decide)), isHash32_of_lower (hashOf_lower (by decide))⟩ }
  sources := by
    intro s hs
    obtain rfl := List.mem_singleton.mp hs
    exact {
      guid := hashOf_lower (by decide)
      sourceNonce := ⟨1, by decide, rfl⟩
      sourceTransaction := (by decide : blank "sig" = false)
      sourceHeight := ⟨101, 100, 110, rfl, rfl, by decide, by decide⟩
      sourceBlockHash := (by decide : blank "solblock" = false)
      sourceEventIndex := ⟨0, by decide, rfl⟩
      pathway := ⟨rfl, rfl⟩
      amountRaw := ⟨amount, rfl⟩
      receiver := hashOf_lower (by decide)
      status := rfl
      destination := ⟨rfl, rfl, rfl⟩
      layerZeroApiStatus := rfl }
  distinct := List.nodup_singleton _
  destinations := by
    intro d hd
    obtain rfl := List.mem_singleton.mp hd
    exact ⟨sampleSource amount, List.mem_singleton_self _, rfl, rfl, rfl, rfl,
      ⟨_, rfl, blank_of_isHash32 (isHash32_of_lower (hashOf_lower (by decide)))⟩,
      ⟨_, rfl, 202, 200, 210, rfl, rfl, by decide, by decide⟩,
      ⟨_, rfl, isHash32_of_lower (hashOf_lower (by decide))⟩⟩
  layerZeroStatuses := rfl
  known := by
    intro s hs
    obtain rfl := List.mem_singleton.mp hs
    rw [sampleStatuses]
    exact if_pos rfl ▸ rfl

theorem sampleInput_pairing :
    pairing (sampleHost amount digest) (sampleInput amount).primary =
      [(sampleSource amount, some (sampleDestination amount))] := by
  have hkey : sourceKey (sampleHost amount digest) (sampleSource amount) =
      (entryOf (sampleHost amount digest) (sampleDestination amount)).1 := rfl
  rw [pairing, consume_of_nodup ((sampleInput_scanned amount).keys_nodup _)]
  simp only [sampleInput, List.map_singleton, hkey]
  rw [List.lookup_cons_self]
  rfl

theorem sampleStatuses_source : sampleStatuses (sampleSource amount).guid = some "DELIVERED" := if_pos rfl

theorem sampleInput_api :
    apiStatusOf (sampleInput amount).layerZeroStatuses (sourceKey (sampleHost amount digest) (sampleSource amount)) =
      some "DELIVERED" := by
  obtain ⟨api, hknown, hapi⟩ := (sampleInput_scanned amount).apiStatus (sampleHost amount digest)
    (List.mem_singleton_self _)
  rw [hapi, ← hknown, sampleStatuses_source]

theorem sampleInput_messages :
    messagesOf (sampleHost amount digest) (sampleInput amount) =
      [deliver (sampleSource amount) (sampleDestination amount) (some "DELIVERED")] := by
  rw [messagesOf, sampleInput_pairing, List.map_singleton, settle, sampleInput_api]
  rfl

theorem sampleInput_built : Built (sampleHost amount digest) (sampleInput amount) ⟨0, 0, 0⟩ where
  agreement := rfl
  distinct := List.nodup_singleton _
  compatible := by
    intro p hp
    rw [sampleInput_pairing] at hp
    obtain rfl := List.mem_singleton.mp hp
    rw [Compatible, sampleInput_api]
    have hupper : (sampleHost amount digest).toUpperCase "DELIVERED" = "DELIVERED" := rfl
    exact ⟨⟨rfl, rfl, rfl⟩, .inr (hupper ▸ List.mem_cons_self)⟩
  consumed := by
    have hkey : (entryOf (sampleHost amount digest) (sampleDestination amount)).1 =
        sourceKey (sampleHost amount digest) (sampleSource amount) := rfl
    rw [consume_rest]
    simp [sampleInput, hkey]
  totals := by
    rw [sampleInput_messages]
    rfl

theorem sampleManifest_eq :
    sampleManifest amount digest = manifestOf (sampleHost amount digest) (sampleInput amount) ⟨0, 0, 0⟩ := by
  rw [manifestOf, sampleInput_messages]
  rfl

def sampleInventory : InFlightInventory :=
  inventoryOf (sampleHost amount digest) (sampleManifest amount digest).toJson
    [(deliver (sampleSource amount) (sampleDestination amount) (some "DELIVERED")).toJson] "review-1"

theorem sampleManifest_parses (h : 0 < amount) :
    parseInFlightInventory (sampleHost amount digest) (sampleContents amount digest) =
      .ok (sampleInventory amount digest) := by
  have hreads := readingHost_reads digest (sampleManifest amount digest).toJson
    (sampleManifest amount digest).keysDistinct
  have haccepted := (sampleInput_scanned amount).accepted (sampleInput_built amount digest)
    (by
      intro s hs
      obtain rfl := List.mem_singleton.mp hs
      rw [rawAmount]
      exact (decimalValue_toString amount).symm ▸ h)
    (by
      intro s hs api hapi
      obtain rfl := List.mem_singleton.mp hs
      rw [sampleStatuses_source, Option.some.injEq] at hapi
      subst hapi
      decide)
  rw [← sampleManifest_eq, sampleInput_messages] at haccepted
  exact parseInFlightInventory_eq_ok.mpr ⟨_, _, _, hreads, haccepted, rfl⟩

end Sample

end SanBridge.Tooling.Evidence
