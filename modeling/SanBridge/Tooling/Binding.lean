import SanBridge.Tooling.Canonical
import SanBridge.Tooling.Evidence

namespace SanBridge.Tooling.Binding

open Library.Checked Library.Matching Tooling.Runtime Tooling.Inventory Tooling.Acceptance Tooling.Manifest
open Tooling.Building Tooling.Evidence Tooling.Canonical

variable {host : Host} {v w : Value} {a b : Json}

section Fields

/-- Equal as written, up to the order of keys. -/
def SameField (v w : Value) : Prop := Option.Rel SameValue (v.map written) (w.map written)

theorem lookup_map (f : Json → Json) (key : String) (fields : List (String × Json)) :
    (fields.map fun g => (g.1, f g.2)).lookup key = (fields.lookup key).map f := by
  induction fields with
  | nil => rfl
  | cons g fields ih =>
    obtain ⟨name, v⟩ := g
    rw [List.map_cons, List.lookup_cons, List.lookup_cons, ih]
    cases key == name <;> rfl

theorem get_written (v : Json) (key : String) : get (some (written v)) key = (get (some v) key).map written := by
  cases v with
  | null | bool _ => simp [written, Runtime.get]
  | num x => cases x <;> simp [written, Runtime.get]
  | str s =>
    simp only [written, Runtime.get]
    split <;> simp [written]
  | arr items =>
    simp only [written, Runtime.get, List.length_map]
    split <;> simp [written]
  | obj fields =>
    rw [written]
    exact lookup_map written key fields

theorem get_sameValue (h : SameValue a b) (key : String) :
    Option.Rel SameValue (get (some a) key) (get (some b) key) := by
  cases a with
  | obj fields =>
    cases b with
    | obj fields' =>
      rw [SameValue] at h
      obtain ⟨hkeys, hsame⟩ := h
      change Option.Rel SameValue (fields.lookup key) (fields'.lookup key)
      cases hl : fields.lookup key with
      | none =>
        have hnone := lookup_eq_none.mp hl
        rw [hkeys.mem_iff] at hnone
        rw [lookup_eq_none.mpr hnone]
        exact .none
      | some v =>
        have hmem := mem_of_lookup hl
        cases hl' : fields'.lookup key with
        | none =>
          have hnone := lookup_eq_none.mp hl'
          rw [← hkeys.mem_iff] at hnone
          exact absurd (List.mem_map_of_mem hmem) hnone
        | some w => exact .some (hsame _ hmem _ (mem_of_lookup hl') rfl)
    | null | bool _ | num _ | str _ | arr _ => simp [SameValue] at h
  | arr items =>
    cases b with
    | arr items' =>
      rw [SameValue] at h
      simp only [Runtime.get, h.1]
      split
      · exact .some (by simp [SameValue])
      · exact .none
    | null | bool _ | num _ | str _ | obj _ => simp [SameValue] at h
  | str s =>
    cases b with
    | str t =>
      simp only [SameValue, Json.str.injEq] at h
      simp only [Runtime.get, h]
      split
      · exact .some (by simp [SameValue])
      · exact .none
    | null | bool _ | num _ | arr _ | obj _ => simp [SameValue] at h
  | null | bool _ | num _ =>
    cases b with
    | null | bool _ | num _ => exact .none
    | str _ | arr _ | obj _ => simp [SameValue] at h

theorem SameField.get (h : SameField v w) (key : String) : SameField (get v key) (get w key) := by
  cases v with
  | none =>
    cases w with
    | none => exact .none
    | some b => cases h
  | some a =>
    cases w with
    | none => cases h
    | some b =>
      cases h with
      | some h =>
        rw [SameField, ← get_written, ← get_written]
        exact get_sameValue h key

theorem SameField.eq_str (h : SameField v w) {s : String} (hv : v = some (.str s)) : w = some (.str s) := by
  subst hv
  cases w with
  | none => cases h
  | some b =>
    cases h with
    | some h =>
      cases b with
      | str t => simpa [written, SameValue, eq_comm] using h
      | num x => cases x <;> simp [written, SameValue] at h
      | null | bool _ | arr _ | obj _ => simp [written, SameValue] at h

theorem SameField.eq_num (h : SameField v w) {q : ℚ} (hv : v = some (.num (.finite q))) :
    w = some (.num (.finite q)) := by
  subst hv
  cases w with
  | none => cases h
  | some b =>
    cases h with
    | some h =>
      cases b with
      | num x => cases x <;> simp_all [written, SameValue]
      | null | bool _ | str _ | arr _ | obj _ => simp [written, SameValue] at h

theorem isNum_eq_true {q : ℚ} : isNum v q = true ↔ v = some (.num (.finite q)) := by
  cases v with
  | none => simp [isNum]
  | some v => cases v <;> simp [isNum]

theorem SameField.count_eq (h : SameField v w) {m n : Nat} (hm : isNum v m = true) (hn : isNum w n = true) :
    m = n := by
  have hw := h.eq_num (isNum_eq_true.mp hm)
  rw [isNum_eq_true.mp hn, Option.some.injEq, Json.num.injEq, JsNumber.finite.injEq] at hw
  exact (Nat.cast_injective hw).symm

theorem SameField.amount_eq (h : SameField v w) {p q : Bool} {m n : Nat} (hm : ReadsUnsigned v p m)
    (hn : ReadsUnsigned w q n) : m = n := by
  obtain ⟨s, hs, hread⟩ := hm
  exact ReadsUnsigned.functional ⟨s, h.eq_str hs, hread⟩ hn

end Fields

section Checksum

def hashedText (host : Host) (unsigned : Json) : String :=
  "SAN_IN_FLIGHT_MANIFEST_V2\n" ++ canonicalJson host unsigned

theorem hashedText_of_written (h : written a = written b) : hashedText host a = hashedText host b := by
  have hcanonical : canonicalJson host a = canonicalJson host b := by
    rw [canonicalJson_eq_stringify, canonicalJson_eq_stringify, h]
  exact congrArg (fun text => "SAN_IN_FLIGHT_MANIFEST_V2\n" ++ text) hcanonical

theorem get_unsignedPart {key : String} (h : key ≠ "manifestChecksum") (v : Json) :
    get (some (unsignedPart v)) key = get (some v) key := by
  cases v with
  | obj fields => exact lookup_filter_of_ne h
  | null | bool _ | num _ | str _ | arr _ => rfl

theorem unsignedPart_keysDistinct (h : a.KeysDistinct) : (unsignedPart a).KeysDistinct := by
  cases a with
  | obj fields =>
    refine ⟨nodup_filter h.1, keysDistinctFields_iff.mpr fun f hf => ?_⟩
    exact keysDistinctFields_iff.mp h.2 f (List.mem_of_mem_filter hf)
  | null | bool _ | num _ | str _ | arr _ => exact h

theorem unsignedPart_finite (h : a.Finite) : (unsignedPart a).Finite := by
  cases a with
  | obj fields => exact finiteFields_iff.mpr fun f hf => finiteFields_iff.mp h f (List.mem_of_mem_filter hf)
  | null | bool _ | num _ | str _ | arr _ => exact h

/-- The checksums of two manifests, whatever the case of their letters. -/
def SameChecksum (host : Host) (a b : Json) : Prop :=
  ∃ s t, get (some a) "manifestChecksum" = some (.str s) ∧ get (some b) "manifestChecksum" = some (.str t) ∧
    host.toLowerCase s = host.toLowerCase t

/-- The same manifest but for its checksum, and the same figures read from it. -/
structure SameInventory (x y : InFlightInventory) : Prop where
  unsigned : SameValue (written (unsignedPart x.manifest)) (written (unsignedPart y.manifest))
  inventoryId : x.inventoryId = y.inventoryId
  inventorySha256 : x.inventorySha256 = y.inventorySha256
  messageCount : x.messageCount = y.messageCount
  unresolvedPacketCount : x.unresolvedPacketCount = y.unresolvedPacketCount
  solanaToRobinhoodRaw : x.solanaToRobinhoodRaw = y.solanaToRobinhoodRaw
  robinhoodToSolanaRaw : x.robinhoodToSolanaRaw = y.robinhoodToSolanaRaw

variable {messages messages' : List Json} {id id' : String}

theorem readsText_of_identity (h : validateIdentity host v = .ok id) : ReadsText (get v "inventoryId") id := by
  simp only [validateIdentity, bind_eq_ok, nonempty_eq_ok, Except.ok.injEq] at h
  obtain ⟨_, _, _, hid, _, _, _, _, _, _, _, _, _, _, _, _, _, _, _, _, _, _, _, _, rfl⟩ := h
  exact hid

/-- A manifest with the checksum of another has its contents. -/
theorem unsigned_of_sameChecksum (hp : PrintsNumbers host) {texts : Set String} (hsha : texts.InjOn host.sha256)
    (ha : Accepted host a messages id) (hb : Accepted host b messages' id') (hka : a.KeysDistinct)
    (hkb : b.KeysDistinct) (hta : hashedText host (unsignedPart a) ∈ texts)
    (htb : hashedText host (unsignedPart b) ∈ texts) (h : SameChecksum host a b) :
    manifestChecksum host (unsignedPart a) = manifestChecksum host (unsignedPart b) ∧
      SameValue (written (unsignedPart a)) (written (unsignedPart b)) := by
  obtain ⟨s, t, hs, ht, hst⟩ := h
  obtain ⟨s', hs', _, hsum⟩ := ha.checksum
  obtain ⟨t', ht', _, hsum'⟩ := hb.checksum
  obtain rfl := Json.str.inj (Option.some.inj (hs.symm.trans hs'))
  obtain rfl := Json.str.inj (Option.some.inj (ht.symm.trans ht'))
  have hchecksum := hsum.symm.trans (hst.trans hsum')
  refine ⟨hchecksum, ?_⟩
  have hdigest := hexDigest_injective ((String.append_right_inj "0x").mp hchecksum)
  have htext := hsha hta htb (Vector.toList_inj.mp hdigest)
  exact (canonicalJson_eq_iff hp (unsignedPart_keysDistinct hka) (unsignedPart_keysDistinct hkb)).mp
    ((String.append_right_inj "SAN_IN_FLIGHT_MANIFEST_V2\n").mp htext)

theorem sameInventory_of_unsigned (ha : Accepted host a messages id) (hb : Accepted host b messages' id')
    (hsum : manifestChecksum host (unsignedPart a) = manifestChecksum host (unsignedPart b))
    (h : SameValue (written (unsignedPart a)) (written (unsignedPart b))) :
    SameInventory (inventoryOf host a messages id) (inventoryOf host b messages' id') := by
  have hfield (key : String) (hk : key ≠ "manifestChecksum") : SameField (get (some a) key) (get (some b) key) := by
    have hunsigned : SameField (some (unsignedPart a)) (some (unsignedPart b)) := .some h
    have hget := hunsigned.get key
    rw [get_unsignedPart hk, get_unsignedPart hk] at hget
    exact hget
  have hsummary := hfield "summary" (by decide)
  have hid := hfield "inventoryId" (by decide)
  have htext := (readsText_of_identity hb.identity).1
  rw [hid.eq_str (readsText_of_identity ha.identity).1, Option.some.injEq, Json.str.injEq] at htext
  exact {
    unsigned := h
    inventoryId := htext
    inventorySha256 := hsum
    messageCount := (hsummary.get "resultCount").count_eq ha.summary.resultCount hb.summary.resultCount
    unresolvedPacketCount := (hsummary.get "unresolvedPacketCount").count_eq ha.summary.unresolvedPacketCount
      hb.summary.unresolvedPacketCount
    solanaToRobinhoodRaw := (hsummary.get "solanaToRobinhoodRaw").amount_eq ha.summary.solanaToRobinhoodRaw
      hb.summary.solanaToRobinhoodRaw
    robinhoodToSolanaRaw := (hsummary.get "robinhoodToSolanaRaw").amount_eq ha.summary.robinhoodToSolanaRaw
      hb.summary.robinhoodToSolanaRaw }

/-- Two texts of values are equal exactly when the values are, up to the order of
keys, and a checksum fixes the manifest it is of and what is read from it. -/
theorem checksum_binds (hp : PrintsNumbers host) :
    (∀ a b : Json, a.KeysDistinct → b.KeysDistinct →
      (canonicalJson host a = canonicalJson host b ↔ SameValue (written a) (written b))) ∧
    (∀ a b : Json, a.KeysDistinct → b.KeysDistinct → a.Finite → b.Finite →
      (canonicalJson host a = canonicalJson host b ↔ SameValue a b)) ∧
    ∀ texts : Set String, texts.InjOn host.sha256 → ∀ contents contents' inventory inventory',
      parseInFlightInventory host contents = .ok inventory → parseInFlightInventory host contents' = .ok inventory' →
      hashedText host (unsignedPart inventory.manifest) ∈ texts →
      hashedText host (unsignedPart inventory'.manifest) ∈ texts →
      SameChecksum host inventory.manifest inventory'.manifest →
      SameInventory inventory inventory' ∧
        (inventory.manifest.Finite → inventory'.manifest.Finite →
          SameValue (unsignedPart inventory.manifest) (unsignedPart inventory'.manifest)) := by
  refine ⟨fun a b ha hb => canonicalJson_eq_iff hp ha hb, fun a b ha hb hfa hfb => ?_, ?_⟩
  · rw [canonicalJson_eq_iff hp ha hb, written_of_finite a hfa, written_of_finite b hfb]
  · intro texts hsha contents contents' inventory inventory' h h' ht ht' hsame
    obtain ⟨a, messages, id, hread, ha, rfl⟩ := parseInFlightInventory_eq_ok.mp h
    obtain ⟨b, messages', id', hread', hb, rfl⟩ := parseInFlightInventory_eq_ok.mp h'
    obtain ⟨hsum, hvalue⟩ := unsigned_of_sameChecksum hp hsha ha hb (host.jsonParse_keys _ _ hread)
      (host.jsonParse_keys _ _ hread') ht ht' hsame
    refine ⟨sameInventory_of_unsigned ha hb hsum hvalue, fun hfa hfb => ?_⟩
    have hwa : written (unsignedPart a) = unsignedPart a := written_of_finite _ (unsignedPart_finite hfa)
    have hwb : written (unsignedPart b) = unsignedPart b := written_of_finite _ (unsignedPart_finite hfb)
    rw [hwa, hwb] at hvalue
    exact hvalue

end Checksum

section Sample

def emptyInput : BuildManifestInput :=
  { sampleInput 7 with primary := ⟨sampleRanges, [], []⟩, secondary := ⟨sampleRanges, [], []⟩ }

theorem emptyInput_scanned : ScannedEvidence emptyInput sampleStatuses :=
  have h := sampleInput_scanned 7
  { inventoryId := h.inventoryId
    scannerSourceCommit := h.scannerSourceCommit
    generatedAt := h.generatedAt
    solanaProviders := h.solanaProviders
    robinhoodProviders := h.robinhoodProviders
    identities := h.identities
    secondary := rfl
    ranges := h.ranges
    sources := fun _ hs => absurd hs List.not_mem_nil
    distinct := List.nodup_nil
    destinations := fun _ hd => absurd hd List.not_mem_nil
    layerZeroStatuses := rfl
    known := fun _ hs => absurd hs List.not_mem_nil }

/-- The manifest of a scan that found nothing, with any value for the endpoint on Solana. -/
def endpointManifest (digest : Vector UInt8 32) (endpoint : Json) : Json :=
  .obj [("schemaVersion", .num (.finite 2)), ("inventoryId", .str emptyInput.inventoryId),
    ("scanner", .obj [("name", .str scannerName), ("version", .str scannerVersion),
      ("bridgeCodeAuditTarget", .str bridgeCodeAuditTarget),
      ("scannerSourceCommit", .str emptyInput.scannerSourceCommit)]),
    ("generatedAt", .str emptyInput.generatedAt),
    ("identities", .obj [
      ("solana", .obj [("chain", .str "solana-mainnet"), ("eid", .num (.finite 30168)), ("endpoint", endpoint),
        ("oftProgram", .str emptyInput.identities.solana.oftProgram),
        ("oftStore", .str emptyInput.identities.solana.oftStore)]),
      ("robinhood", .obj [("chainId", .num (.finite 4663)), ("eid", .num (.finite 30416)),
        ("endpoint", .str emptyInput.identities.robinhood.endpoint),
        ("oft", .str emptyInput.identities.robinhood.oft)])]),
    ("ranges", emptyInput.primary.ranges.toJson),
    ("provenance", .obj [("model", .str "DUAL_RPC_RECONCILED"),
      ("solanaProviders", .arr (emptyInput.solanaProviderIds.map .str)),
      ("robinhoodProviders", .arr (emptyInput.robinhoodProviderIds.map .str)),
      ("sourceEvidenceAgreement", .bool true), ("destinationEvidenceAgreement", .bool true),
      ("layerZeroApiCorroborated", .bool true), ("layerZeroApiDisagreements", .arr [])]),
    ("messages", .arr []),
    ("summary", .obj [("resultCount", ofNat 0), ("unresolvedPacketCount", ofNat 0),
      ("solanaToRobinhoodRaw", .str "0"), ("robinhoodToSolanaRaw", .str "0")]),
    ("manifestChecksum", .str ("0x" ++ hexDigest digest.toList))]

/-- The SHA-256 digest of the manifest without an endpoint. -/
def endpointDigest : Vector UInt8 32 :=
  #v[132, 30, 250, 229, 78, 234, 124, 63, 158, 104, 46, 172, 145, 10, 43, 152, 231, 221,
    4, 0, 94, 202, 11, 164, 71, 14, 233, 233, 124, 161, 40, 88]

theorem endpointManifest_keysDistinct {endpoint : Json} (h : endpoint.KeysDistinct) :
    (endpointManifest endpointDigest endpoint).KeysDistinct := by
  have htexts := keysDistinctItems_map Json.str fun _ => trivial
  refine ⟨?_, ?_⟩
  · simp only [List.map_cons, List.map_nil]
    decide
  · simp only [ScanRangeEvidence.toJson, ofNat, List.map_cons, List.map_nil, KeysDistinctFields, KeysDistinctItems,
      Json.KeysDistinct, htexts, h, and_true, true_and]
    decide

theorem endpointManifest_accepted {host : Host} {digest : Vector UInt8 32} {endpoint : Json}
    (hsha : host.sha256 = fun _ => digest) : Accepted host (endpointManifest digest endpoint) [] "review-1" where
  isObject := rfl
  keys := ⟨_, rfl, rfl⟩
  identity := by
    simp only [validateIdentity, bind_eq_ok, require_eq_ok, nonempty_eq_ok, exactKeys_eq_ok, decide_eq_true_eq,
      exists_const]
    exact ⟨rfl, "review-1", readsText (by decide), emptyInput.generatedAt, rfl, by decide, ⟨_, rfl, rfl⟩,
      ⟨isStr_self, isStr_self, isStr_self⟩, emptyInput.scannerSourceCommit, rfl, by decide, ⟨_, rfl, rfl⟩,
      ⟨_, rfl, rfl⟩, ⟨_, rfl, rfl⟩, ⟨isStr_self, isNum_self, isNum_self, isNum_self⟩, rfl⟩
  range := by
    have hrange : RangeAccepted host (get (get (manifestOf host emptyInput ⟨0, 0, 0⟩).toJson "ranges") "solana")
        (get (get (manifestOf host emptyInput ⟨0, 0, 0⟩).toJson "ranges") "robinhood") := emptyInput_scanned.range
    exact hrange
  provenance := by
    have hprovenance : validateProvenance (manifestOf host emptyInput ⟨0, 0, 0⟩).toJson = .ok () :=
      emptyInput_scanned.provenance
    exact hprovenance
  readsMessages := rfl
  summaryKeys := ⟨_, rfl, rfl⟩
  ordered := ⟨_, rfl, rfl⟩
  admitted := nofun
  distinct := List.nodup_nil
  summary := ⟨isNum_self, isNum_self, ⟨"0", rfl, rfl, nofun, rfl⟩, ⟨"0", rfl, rfl, nofun, rfl⟩⟩
  checksum := by
    have hlower := hexDigest_lower digest
    refine ⟨_, rfl, isHash32_of_lower hlower, ?_⟩
    rw [toLowerCase_of_lower host hlower, manifestChecksum, hsha]

theorem endpointManifest_finite {endpoint : Json} (h : endpoint.Finite) :
    (endpointManifest endpointDigest endpoint).Finite := by
  simp [endpointManifest, emptyInput, sampleInput, sampleRanges, ScanRangeEvidence.toJson, ofNat, Json.Finite,
    FiniteFields, FiniteItems, h]

def endpointContents (endpoint : Json) : String :=
  stringify (exactly (plainHost endpointDigest)) (endpointManifest endpointDigest endpoint) ++ "\n"

theorem endpoint_of_contents {a b : Json} (ha : a.Finite) (hb : b.Finite)
    (h : endpointContents a = endpointContents b) : a = b := by
  have hvalue := stringify_injOn (exactly_prints _) (endpointManifest_finite ha) (endpointManifest_finite hb)
    ((String.append_left_inj "\n").mp h)
  have hget := congrArg (fun v => get (get (get (some v) "identities") "solana") "endpoint") hvalue
  exact Option.some.inj hget

variable (q : ℚ)

/-- Reading the manifest without an endpoint, and the one with a number for it that no
double can hold. -/
def readEndpoint (contents : String) : Option Json :=
  if contents = endpointContents .null then some (endpointManifest endpointDigest .null)
  else if contents = endpointContents (.num (.finite q)) then
    some (endpointManifest endpointDigest (.num (.infinite false)))
  else none

def endpointHost : Host :=
  exactly { plainHost endpointDigest with
    jsonParse := readEndpoint q
    jsonParse_keys := by
      intro contents v h
      unfold readEndpoint at h
      split_ifs at h
      · exact Option.some.inj h ▸ endpointManifest_keysDistinct trivial
      · exact Option.some.inj h ▸ endpointManifest_keysDistinct trivial }

theorem endpointHost_reads (contents : String) : (endpointHost q).jsonParse contents = readEndpoint q contents := rfl

def endpointInventory (endpoint : Json) : InFlightInventory :=
  inventoryOf (endpointHost q) (endpointManifest endpointDigest endpoint) [] "review-1"

theorem endpointContents_null :
    parseInFlightInventory (endpointHost q) (endpointContents .null) = .ok (endpointInventory q .null) := by
  have hread : (endpointHost q).jsonParse (endpointContents .null) =
      some (endpointManifest endpointDigest .null) := by
    rw [endpointHost_reads, readEndpoint, if_pos rfl]
  have haccepted : Accepted (endpointHost q) (endpointManifest endpointDigest .null) [] "review-1" :=
    endpointManifest_accepted rfl
  exact parseInFlightInventory_eq_ok.mpr ⟨_, _, _, hread, haccepted, rfl⟩

theorem endpointContents_tooLarge : parseInFlightInventory (endpointHost q) (endpointContents (.num (.finite q))) =
    .ok (endpointInventory q (.num (.infinite false))) := by
  have hne : endpointContents (.num (.finite q)) ≠ endpointContents .null := by
    intro h
    have hfinite : (Json.num (.finite q)).Finite := ⟨q, rfl⟩
    have hnull : Json.null.Finite := trivial
    cases endpoint_of_contents hfinite hnull h
  have hread : (endpointHost q).jsonParse (endpointContents (.num (.finite q))) =
      some (endpointManifest endpointDigest (.num (.infinite false))) := by
    rw [endpointHost_reads, readEndpoint, if_neg hne, if_pos rfl]
  have haccepted : Accepted (endpointHost q) (endpointManifest endpointDigest (.num (.infinite false))) []
      "review-1" := endpointManifest_accepted rfl
  exact parseInFlightInventory_eq_ok.mpr ⟨_, _, _, hread, haccepted, rfl⟩

theorem endpoint_written :
    written (unsignedPart (endpointManifest endpointDigest (.num (.infinite false)))) =
      written (unsignedPart (endpointManifest endpointDigest .null)) := by
  simp [endpointManifest, unsignedPart, written]

theorem endpoint_hashed (host : Host) :
    hashedText host (unsignedPart (endpointManifest endpointDigest (.num (.infinite false)))) =
      hashedText host (unsignedPart (endpointManifest endpointDigest .null)) :=
  hashedText_of_written endpoint_written

theorem endpoint_sameChecksum (endpoint endpoint' : Json) : SameChecksum (endpointHost q)
    (endpointManifest endpointDigest endpoint) (endpointManifest endpointDigest endpoint') :=
  ⟨_, _, rfl, rfl, rfl⟩

theorem checksum_binds_endpoint : SameInventory (endpointInventory (10 ^ 999) .null)
    (endpointInventory (10 ^ 999) (.num (.infinite false))) :=
  ((checksum_binds (exactly_prints _)).2.2 {hashedText _ (unsignedPart (endpointManifest endpointDigest .null))}
    (Set.injOn_singleton _ _) _ _ _ _ (endpointContents_null (10 ^ 999)) (endpointContents_tooLarge (10 ^ 999)) rfl
    (endpoint_hashed _) (endpoint_sameChecksum (10 ^ 999) _ _)).1

/-- Two manifests with one checksum that differ in a field: a number too large for a
double is hashed as `null`. -/
theorem checksum_admits_overflow : PrintsNumbers (endpointHost (10 ^ 999)) ∧
    parseInFlightInventory (endpointHost (10 ^ 999)) (endpointContents .null) =
      .ok (endpointInventory (10 ^ 999) .null) ∧
    parseInFlightInventory (endpointHost (10 ^ 999)) (endpointContents (.num (.finite (10 ^ 999)))) =
      .ok (endpointInventory (10 ^ 999) (.num (.infinite false))) ∧
    hashedText (endpointHost (10 ^ 999))
        (unsignedPart (endpointInventory (10 ^ 999) (.num (.infinite false))).manifest) =
      hashedText (endpointHost (10 ^ 999)) (unsignedPart (endpointInventory (10 ^ 999) .null).manifest) ∧
    SameChecksum (endpointHost (10 ^ 999)) (endpointInventory (10 ^ 999) .null).manifest
      (endpointInventory (10 ^ 999) (.num (.infinite false))).manifest ∧
    ¬ SameValue (unsignedPart (endpointInventory (10 ^ 999) .null).manifest)
      (unsignedPart (endpointInventory (10 ^ 999) (.num (.infinite false))).manifest) := by
  refine ⟨exactly_prints _, endpointContents_null _, endpointContents_tooLarge _, endpoint_hashed _,
    endpoint_sameChecksum _ _ _, fun h => ?_⟩
  have hidentities := get_sameValue h "identities"
  cases hidentities with
  | some hidentities =>
    cases get_sameValue hidentities "solana" with
    | some hsolana =>
      cases get_sameValue hsolana "endpoint" with
      | some hendpoint => simp [SameValue] at hendpoint

end Sample

end SanBridge.Tooling.Binding
