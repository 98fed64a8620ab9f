import SanBridge.Tooling.Inventory

namespace SanBridge.Tooling.Acceptance

open Library.Checked Tooling.Runtime Tooling.Inventory

variable {host : Host} {v : Value} {label : String}

section Fields

def ReadsUnsigned (v : Value) (positive : Bool) (n : Nat) : Prop :=
  ∃ s, v = some (.str s) ∧ isDigits s = true ∧ (positive = true → 0 < n) ∧ decimalValue s = n

def ReadsHash (host : Host) (v : Value) (r : String) : Prop :=
  ∃ s, v = some (.str s) ∧ isHash32 s = true ∧ host.toLowerCase s = r

def ReadsText (v : Value) (s : String) : Prop := v = some (.str s) ∧ blank s = false

theorem unsignedInteger_eq_ok {positive : Bool} {n : Nat} :
    unsignedInteger v label positive = .ok n ↔ ReadsUnsigned v positive n := by
  cases v with
  | none => simp [unsignedInteger, ReadsUnsigned]
  | some v =>
    cases v with
    | str s =>
      simp only [unsignedInteger, ReadsUnsigned, bind_eq_ok, require_eq_ok, Except.ok.injEq, exists_const,
        Option.some.injEq, Json.str.injEq, exists_eq_left']
      refine and_congr_right fun _ => ?_
      constructor
      · rintro ⟨hp, rfl⟩
        exact ⟨fun h => by simpa [h] using hp, rfl⟩
      · rintro ⟨hp, rfl⟩
        refine ⟨?_, rfl⟩
        cases positive with
        | false => rfl
        | true => simpa using hp rfl
    | null | bool _ | num _ | arr _ | obj _ => simp [unsignedInteger, ReadsUnsigned]

theorem hash32_eq_ok {r : String} : hash32 host v label = .ok r ↔ ReadsHash host v r := by
  cases v with
  | none => simp [hash32, ReadsHash]
  | some v =>
    cases v with
    | str s => simp [hash32, ReadsHash, bind_eq_ok]
    | null | bool _ | num _ | arr _ | obj _ => simp [hash32, ReadsHash]

theorem nonempty_eq_ok {s : String} : nonempty v label = .ok s ↔ ReadsText v s := by
  cases v with
  | none => simp [nonempty, ReadsText]
  | some v =>
    cases v with
    | str t =>
      simp only [nonempty, ReadsText, bind_eq_ok, require_eq_ok, Bool.not_eq_true', Except.ok.injEq,
        exists_const, Option.some.injEq, Json.str.injEq]
      constructor
      · rintro ⟨hb, rfl⟩
        exact ⟨rfl, hb⟩
      · rintro ⟨rfl, hb⟩
        exact ⟨hb, rfl⟩
    | null | bool _ | num _ | arr _ | obj _ => simp [nonempty, ReadsText]

theorem ReadsUnsigned.functional {p q : Bool} {m n : Nat} (hm : ReadsUnsigned v p m)
    (hn : ReadsUnsigned v q n) : m = n := by
  obtain ⟨s, hs, _, _, rfl⟩ := hm
  obtain ⟨t, ht, _, _, rfl⟩ := hn
  rw [hs, Option.some.injEq, Json.str.injEq] at ht
  rw [ht]

end Fields

section Messages

/-- The block hash of an event: any text on Solana, a hash on Robinhood. -/
def ReadsBlockHash (host : Host) (solana : Bool) (v : Value) : Prop :=
  if solana then ∃ s, ReadsText v s else ∃ r, ReadsHash host v r

theorem blockHash_eq_ok {solana : Bool} {textLabel hashLabel : String} :
    (∃ r, blockHash host solana v textLabel hashLabel = .ok r) ↔ ReadsBlockHash host solana v := by
  cases solana with
  | true => simp [blockHash, ReadsBlockHash, nonempty_eq_ok]
  | false => simp [blockHash, ReadsBlockHash, hash32_eq_ok]

def InRange (manifest : Value) (solana : Bool) (height : Nat) : Prop :=
  ∃ start stop, ReadsUnsigned (rangeStart manifest solana) false start ∧
    ReadsUnsigned (rangeEnd manifest solana) false stop ∧ start ≤ height ∧ height ≤ stop

def guidOf (host : Host) (message : Value) : String :=
  match get message "guid" with
  | some (.str s) => host.toLowerCase s
  | _ => ""

def amountOf (message : Value) : Nat :=
  match get message "amountRaw" with
  | some (.str s) => decimalValue s
  | _ => 0

structure DestinationPresent (host : Host) (manifest message : Value) (apiStatus : String) : Prop where
  transaction : truthy (get message "destinationTransaction") = true
  height : truthy (get message "destinationHeight") = true
  blockHash : truthy (get message "destinationBlockHash") = true
  inRange : ∃ n, ReadsUnsigned (get message "destinationHeight") false n ∧
    InRange manifest (!isSolanaToRobinhood message) n
  readsBlockHash : ReadsBlockHash host (!isSolanaToRobinhood message) (get message "destinationBlockHash")
  api : host.toUpperCase apiStatus ∈ ["DELIVERED", "CONFIRMING"]

structure DestinationAbsent (host : Host) (message : Value) (apiStatus : String) : Prop where
  transaction : isNullish (get message "destinationTransaction") = true
  height : isNullish (get message "destinationHeight") = true
  blockHash : isNullish (get message "destinationBlockHash") = true
  api : host.toUpperCase apiStatus ≠ "DELIVERED"

def DestinationAccepted (host : Host) (manifest message : Value) (apiStatus : String) : Prop :=
  if isDelivered message then DestinationPresent host manifest message apiStatus
  else DestinationAbsent host message apiStatus

variable {manifest message : Value} {guid apiStatus : String}

theorem validateDestination_eq_ok {u : Unit} :
    validateDestination host manifest message guid apiStatus = .ok u ↔
      DestinationAccepted host manifest message apiStatus := by
  cases hd : isDelivered message with
  | true =>
    simp only [validateDestination, DestinationAccepted, hd, if_true, bind_eq_ok, require_eq_ok,
      unsignedInteger_eq_ok, decide_eq_true_eq, exists_const]
    constructor
    · rintro ⟨⟨ht, hh, hk⟩, n, hn, start, hs, stop, he, hr, r, hbr, hapi⟩
      exact ⟨ht, hh, hk, ⟨n, hn, start, stop, hs, he, hr⟩, blockHash_eq_ok.mp ⟨r, hbr⟩, hapi⟩
    · rintro ⟨ht, hh, hk, ⟨n, hn, start, stop, hs, he, hr⟩, hbr, hapi⟩
      obtain ⟨r, hr'⟩ := blockHash_eq_ok.mpr hbr
      exact ⟨⟨ht, hh, hk⟩, n, hn, start, hs, stop, he, hr, r, hr', hapi⟩
  | false =>
    simp only [validateDestination, DestinationAccepted, hd, Bool.false_eq_true, if_false, bind_eq_ok,
      require_eq_ok, decide_eq_true_eq, exists_const]
    constructor
    · rintro ⟨⟨ht, hh, hk⟩, hapi⟩
      exact ⟨ht, hh, hk, hapi⟩
    · rintro ⟨ht, hh, hk, hapi⟩
      exact ⟨⟨ht, hh, hk⟩, hapi⟩

structure SourceAccepted (host : Host) (manifest message : Value) (sourceOft destinationOft : String)
    (height : Nat) : Prop where
  source : equalIdentity host sourceOft (pathway manifest (isSolanaToRobinhood message)).1 = .ok true
  destination : equalIdentity host destinationOft (pathway manifest (isSolanaToRobinhood message)).2 = .ok true
  inRange : InRange manifest (isSolanaToRobinhood message) height
  readsBlockHash : ReadsBlockHash host (isSolanaToRobinhood message) (get message "sourceBlockHash")

theorem validateSource_eq_ok {sourceOft destinationOft : String} {height : Nat} {u : Unit} :
    validateSource host manifest message guid sourceOft destinationOft height = .ok u ↔
      SourceAccepted host manifest message sourceOft destinationOft height := by
  simp only [validateSource, bind_eq_ok, require_eq_ok, unsignedInteger_eq_ok, decide_eq_true_eq,
    exists_const, pure_eq_ok, and_true]
  constructor
  · rintro ⟨_, ha, rfl, _, hb, rfl, start, hstart, stop, hstop, hr, r, hblock⟩
    exact ⟨ha, hb, ⟨start, stop, hstart, hstop, hr⟩, blockHash_eq_ok.mp ⟨r, hblock⟩⟩
  · rintro ⟨ha, hb, ⟨start, stop, hstart, hstop, hr⟩, hblock⟩
    obtain ⟨r, hr'⟩ := blockHash_eq_ok.mpr hblock
    exact ⟨_, ha, rfl, _, hb, rfl, start, hstart, stop, hstop, hr, r, hr'⟩

structure MessageAccepted (host : Host) (manifest message : Value) (amount : Nat) : Prop where
  sourceNonce : ∃ n, ReadsUnsigned (get message "sourceNonce") true n
  amountRaw : ReadsUnsigned (get message "amountRaw") true amount
  sourceTransaction : ∃ s, ReadsText (get message "sourceTransaction") s
  sourceBlockHash : ∃ s, ReadsText (get message "sourceBlockHash") s
  receiver : ∃ s, ReadsText (get message "receiver") s
  sourceEventIndex : isSafeIndex (get message "sourceEventIndex") = true
  direction : ["solana-to-robinhood", "robinhood-to-solana"].any (isStr (get message "direction")) = true
  status : ["in_flight", "delivered", "failed", "blocked", "unresolved"].any (isStr (get message "status")) = true
  source : ∃ height sourceOft destinationOft, ReadsUnsigned (get message "sourceHeight") false height ∧
    ReadsText (get message "sourceOft") sourceOft ∧ ReadsText (get message "destinationOft") destinationOft ∧
    SourceAccepted host manifest message sourceOft destinationOft height
  destination : ∃ apiStatus, ReadsText (get message "layerZeroApiStatus") apiStatus ∧
    DestinationAccepted host manifest message apiStatus

theorem validateMessage_eq_ok {amount : Nat} :
    validateMessage host manifest message guid = .ok amount ↔ MessageAccepted host manifest message amount := by
  simp only [validateMessage, bind_eq_ok, require_eq_ok, unsignedInteger_eq_ok, nonempty_eq_ok,
    validateSource_eq_ok, validateDestination_eq_ok, exists_const, Except.ok.injEq]
  constructor
  · rintro ⟨nonce, hnonce, height, hheight, n, hn, tx, htx, block, hblock, src, hsrc, dst, hdst, rcv, hrcv,
      hindex, hdir, hstatus, api, hapi, hsource, hdest, rfl⟩
    exact ⟨⟨nonce, hnonce⟩, hn, ⟨tx, htx⟩, ⟨block, hblock⟩, ⟨rcv, hrcv⟩, hindex, hdir, hstatus,
      ⟨height, src, dst, hheight, hsrc, hdst, hsource⟩, ⟨api, hapi, hdest⟩⟩
  · rintro ⟨⟨nonce, hnonce⟩, hn, ⟨tx, htx⟩, ⟨block, hblock⟩, ⟨rcv, hrcv⟩, hindex, hdir, hstatus,
      ⟨height, src, dst, hheight, hsrc, hdst, hsource⟩, ⟨api, hapi, hdest⟩⟩
    exact ⟨nonce, hnonce, height, hheight, amount, hn, tx, htx, block, hblock, src, hsrc, dst, hdst, rcv, hrcv,
      hindex, hdir, hstatus, api, hapi, hsource, hdest, rfl⟩

def HasKeys (v : Value) (expected : List String) : Prop :=
  ∃ actual, objectKeys v = .ok actual ∧ sortStrings actual = sortStrings expected

theorem exactKeys_eq_ok {expected : List String} {u : Unit} :
    exactKeys v expected label = .ok u ↔ HasKeys v expected := by
  simp [exactKeys, HasKeys, bind_eq_ok]

theorem ReadsUnsigned.eq_amountOf {positive : Bool} {n : Nat}
    (h : ReadsUnsigned (get message "amountRaw") positive n) : n = amountOf message := by
  obtain ⟨s, hs, _, _, rfl⟩ := h
  rw [amountOf, hs]

theorem ReadsHash.eq_guidOf {r : String} (h : ReadsHash host (get message "guid") r) :
    r = guidOf host message := by
  obtain ⟨s, hs, _, rfl⟩ := h
  rw [guidOf, hs]

structure Admitted (host : Host) (manifest : Value) (message : Json) : Prop where
  keys : HasKeys (some message) messageKeys
  guid : ReadsHash host (get message "guid") (guidOf host message)
  accepted : MessageAccepted host manifest message (amountOf message)

def countMessage (host : Host) (t : Tally) (message : Json) : Tally :=
  t.add (guidOf host message) (isSolanaToRobinhood message) (isDelivered message) (amountOf message)

theorem tallyMessage_eq_ok {t t' : Tally} {message : Json} :
    tallyMessage host manifest t message = .ok t' ↔
      Admitted host manifest message ∧ guidOf host message ∉ t.seen ∧ t' = countMessage host t message := by
  simp only [tallyMessage, bind_eq_ok, exactKeys_eq_ok, hash32_eq_ok, require_eq_ok, decide_eq_true_eq,
    validateMessage_eq_ok, exists_const, Except.ok.injEq]
  constructor
  · rintro ⟨hkeys, guid, hguid, hnew, amount, hm, rfl⟩
    obtain rfl := hguid.eq_guidOf
    obtain rfl := hm.amountRaw.eq_amountOf
    exact ⟨⟨hkeys, hguid, hm⟩, hnew, rfl⟩
  · rintro ⟨⟨hkeys, hguid, hm⟩, hnew, rfl⟩
    exact ⟨hkeys, _, hguid, hnew, _, hm, rfl⟩

theorem foldlM_tallyMessage {messages : List Json} {t t' : Tally} :
    messages.foldlM (tallyMessage host manifest) t = .ok t' ↔
      (∀ m ∈ messages, Admitted host manifest m ∧ guidOf host m ∉ t.seen) ∧
        (messages.map fun m => guidOf host (some m)).Nodup ∧ t' = messages.foldl (countMessage host) t := by
  induction messages generalizing t with
  | nil =>
    simp only [List.foldlM_nil, pure_eq_ok, List.not_mem_nil, false_imp_iff, implies_true, List.map_nil,
      List.nodup_nil, List.foldl_nil, true_and]
    exact eq_comm
  | cons m messages ih =>
    rw [List.foldlM_cons, bind_eq_ok]
    simp only [tallyMessage_eq_ok, ih, List.mem_cons, forall_eq_or_imp, List.map_cons, List.nodup_cons,
      List.foldl_cons]
    have hseen : ∀ g, g ∈ (countMessage host t m).seen ↔ g = guidOf host m ∨ g ∈ t.seen :=
      fun g => List.mem_cons
    constructor
    · rintro ⟨_, ⟨hm, hnew, rfl⟩, hall, hnodup, rfl⟩
      refine ⟨⟨⟨hm, hnew⟩, fun m' hm' => ⟨(hall m' hm').1, ?_⟩⟩, ⟨?_, hnodup⟩, rfl⟩
      · exact fun hc => (hall m' hm').2 ((hseen _).mpr (.inr hc))
      · rw [List.mem_map]
        rintro ⟨m', hm', he⟩
        exact (hall m' hm').2 ((hseen _).mpr (.inl he))
    · rintro ⟨⟨⟨hm, hnew⟩, hall⟩, ⟨hfresh, hnodup⟩, rfl⟩
      refine ⟨_, ⟨hm, hnew, rfl⟩, fun m' hm' => ⟨(hall m' hm').1, ?_⟩, hnodup, rfl⟩
      intro hc
      cases (hseen _).mp hc with
      | inl he => exact hfresh (he ▸ List.mem_map_of_mem hm')
      | inr hc => exact (hall m' hm').2 hc

def outstanding (solanaToRobinhood : Bool) (messages : List Json) : Nat :=
  ((messages.filter fun m => isSolanaToRobinhood (some m) = solanaToRobinhood ∧ isDelivered (some m) = false).map
    fun m => amountOf (some m)).sum

def undelivered (messages : List Json) : List Json := messages.filter fun m => isDelivered (some m) = false

theorem outstanding_cons {stor : Bool} {m : Json} {messages : List Json} :
    outstanding stor (m :: messages) =
      (if isSolanaToRobinhood m = stor ∧ isDelivered m = false then amountOf m else 0) +
        outstanding stor messages := by
  by_cases h : isSolanaToRobinhood (some m) = stor ∧ isDelivered (some m) = false
  · rw [outstanding, List.filter_cons_of_pos (by simpa using h), if_pos h]
    rfl
  · rw [outstanding, List.filter_cons_of_neg (by simpa using h), if_neg h, Nat.zero_add]
    rfl

theorem foldl_countMessage {messages : List Json} {t : Tally} :
    messages.foldl (countMessage host) t =
      ⟨(messages.map fun m => guidOf host (some m)).reverse ++ t.seen,
        t.solanaToRobinhoodRaw + outstanding true messages,
        t.robinhoodToSolanaRaw + outstanding false messages,
        t.unresolvedPacketCount + (undelivered messages).length⟩ := by
  induction messages generalizing t with
  | nil => rfl
  | cons m messages ih =>
    rw [List.foldl_cons, ih, outstanding_cons, outstanding_cons]
    cases hd : isDelivered (some m) with
    | true => simp [countMessage, Tally.add, hd, undelivered]
    | false =>
      cases hs : isSolanaToRobinhood (some m) with
      | true => simp [countMessage, Tally.add, hd, hs, undelivered]; omega
      | false => simp [countMessage, Tally.add, hd, hs, undelivered]; omega

end Messages

section Manifest

def CompleteRange (range : Value) (start stop finalized : String) : Prop :=
  ∃ m n, ReadsUnsigned (get range start) false m ∧ ReadsUnsigned (get range stop) true n ∧
    ReadsUnsigned (get range finalized) true n ∧ m ≤ n

structure RangeAccepted (host : Host) (solana robinhood : Value) : Prop where
  solanaKeys : HasKeys solana solanaRangeKeys
  robinhoodKeys : HasKeys robinhood robinhoodRangeKeys
  solanaRange : CompleteRange solana "fromSlot" "toSlot" "finalizedSlot"
  robinhoodRange : CompleteRange robinhood "fromBlock" "toBlock" "finalizedBlock"
  complete : truthy (get solana "complete") = true ∧ truthy (get solana "paginationComplete") = true ∧
    truthy (get robinhood "complete") = true ∧ truthy (get robinhood "paginationComplete") = true
  genesisHash : ReadsText (get solana "genesisHash") solanaMainnetGenesisHash
  startBlockhash : ∃ s, ReadsText (get solana "startBlockhash") s
  endBlockhash : ∃ s, ReadsText (get solana "endBlockhash") s
  startBlockHash : ∃ r, ReadsHash host (get robinhood "startBlockHash") r
  endBlockHash : ∃ r, ReadsHash host (get robinhood "endBlockHash") r

theorem validateRange_eq_ok {manifest : Value} {u : Unit} :
    validateRange host manifest = .ok u ↔
      RangeAccepted host (get (get manifest "ranges") "solana") (get (get manifest "ranges") "robinhood") := by
  simp only [validateRange, bind_eq_ok, exactKeys_eq_ok, unsignedInteger_eq_ok, nonempty_eq_ok, hash32_eq_ok,
    require_eq_ok, decide_eq_true_eq, exists_const, pure_eq_ok, and_true]
  constructor
  · rintro ⟨hs, hr, m, hm, n, hn, n', hn', ⟨hle, rfl⟩, k, hk, l, hl, l', hl', ⟨hle', rfl⟩, hc, g, hg, rfl,
      a, ha, b, hb, c, hcc, d, hd⟩
    exact ⟨hs, hr, ⟨m, n, hm, hn, hn', hle⟩, ⟨k, l, hk, hl, hl', hle'⟩, hc, hg, ⟨a, ha⟩, ⟨b, hb⟩, ⟨c, hcc⟩, ⟨d, hd⟩⟩
  · rintro ⟨hs, hr, ⟨m, n, hm, hn, hn', hle⟩, ⟨k, l, hk, hl, hl', hle'⟩, hc, hg, ⟨a, ha⟩, ⟨b, hb⟩, ⟨c, hcc⟩, ⟨d, hd⟩⟩
    exact ⟨hs, hr, m, hm, n, hn, n, hn', ⟨hle, rfl⟩, k, hk, l, hl, l, hl', ⟨hle', rfl⟩, hc, _, hg, rfl,
      a, ha, b, hb, c, hcc, d, hd⟩

/-- Every height the parser compares with a range is compared with numbers. -/
theorem RangeAccepted.ends {manifest : Value}
    (h : RangeAccepted host (get (get manifest "ranges") "solana") (get (get manifest "ranges") "robinhood"))
    (solana : Bool) :
    ∃ start stop, ReadsUnsigned (rangeStart manifest solana) false start ∧
      ReadsUnsigned (rangeEnd manifest solana) true stop := by
  cases solana with
  | true =>
    obtain ⟨m, n, hm, hn, _⟩ := h.solanaRange
    exact ⟨m, n, hm, hn⟩
  | false =>
    obtain ⟨m, n, hm, hn, _⟩ := h.robinhoodRange
    exact ⟨m, n, hm, hn⟩

def inventoryOf (host : Host) (value : Json) (messages : List Json) (inventoryId : String) :
    InFlightInventory where
  manifest := value
  inventoryId := inventoryId
  inventorySha256 := manifestChecksum host (unsignedPart value)
  messageCount := messages.length
  unresolvedPacketCount := (undelivered messages).length
  solanaToRobinhoodRaw := outstanding true messages
  robinhoodToSolanaRaw := outstanding false messages

structure SummaryAccepted (summary : Value) (messages : List Json) : Prop where
  resultCount : isNum (get summary "resultCount") messages.length = true
  unresolvedPacketCount : isNum (get summary "unresolvedPacketCount") (undelivered messages).length = true
  solanaToRobinhoodRaw : ReadsUnsigned (get summary "solanaToRobinhoodRaw") false (outstanding true messages)
  robinhoodToSolanaRaw : ReadsUnsigned (get summary "robinhoodToSolanaRaw") false (outstanding false messages)

theorem validateSummary_eq_ok {summary : Value} {messages : List Json} {u : Unit} :
    validateSummary summary (messages.foldl (countMessage host) .empty) = .ok u ↔
      SummaryAccepted summary messages := by
  simp only [validateSummary, foldl_countMessage, Tally.empty, List.append_nil, List.length_reverse,
    List.length_map, Nat.zero_add, bind_eq_ok, require_eq_ok, unsignedInteger_eq_ok, decide_eq_true_eq,
    exists_const]
  constructor
  · rintro ⟨hc, hu, _, hs, rfl, _, hr, rfl⟩
    exact ⟨hc, hu, hs, hr⟩
  · rintro ⟨hc, hu, hs, hr⟩
    exact ⟨hc, hu, _, hs, rfl, _, hr, rfl⟩

/-- What the parser asks of a manifest with these messages. -/
structure Accepted (host : Host) (value : Json) (messages : List Json) (inventoryId : String) : Prop where
  isObject : isObject value = true
  keys : HasKeys (some value) manifestKeys
  identity : validateIdentity host value = .ok inventoryId
  range : RangeAccepted host (get (get value "ranges") "solana") (get (get value "ranges") "robinhood")
  provenance : validateProvenance value = .ok ()
  readsMessages : get value "messages" = some (.arr messages)
  summaryKeys : HasKeys (get value "summary")
    ["resultCount", "unresolvedPacketCount", "solanaToRobinhoodRaw", "robinhoodToSolanaRaw"]
  ordered : ∃ ordered, canonicalOrder host messages = .ok ordered ∧
    canonicalJson host (.arr ordered) = canonicalJson host (.arr messages)
  admitted : ∀ m ∈ messages, Admitted host value m
  distinct : (messages.map fun m => guidOf host (some m)).Nodup
  summary : SummaryAccepted (get value "summary") messages
  checksum : ReadsHash host (get value "manifestChecksum") (manifestChecksum host (unsignedPart value))

theorem asMessages_eq_ok {messages : List Json} :
    asMessages v = .ok messages ↔ v = some (.arr messages) := by
  cases v with
  | none => simp [asMessages]
  | some v => cases v <;> simp [asMessages]

theorem parseManifest_eq_ok {value : Json} {inventory : InFlightInventory} :
    parseManifest host value = .ok inventory ↔
      ∃ messages inventoryId, Accepted host value messages inventoryId ∧
        inventory = inventoryOf host value messages inventoryId := by
  simp only [parseManifest, bind_eq_ok, exactKeys_eq_ok, require_eq_ok, decide_eq_true_eq, validateRange_eq_ok,
    asMessages_eq_ok, foldlM_tallyMessage, hash32_eq_ok, exists_const, Except.ok.injEq]
  constructor
  · rintro ⟨hobj, hkeys, id, hid, hrange, ⟨⟩, hprov, messages, hm, hsummaryKeys, ordered, hordered, hcanon,
      _, ⟨hall, hnodup, rfl⟩, ⟨⟩, hsummary, _, hchecksum, rfl, rfl⟩
    have hsum := validateSummary_eq_ok.mp hsummary
    refine ⟨messages, id, ⟨hobj, hkeys, hid, hrange, hprov, hm, hsummaryKeys, ⟨ordered, hordered, hcanon⟩,
      fun m hm => (hall m hm).1, hnodup, hsum, hchecksum⟩, ?_⟩
    simp [foldl_countMessage, inventoryOf, Tally.empty]
  · rintro ⟨messages, id, h, rfl⟩
    obtain ⟨ordered, hordered, hcanon⟩ := h.ordered
    refine ⟨h.isObject, h.keys, id, h.identity, h.range, (), h.provenance, messages, h.readsMessages, h.summaryKeys,
      ordered, hordered, hcanon, _, ⟨fun m hm => ⟨h.admitted m hm, List.not_mem_nil⟩, h.distinct, rfl⟩, (),
      validateSummary_eq_ok.mpr h.summary, _, h.checksum, rfl, ?_⟩
    simp [foldl_countMessage, inventoryOf, Tally.empty]

theorem parseInFlightInventory_eq_ok {contents : String} {inventory : InFlightInventory} :
    parseInFlightInventory host contents = .ok inventory ↔
      ∃ value messages inventoryId, host.jsonParse contents = some value ∧
        Accepted host value messages inventoryId ∧ inventory = inventoryOf host value messages inventoryId := by
  simp only [parseInFlightInventory, bind_eq_ok, ofOption_eq_ok, parseManifest_eq_ok]
  constructor
  · rintro ⟨value, hv, messages, id, h⟩
    exact ⟨value, messages, id, hv, h⟩
  · rintro ⟨value, messages, id, hv, h⟩
    exact ⟨value, hv, messages, id, h⟩

end Manifest

end SanBridge.Tooling.Acceptance
