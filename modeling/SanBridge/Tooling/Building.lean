import Mathlib.Tactic.Ring
import SanBridge.Library.Matching
import SanBridge.Tooling.Acceptance
import SanBridge.Tooling.Manifest

namespace SanBridge.Tooling.Building

open Library.Checked Library.Matching Tooling.Runtime Tooling.Inventory Tooling.Manifest Tooling.Acceptance

variable {host : Host}

section Evidence

variable {m : InFlightMessageEvidence}

theorem text_injective : Function.Injective InFlightDirection.text := by
  intro a b h
  cases a <;> cases b <;> first | rfl | simp [InFlightDirection.text] at h

theorem amountOf_toJson : amountOf m.toJson = decimalValue m.amountRaw := rfl

theorem isSolanaToRobinhood_toJson :
    isSolanaToRobinhood m.toJson = decide (m.direction = .solanaToRobinhood) := by
  change decide (m.direction.text = "solana-to-robinhood") = _
  cases m.direction <;> rfl

theorem isDelivered_toJson : isDelivered m.toJson = decide (m.status = .delivered) := by
  change decide (m.status.text = "delivered") = _
  cases m.status <;> rfl

end Evidence

section Index

def entryOf (host : Host) (d : InFlightMessageEvidence) : String × InFlightMessageEvidence :=
  (host.toLowerCase d.guid, d)

theorem insertDestination_eq_ok {acc entries : EvidenceMap} {d : InFlightMessageEvidence} :
    insertDestination host acc d = .ok entries ↔
      host.toLowerCase d.guid ∉ acc.map Prod.fst ∧ entries = acc ++ [entryOf host d] := by
  simp only [insertDestination, bind_eq_ok, require_eq_ok, Option.isNone_iff_eq_none, lookup_eq_none,
    exists_const, Except.ok.injEq]
  exact and_congr_right fun _ => eq_comm

theorem foldlM_insertDestination {ds : List InFlightMessageEvidence} {acc entries : EvidenceMap} :
    ds.foldlM (insertDestination host) acc = .ok entries ↔
      (∀ d ∈ ds, host.toLowerCase d.guid ∉ acc.map Prod.fst) ∧
        (ds.map fun d => host.toLowerCase d.guid).Nodup ∧ entries = acc ++ ds.map (entryOf host) := by
  induction ds generalizing acc with
  | nil =>
    rw [List.foldlM_nil, pure_eq_ok]
    simp [eq_comm]
  | cons d ds ih =>
    rw [List.foldlM_cons, bind_eq_ok]
    simp only [insertDestination_eq_ok, ih, List.mem_cons, forall_eq_or_imp, List.map_cons, List.nodup_cons]
    constructor
    · rintro ⟨_, ⟨hnew, rfl⟩, hall, hnodup, rfl⟩
      refine ⟨⟨hnew, fun d' hd' hc => hall d' hd' ?_⟩, ⟨fun hc => ?_, hnodup⟩, by simp⟩
      · rw [List.map_append]
        exact List.mem_append_left _ hc
      · obtain ⟨d', hd', he⟩ := List.mem_map.mp hc
        exact hall d' hd' (by simp [he, entryOf])
    · rintro ⟨⟨hnew, hall⟩, ⟨hfresh, hnodup⟩, rfl⟩
      refine ⟨_, ⟨hnew, rfl⟩, fun d' hd' hc => ?_, hnodup, by simp⟩
      rw [List.map_append, List.mem_append] at hc
      cases hc with
      | inl hc => exact hall d' hd' hc
      | inr hc =>
        have he : host.toLowerCase d'.guid = host.toLowerCase d.guid := by simpa [entryOf] using hc
        exact hfresh (he ▸ List.mem_map_of_mem hd')

theorem indexDestinations_eq_ok {ds : List InFlightMessageEvidence} {entries : EvidenceMap} :
    indexDestinations host ds = .ok entries ↔
      (ds.map fun d => host.toLowerCase d.guid).Nodup ∧ entries = ds.map (entryOf host) := by
  simp [indexDestinations, foldlM_insertDestination]

end Index

section Matching

variable {statuses : Option (String → Option String)}

def sourceKey (host : Host) (s : InFlightMessageEvidence) : String := host.toLowerCase s.guid

/-- Source and destination evidence of one transfer, as the scanner compares them. -/
structure Agrees (host : Host) (source destination : InFlightMessageEvidence) : Prop where
  direction : destination.direction = source.direction
  amountRaw : destination.amountRaw = source.amountRaw
  receiver : host.toLowerCase destination.receiver = host.toLowerCase source.receiver

abbrev Match := InFlightMessageEvidence × Option InFlightMessageEvidence

def settle (host : Host) (statuses : Option (String → Option String)) : Match → InFlightMessageEvidence
  | (source, some destination) => deliver source destination (apiStatusOf statuses (sourceKey host source))
  | (source, none) => leaveUnresolved host source (apiStatusOf statuses (sourceKey host source))

def Compatible (host : Host) (statuses : Option (String → Option String)) : Match → Prop
  | (source, some destination) => Agrees host source destination ∧
      ((apiStatusOf statuses (sourceKey host source)).getD "" = "" ∨
        host.toUpperCase ((apiStatusOf statuses (sourceKey host source)).getD "") ∈ ["DELIVERED", "CONFIRMING"])
  | (source, none) => (apiStatusOf statuses (sourceKey host source)).map host.toUpperCase ≠ some "DELIVERED"

theorem matchSource_eq_ok {entries rest : EvidenceMap} {source message : InFlightMessageEvidence} :
    matchSource host statuses entries source = .ok (message, rest) ↔
      Compatible host statuses (source, entries.lookup (sourceKey host source)) ∧
        message = settle host statuses (source, entries.lookup (sourceKey host source)) ∧
        rest = entries.filter fun e => e.1 ≠ sourceKey host source := by
  cases hl : entries.lookup (sourceKey host source) with
  | none =>
    rw [filter_eq_self_of_lookup hl]
    rw [sourceKey] at hl
    simp only [matchSource, hl, bind_eq_ok, require_eq_ok, decide_eq_true_eq, exists_const, Except.ok.injEq,
      Prod.mk.injEq, Compatible, settle, sourceKey]
    exact and_congr_right fun _ => and_congr eq_comm eq_comm
  | some destination =>
    rw [sourceKey] at hl
    simp only [matchSource, hl, bind_eq_ok, require_eq_ok, decide_eq_true_eq, exists_const, Except.ok.injEq,
      Prod.mk.injEq, Compatible, settle, sourceKey]
    constructor
    · rintro ⟨⟨hd, ha, hr⟩, hapi, rfl, rfl⟩
      exact ⟨⟨⟨hd, ha, hr⟩, hapi⟩, rfl, rfl⟩
    · rintro ⟨⟨⟨hd, ha, hr⟩, hapi⟩, rfl, rfl⟩
      exact ⟨⟨hd, ha, hr⟩, hapi, rfl, rfl⟩

theorem matchSources_eq_ok {entries remaining : EvidenceMap} {sources messages : List InFlightMessageEvidence} :
    matchSources host statuses entries sources = .ok (messages, remaining) ↔
      (∀ p ∈ (consume (sourceKey host) entries sources).1, Compatible host statuses p) ∧
        messages = (consume (sourceKey host) entries sources).1.map (settle host statuses) ∧
        remaining = (consume (sourceKey host) entries sources).2 := by
  induction sources generalizing entries messages remaining with
  | nil => simp [matchSources, consume, eq_comm]
  | cons source sources ih =>
    simp only [matchSources, bind_eq_ok, Prod.exists, matchSource_eq_ok, ih, consume, List.mem_cons,
      forall_eq_or_imp, List.map_cons, Except.ok.injEq, Prod.mk.injEq]
    constructor
    · rintro ⟨_, _, ⟨hc, rfl, rfl⟩, _, _, ⟨hall, rfl, rfl⟩, rfl, rfl⟩
      exact ⟨⟨hc, hall⟩, rfl, rfl⟩
    · rintro ⟨⟨hc, hall⟩, rfl, rfl⟩
      exact ⟨_, _, ⟨hc, rfl, rfl⟩, _, _, ⟨hall, rfl, rfl⟩, rfl, rfl⟩

def pairing (host : Host) (r : ScannerProviderResult) : List Match :=
  (consume (sourceKey host) (r.destinationMessages.map (entryOf host)) r.sourceMessages).1

end Matching

section Build

variable {input : BuildManifestInput}

def messagesOf (host : Host) (input : BuildManifestInput) : List InFlightMessageEvidence :=
  sortMessages host ((pairing host input.primary).map (settle host input.layerZeroStatuses))

/-- What the scanner asks of the evidence it writes a manifest from. -/
structure Built (host : Host) (input : BuildManifestInput) (o : Outstanding) : Prop where
  agreement : providerComparable host input.primary = providerComparable host input.secondary
  distinct : (input.primary.destinationMessages.map fun d => host.toLowerCase d.guid).Nodup
  compatible : ∀ p ∈ pairing host input.primary, Compatible host input.layerZeroStatuses p
  consumed : (consume (sourceKey host) (input.primary.destinationMessages.map (entryOf host))
    input.primary.sourceMessages).2 = []
  totals : (messagesOf host input).foldlM addOutstanding ⟨0, 0, 0⟩ = .ok o

def manifestOf (host : Host) (input : BuildManifestInput) (o : Outstanding) : InFlightManifest :=
  ⟨unsignedManifest input (messagesOf host input) o,
    manifestChecksum host (unsignedManifest input (messagesOf host input) o).toJson⟩

theorem messages_manifestOf : (manifestOf host input o).messages = messagesOf host input := rfl

theorem buildInFlightManifest_eq_ok {manifest : InFlightManifest} :
    buildInFlightManifest host input = .ok manifest ↔
      ∃ o, Built host input o ∧ manifest = manifestOf host input o := by
  simp only [buildInFlightManifest, bind_eq_ok, require_eq_ok, decide_eq_true_eq, indexDestinations_eq_ok,
    Prod.exists, matchSources_eq_ok, List.length_eq_zero_iff, exists_const, Except.ok.injEq]
  constructor
  · rintro ⟨hagree, _, ⟨hnodup, rfl⟩, _, _, ⟨hc, rfl, rfl⟩, hrest, o, ho, rfl⟩
    exact ⟨o, ⟨hagree, hnodup, hc, hrest, ho⟩, rfl⟩
  · rintro ⟨o, h, rfl⟩
    exact ⟨h.agreement, _, ⟨h.distinct, rfl⟩, _, _, ⟨h.compatible, rfl, rfl⟩, h.consumed, o, h.totals, rfl⟩

variable (host) (input) in
theorem messagesOf_perm :
    (messagesOf host input).Perm ((pairing host input.primary).map (settle host input.layerZeroStatuses)) :=
  List.perm_insertionSort _ _

theorem settle_guid {statuses : Option (String → Option String)} {p : Match} :
    (settle host statuses p).guid = p.1.guid := by
  obtain ⟨source, _ | destination⟩ := p <;> rfl

theorem settle_direction {statuses : Option (String → Option String)} {p : Match} :
    (settle host statuses p).direction = p.1.direction := by
  obtain ⟨source, _ | destination⟩ := p <;> rfl

theorem settle_amountRaw {statuses : Option (String → Option String)} {p : Match} :
    (settle host statuses p).amountRaw = p.1.amountRaw := by
  obtain ⟨source, _ | destination⟩ := p <;> rfl

theorem unresolvedStatus_ne_delivered {apiStatus : Option String} :
    unresolvedStatus host apiStatus ≠ .delivered := by
  rw [unresolvedStatus]
  split
  · split_ifs <;> simp
  · simp

theorem settle_status {statuses : Option (String → Option String)} {p : Match} :
    (settle host statuses p).status = .delivered ↔ p.2.isSome = true := by
  obtain ⟨source, _ | destination⟩ := p
  · exact iff_of_false unresolvedStatus_ne_delivered (by simp)
  · exact iff_of_true rfl rfl

theorem pairing_fst (host : Host) (r : ScannerProviderResult) : (pairing host r).map Prod.fst = r.sourceMessages :=
  consume_fst

theorem mem_of_pairing {r : ScannerProviderResult} {s d : InFlightMessageEvidence}
    (h : (s, some d) ∈ pairing host r) : d ∈ r.destinationMessages ∧ sourceKey host d = sourceKey host s := by
  obtain ⟨d', hd, he⟩ := List.mem_map.mp (mem_of_consume h)
  rw [entryOf, Prod.mk.injEq] at he
  obtain ⟨hkey, rfl⟩ := he
  exact ⟨hd, hkey⟩

theorem source_of_pairing {r : ScannerProviderResult} {p : Match} (hp : p ∈ pairing host r) :
    p.1 ∈ r.sourceMessages ∧ ∀ d, p.2 = some d → d ∈ r.destinationMessages := by
  refine ⟨?_, fun d hd => ?_⟩
  · rw [← pairing_fst host]
    exact List.mem_map_of_mem hp
  · obtain ⟨s, _⟩ := p
    subst hd
    exact (mem_of_pairing hp).1

theorem settle_index {statuses : Option (String → Option String)} {p : Match} :
    (settle host statuses p).sourceEventIndex = p.1.sourceEventIndex := by
  obtain ⟨source, _ | destination⟩ := p <;> rfl

theorem listed_of_source {s : InFlightMessageEvidence} (hs : s ∈ input.primary.sourceMessages) :
    ∃ p ∈ pairing host input.primary, p.1 = s ∧ settle host input.layerZeroStatuses p ∈ messagesOf host input := by
  rw [← pairing_fst host, List.mem_map] at hs
  obtain ⟨p, hp, rfl⟩ := hs
  exact ⟨p, hp, rfl, (messagesOf_perm host input).mem_iff.mpr (List.mem_map_of_mem hp)⟩

theorem accepted_messages {manifest : InFlightManifest} {messages : List Json} {inventoryId : String}
    (h : Accepted host manifest.toJson messages inventoryId) :
    messages = manifest.messages.map InFlightMessageEvidence.toJson := by
  have hm : get manifest.toJson "messages" =
      some (.arr (manifest.messages.map InFlightMessageEvidence.toJson)) := rfl
  have hread := h.readsMessages
  rw [hm, Option.some.injEq, Json.arr.injEq] at hread
  exact hread.symm

/-- No two messages of an accepted manifest have one GUID, so no two sources have. -/
theorem sourceKeys_nodup {messages : List Json} {inventoryId : String}
    (h : Accepted host (manifestOf host input o).toJson messages inventoryId) :
    (input.primary.sourceMessages.map (sourceKey host)).Nodup := by
  have hdistinct := h.distinct
  rw [accepted_messages h, List.map_map] at hdistinct
  have hperm := (messagesOf_perm host input).map fun m => host.toLowerCase m.guid
  have hkeys := hperm.nodup_iff.mp hdistinct
  rw [List.map_map] at hkeys
  rw [← pairing_fst host, List.map_map]
  simpa only [Function.comp_def, settle_guid, sourceKey] using hkeys

end Build

section Totals

variable {input : BuildManifestInput} {direction : InFlightDirection} {ms : List InFlightMessageEvidence}

def rawAmount (m : InFlightMessageEvidence) : Nat := decimalValue m.amountRaw

def total (direction : InFlightDirection) (ms : List InFlightMessageEvidence) : Nat :=
  ((ms.filter fun m => m.direction = direction).map rawAmount).sum

def amountIn (direction : InFlightDirection) (m : InFlightMessageEvidence) : Nat :=
  if m.direction = direction then rawAmount m else 0

theorem total_eq_sum : total direction ms = (ms.map (amountIn direction)).sum := by
  induction ms with
  | nil => rfl
  | cons m ms ih =>
    rw [List.map_cons, List.sum_cons, ← ih]
    by_cases h : m.direction = direction
    · simp [total, amountIn, h]
    · simp [total, amountIn, h]

def unsettled (ms : List InFlightMessageEvidence) : List InFlightMessageEvidence :=
  ms.filter fun m => m.status ≠ .delivered

theorem undelivered_toJson :
    undelivered (ms.map InFlightMessageEvidence.toJson) = (unsettled ms).map InFlightMessageEvidence.toJson := by
  rw [undelivered, List.filter_map, unsettled]
  congr 1
  apply List.filter_congr
  intro m _
  simp [isDelivered_toJson]

theorem outstanding_toJson :
    outstanding (decide (direction = .solanaToRobinhood)) (ms.map InFlightMessageEvidence.toJson) =
      total direction (unsettled ms) := by
  rw [outstanding, List.filter_map, List.map_map, total, unsettled, List.filter_filter]
  congr 2
  apply List.filter_congr
  intro m _
  cases direction <;> cases hm : m.direction <;> simp [isDelivered_toJson, isSolanaToRobinhood_toJson, hm]

theorem unsettled_cons (m : InFlightMessageEvidence) :
    unsettled (m :: ms) = if m.status = .delivered then unsettled ms else m :: unsettled ms := by
  by_cases h : m.status = .delivered
  · rw [if_pos h, unsettled, List.filter_cons_of_neg (by simp [h]), unsettled]
  · rw [if_neg h, unsettled, List.filter_cons_of_pos (by simp [h]), unsettled]

/-- The totals the scanner writes, when every amount is a decimal number. -/
theorem foldlM_addOutstanding {o : Outstanding} (hd : ∀ m ∈ ms, isDigits m.amountRaw = true) :
    ms.foldlM addOutstanding o = .ok
      ⟨o.solanaToRobinhoodRaw + total .solanaToRobinhood (unsettled ms),
        o.robinhoodToSolanaRaw + total .robinhoodToSolana (unsettled ms),
        o.unresolvedPacketCount + (unsettled ms).length⟩ := by
  induction ms generalizing o with
  | nil =>
    rw [List.foldlM_nil, pure_eq_ok]
    simp [unsettled, total]
  | cons m ms ih =>
    have hm : isDigits m.amountRaw = true := hd m List.mem_cons_self
    have hms : ∀ m' ∈ ms, isDigits m'.amountRaw = true := fun m' h' => hd m' (List.mem_cons_of_mem _ h')
    rw [List.foldlM_cons, unsettled_cons]
    by_cases hs : m.status = .delivered
    · rw [if_pos hs, addOutstanding, if_pos hs, ok_bind, ih hms]
    · have hv : stringToBigInt m.amountRaw = .ok (rawAmount m : Int) := by
        rw [stringToBigInt, if_pos hm, rawAmount]
      rw [if_neg hs, addOutstanding, if_neg hs, hv, ok_bind, ok_bind, ih hms]
      cases hdir : m.direction with
      | solanaToRobinhood =>
        simp only [total_eq_sum, List.map_cons, List.sum_cons, amountIn, hdir, if_true, reduceCtorEq, if_false,
          List.length_cons]
        congr 2
        · push_cast
          ring
        · push_cast
          ring
        · ring
      | robinhoodToSolana =>
        simp only [total_eq_sum, List.map_cons, List.sum_cons, amountIn, hdir, if_true, reduceCtorEq, if_false,
          List.length_cons]
        congr 2
        · push_cast
          ring
        · push_cast
          ring
        · ring

theorem unsettled_settle {statuses : Option (String → Option String)} {pairs : List Match} :
    unsettled (pairs.map (settle host statuses)) =
      (pairs.filter fun p => p.2.isNone).map (settle host statuses) := by
  rw [unsettled, List.filter_map]
  congr 1
  apply List.filter_congr
  intro p _
  obtain ⟨source, _ | destination⟩ := p <;> simp [settle_status]

theorem amountIn_settle {statuses : Option (String → Option String)} {p : Match} :
    amountIn direction (settle host statuses p) = amountIn direction p.1 := by
  rw [amountIn, amountIn, settle_direction, rawAmount, rawAmount, settle_amountRaw]

variable (host) (input) in
theorem unsettled_messagesOf :
    (unsettled (messagesOf host input)).Perm
      (((pairing host input.primary).filter fun p => p.2.isNone).map (settle host input.layerZeroStatuses)) := by
  have h := (messagesOf_perm host input).filter fun m => decide (m.status ≠ .delivered)
  rw [← unsettled, ← unsettled, unsettled_settle] at h
  exact h

theorem total_unsettled_messagesOf :
    total direction (unsettled (messagesOf host input)) =
      ((unmatched (pairing host input.primary)).map (amountIn direction)).sum := by
  rw [total_eq_sum, ((unsettled_messagesOf host input).map _).sum_eq, unmatched, List.map_map, List.map_map]
  congr 1
  exact List.map_congr_left fun p _ => amountIn_settle

theorem Built.keys_nodup {o : Outstanding} (h : Built host input o) :
    ((input.primary.destinationMessages.map (entryOf host)).map Prod.fst).Nodup := by
  simpa only [List.map_map, Function.comp_def, entryOf] using h.distinct

/-- Whatever agreeing evidence weighs the same weighs the same in all: the sources
against the destinations and the sources without a destination. -/
theorem Built.balance {o : Outstanding} (h : Built host input o) (f : InFlightMessageEvidence → Nat)
    (hf : ∀ s d, Agrees host s d → f s = f d) :
    (input.primary.sourceMessages.map f).sum =
      (input.primary.destinationMessages.map f).sum +
        ((unmatched (pairing host input.primary)).map f).sum := by
  have hb := consume_balance (sourceKey host) input.primary.sourceMessages h.keys_nodup
    fun s d hs => hf s d (h.compatible _ hs).1
  rw [h.consumed] at hb
  simpa [weight, Function.comp_def, entryOf, pairing] using hb

theorem amountIn_eq_of_agrees {s d : InFlightMessageEvidence} (h : Agrees host s d) :
    amountIn direction s = amountIn direction d := by
  rw [amountIn, amountIn, rawAmount, rawAmount, h.direction, h.amountRaw]

end Totals

end SanBridge.Tooling.Building
