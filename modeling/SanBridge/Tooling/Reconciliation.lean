import SanBridge.Tooling.Evidence

namespace SanBridge.Tooling.Reconciliation

open Library.Matching Tooling.Runtime Tooling.Inventory Tooling.Manifest Tooling.Acceptance Tooling.Building
open Tooling.Evidence

variable {host : Host}

section Published

variable {input : BuildManifestInput} {manifest : InFlightManifest} {inventory : InFlightInventory}

/-- The manifest of some evidence, and what the parser makes of a text that reads as it. -/
def Published (host : Host) (input : BuildManifestInput) (manifest : InFlightManifest)
    (inventory : InFlightInventory) : Prop :=
  buildInFlightManifest host input = .ok manifest ∧
    ∃ contents, host.jsonParse contents = some manifest.toJson ∧
      parseInFlightInventory host contents = .ok inventory

theorem Published.accepted (h : Published host input manifest inventory) :
    ∃ inventoryId,
      Accepted host manifest.toJson (manifest.messages.map InFlightMessageEvidence.toJson) inventoryId ∧
      inventory = inventoryOf host manifest.toJson (manifest.messages.map InFlightMessageEvidence.toJson)
        inventoryId := by
  obtain ⟨_, contents, hread, hparse⟩ := h
  obtain ⟨value, messages, id, hv, hacc, rfl⟩ := parseInFlightInventory_eq_ok.mp hparse
  rw [hread, Option.some.injEq] at hv
  subst hv
  obtain rfl := accepted_messages hacc
  exact ⟨id, hacc, rfl⟩

theorem Published.distinct (h : Published host input manifest inventory) :
    (input.primary.sourceMessages.map (sourceKey host)).Nodup := by
  obtain ⟨o, _, rfl⟩ := buildInFlightManifest_eq_ok.mp h.1
  obtain ⟨_, hacc, _⟩ := h.accepted
  exact sourceKeys_nodup hacc

end Published

section Conservation

variable {input : BuildManifestInput} {manifest : InFlightManifest} {inventory : InFlightInventory}
  {direction : InFlightDirection} {ms : List InFlightMessageEvidence}

def outstandingRaw (inventory : InFlightInventory) : InFlightDirection → Nat
  | .solanaToRobinhood => inventory.solanaToRobinhoodRaw
  | .robinhoodToSolana => inventory.robinhoodToSolanaRaw

theorem outstandingRaw_inventoryOf {value : Json} {inventoryId : String} :
    outstandingRaw (inventoryOf host value (ms.map InFlightMessageEvidence.toJson) inventoryId) direction =
      total direction (unsettled ms) := by
  rw [← outstanding_toJson]
  cases direction <;> rfl

theorem filter_sourceKey {sources : List InFlightMessageEvidence} {s : InFlightMessageEvidence}
    (hn : (sources.map (sourceKey host)).Nodup) (hs : s ∈ sources) :
    (sources.filter fun t => sourceKey host t = sourceKey host s) = [s] := by
  induction sources with
  | nil => cases hs
  | cons t sources ih =>
    rw [List.map_cons, List.nodup_cons] at hn
    cases List.mem_cons.mp hs with
    | inl he =>
      subst he
      rw [List.filter_cons_of_pos (by simp), List.cons.injEq]
      refine ⟨rfl, List.filter_eq_nil_iff.mpr fun t ht => ?_⟩
      have hne : sourceKey host t ≠ sourceKey host s := fun hc => hn.1 (hc ▸ List.mem_map_of_mem ht)
      simpa using hne
    | inr hs =>
      have hne : sourceKey host t ≠ sourceKey host s := by
        intro hc
        exact hn.1 (hc ▸ List.mem_map_of_mem hs)
      rw [List.filter_cons_of_neg (by simpa using hne), ih hn.2 hs]

variable (h : Published host input manifest inventory)

include h

/-- With distinct source GUIDs, every source is paired with the destination of its GUID. -/
theorem Published.pairing_eq :
    pairing host input.primary = input.primary.sourceMessages.map fun s =>
      (s, (input.primary.destinationMessages.map (entryOf host)).lookup (sourceKey host s)) :=
  consume_of_nodup h.distinct

/-- In each direction the sources weigh what the destinations and the outstanding messages do. -/
theorem Published.conserved (direction : InFlightDirection) :
    total direction input.primary.sourceMessages =
      total direction input.primary.destinationMessages + outstandingRaw inventory direction := by
  obtain ⟨o, hb, rfl⟩ := buildInFlightManifest_eq_ok.mp h.1
  obtain ⟨_, _, rfl⟩ := h.accepted
  have hm : (manifestOf host input o).messages = messagesOf host input := rfl
  rw [outstandingRaw_inventoryOf, hm, total_unsettled_messagesOf, total_eq_sum, total_eq_sum]
  exact hb.balance _ fun s d ha => amountIn_eq_of_agrees ha

theorem Published.counted :
    inventory.unresolvedPacketCount + input.primary.destinationMessages.length =
      input.primary.sourceMessages.length := by
  obtain ⟨o, hb, rfl⟩ := buildInFlightManifest_eq_ok.mp h.1
  obtain ⟨_, _, rfl⟩ := h.accepted
  have hbal := hb.balance (fun _ => 1) fun _ _ _ => rfl
  have hu := (unsettled_messagesOf host input).length_eq
  have hm : (manifestOf host input o).messages = messagesOf host input := rfl
  simp only [List.map_const', List.sum_replicate, nsmul_eq_mul, mul_one, Nat.cast_id, unmatched,
    List.length_map] at hbal hu
  change (undelivered _).length + _ = _
  rw [undelivered_toJson, List.length_map, hm, hu, hbal, Nat.add_comm]

theorem Published.digits {s : InFlightMessageEvidence} (hs : s ∈ input.primary.sourceMessages) :
    isDigits s.amountRaw = true := by
  obtain ⟨o, _, rfl⟩ := buildInFlightManifest_eq_ok.mp h.1
  obtain ⟨_, hacc, _⟩ := h.accepted
  rw [← pairing_fst host, List.mem_map] at hs
  obtain ⟨p, hp, rfl⟩ := hs
  have hm : settle host input.layerZeroStatuses p ∈ messagesOf host input :=
    (messagesOf_perm host input).mem_iff.mpr (List.mem_map_of_mem hp)
  obtain ⟨text, htext, hdigits, _⟩ := (hacc.admitted _ (List.mem_map_of_mem hm)).accepted.amountRaw
  have he : get (settle host input.layerZeroStatuses p).toJson "amountRaw" =
      some (.str (settle host input.layerZeroStatuses p).amountRaw) := rfl
  rw [he, settle_amountRaw, Option.some.injEq, Json.str.injEq] at htext
  exact htext ▸ hdigits

theorem Published.matched {d : InFlightMessageEvidence} (hd : d ∈ input.primary.destinationMessages) :
    ∃ s, (input.primary.sourceMessages.filter fun s => sourceKey host s = sourceKey host d) = [s] ∧
      Agrees host s d := by
  obtain ⟨o, hb, _⟩ := buildInFlightManifest_eq_ok.mp h.1
  have hk : sourceKey host d ∈ input.primary.sourceMessages.map (sourceKey host) := by
    have hrest := hb.consumed
    rw [consume_rest, List.filter_eq_nil_iff] at hrest
    have hd' := hrest (entryOf host d) (List.mem_map_of_mem hd)
    simpa [entryOf, sourceKey] using hd'
  obtain ⟨s, hs, hkey⟩ := List.mem_map.mp hk
  have hl : (input.primary.destinationMessages.map (entryOf host)).lookup (sourceKey host s) = some d := by
    rw [lookup_eq_some hb.keys_nodup, hkey]
    exact List.mem_map_of_mem hd
  have hp : (s, some d) ∈ pairing host input.primary := by
    rw [h.pairing_eq, ← hl]
    exact List.mem_map_of_mem hs
  refine ⟨s, ?_, (hb.compatible _ hp).1⟩
  rw [← hkey]
  exact filter_sourceKey h.distinct hs

theorem Published.delivered_iff {m : InFlightMessageEvidence} (hm : m ∈ manifest.messages) :
    m.status = .delivered ↔
      ∃ d ∈ input.primary.destinationMessages, sourceKey host d = sourceKey host m := by
  obtain ⟨o, hb, rfl⟩ := buildInFlightManifest_eq_ok.mp h.1
  obtain ⟨p, hp, rfl⟩ := List.mem_map.mp ((messagesOf_perm host input).mem_iff.mp hm)
  have hk : sourceKey host (settle host input.layerZeroStatuses p) = sourceKey host p.1 := by
    rw [sourceKey, settle_guid, ← sourceKey]
  rw [h.pairing_eq] at hp
  obtain ⟨s, _, rfl⟩ := List.mem_map.mp hp
  rw [settle_status, hk, ← not_iff_not, Bool.not_eq_true, Option.isSome_eq_false_iff,
    Option.isNone_iff_eq_none, lookup_eq_none]
  simp [entryOf, sourceKey]

omit h

/-- In-flight reconciliation conserves value, whatever the API said. -/
theorem value_reconciled (h : Published host input manifest inventory) :
    (∀ s ∈ input.primary.sourceMessages, isDigits s.amountRaw = true) ∧
    (∀ direction, total direction input.primary.sourceMessages =
      total direction input.primary.destinationMessages + outstandingRaw inventory direction) ∧
    (∀ d ∈ input.primary.destinationMessages, ∃ s,
      (input.primary.sourceMessages.filter fun s => host.toLowerCase s.guid = host.toLowerCase d.guid) = [s] ∧
      s.direction = d.direction ∧ s.amountRaw = d.amountRaw ∧
      host.toLowerCase s.receiver = host.toLowerCase d.receiver) ∧
    (∀ m ∈ manifest.messages, m.status = .delivered ↔
      ∃ d ∈ input.primary.destinationMessages, host.toLowerCase d.guid = host.toLowerCase m.guid) ∧
    inventory.unresolvedPacketCount + input.primary.destinationMessages.length =
      input.primary.sourceMessages.length ∧
    (∀ statuses manifest' inventory',
      Published host { input with layerZeroStatuses := statuses } manifest' inventory' →
      inventory'.unresolvedPacketCount = inventory.unresolvedPacketCount ∧
        ∀ direction, outstandingRaw inventory' direction = outstandingRaw inventory direction) := by
  refine ⟨fun s hs => h.digits hs, h.conserved, fun d hd => ?_, fun m hm => h.delivered_iff hm, h.counted,
    fun statuses manifest' inventory' h' => ⟨?_, fun direction => ?_⟩⟩
  · obtain ⟨s, hs, ha⟩ := h.matched hd
    exact ⟨s, hs, ha.direction.symm, ha.amountRaw.symm, ha.receiver.symm⟩
  · have hc := h.counted
    have hc' := h'.counted
    change _ + input.primary.destinationMessages.length = _ at hc'
    exact Nat.add_right_cancel (hc'.trans hc.symm)
  · have hc := h.conserved direction
    have hc' := h'.conserved direction
    exact Nat.add_left_cancel (hc'.symm.trans hc)

theorem value_reconciled_settled : ∃ inventory,
    Published (sampleHost 7 sampleDigest) (sampleInput 7) (sampleManifest 7 sampleDigest) inventory ∧
    total .solanaToRobinhood (sampleInput 7).primary.sourceMessages =
      total .solanaToRobinhood (sampleInput 7).primary.destinationMessages +
        outstandingRaw inventory .solanaToRobinhood ∧
    inventory.unresolvedPacketCount + 1 = 1 := by
  have hbuilt := buildInFlightManifest_eq_ok.mpr
    ⟨_, sampleInput_built 7 sampleDigest, sampleManifest_eq 7 sampleDigest⟩
  have h : Published (sampleHost 7 sampleDigest) (sampleInput 7) (sampleManifest 7 sampleDigest)
      (sampleInventory 7 sampleDigest) :=
    ⟨hbuilt, sampleContents 7 sampleDigest, readingHost_reads _ _ _,
      sampleManifest_parses 7 sampleDigest (by decide)⟩
  have hreconciled := value_reconciled h
  exact ⟨_, h, hreconciled.2.1 _, hreconciled.2.2.2.2.1⟩

end Conservation

end SanBridge.Tooling.Reconciliation
