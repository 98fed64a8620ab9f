import SanBridge.Solana.Tenants
import SanBridge.Tooling.Pagination

namespace SanBridge.Tooling.Extraction

open Library.BigEndian Library.Checked Tooling.Runtime Tooling.Checker Tooling.Policy Tooling.Manifest
open Tooling.SolanaScan Tooling.Pagination
open Solana.Tenants
open Solana.Runtime (Pubkey)
open Solana.Instructions (OFTSent OFTReceived)

variable {formats : ScanFormats} {program : Pubkey}

section Render

/-- How a node reports an instruction of the program with the given address. -/
def renderInstruction (formats : ScanFormats) (program : Pubkey) : InnerInstruction → ParsedInstruction
  | .event e => ⟨some program, some (formats.bs58Encode e.event.data)⟩
  | .other p data => ⟨some p, data.map formats.bs58Encode⟩

def renderTransaction (formats : ScanFormats) (program : Pubkey) (tx : Transaction) : ParsedTransaction where
  txMeta := some {
    failed := tx.failed
    innerInstructions := some (tx.innerInstructions.map fun group => group.map (renderInstruction formats program)) }

/-- What the scanner should read from an event. -/
def observed (formats : ScanFormats) (e : ProgramEvent) (index : Nat) : SolanaOftEvent :=
  match e with
  | .sent e => ⟨.oftSent, hexText e.guid.toList, e.dstEid, formats.toBase58 e.source,
      toString (e.amountReceivedLd % 256 ^ 8), index⟩
  | .received e => ⟨.oftReceived, hexText e.guid.toList, e.srcEid, formats.toBase58 e.dest,
      toString (e.amountReceivedLd % 256 ^ 8), index⟩

def observedFrom (formats : ScanFormats) (start : Nat) (es : List Emission) : List SolanaOftEvent :=
  (es.zipIdx start).map fun p => observed formats p.1.event p.2

end Render

section Decode

theorem hexDigest_eventTag : hexDigest eventTag = eventCpiDiscriminator := by decide

theorem keyOf_toList (key : Pubkey) : keyOf key.toList = some key := by
  rw [keyOf, dif_pos Vector.length_toList]
  rfl

variable {e : ProgramEvent}

theorem data_take : e.data.take 8 = eventTag := by
  cases e <;> rfl

theorem data_drop : e.data.drop 16 = e.body := by
  cases e <;> rfl

theorem data_discriminator : (e.data.drop 8).take 8 = e.discriminator := by
  cases e <;> rfl

theorem length_data : 16 ≤ e.data.length := by
  cases e <;> simp [ProgramEvent.data, eventTag, ProgramEvent.discriminator]

theorem sent_discriminator {e : OFTSent} :
    hexDigest (ProgramEvent.sent e).discriminator = oftSentDiscriminator :=
  (by decide : hexDigest [0x6c, 0xab, 0xdb, 0x02, 0xbd, 0x15, 0x6e, 0x6e] = oftSentDiscriminator)

theorem received_discriminator {e : OFTReceived} :
    hexDigest (ProgramEvent.received e).discriminator = oftReceivedDiscriminator :=
  (by decide : hexDigest [0x90, 0x81, 0x70, 0x43, 0x90, 0x98, 0xc9, 0x2a] = oftReceivedDiscriminator)

theorem decodeEvent_data (index : Nat) : decodeEvent formats e.data index = some (observed formats e index) := by
  cases e with
  | sent e =>
    have hlen : (ProgramEvent.sent e).body.length = 84 := by simp [ProgramEvent.body]
    have hguid : (ProgramEvent.sent e).body.take 32 = e.guid.toList := by simp [ProgramEvent.body]
    have heid : readUInt32LE (ProgramEvent.sent e).body 32 = e.dstEid := by
      simp [readUInt32LE, ProgramEvent.body, readLe_leBytes]
    have haddress : ((ProgramEvent.sent e).body.drop 36).take 32 = e.source.toList := by
      simp [ProgramEvent.body, List.drop_append, List.take_append]
    have hslice : ((ProgramEvent.sent e).body.drop 76).take 8 = leBytes 8 e.amountReceivedLd := by
      simp [ProgramEvent.body, List.drop_append, List.drop_of_length_le, List.take_of_length_le]
    have hamount : u64le (ProgramEvent.sent e).body 76 = toString (e.amountReceivedLd % 256 ^ 8) := by
      rw [u64le, hslice, readLe_leBytes]
    simp only [decodeEvent, data_discriminator, data_drop, sent_discriminator, hlen, le_refl, and_self, if_true,
      hguid, heid, haddress, keyOf_toList, Option.bind_eq_bind, Option.bind_some, hamount]
    rfl
  | received e =>
    have hlen : (ProgramEvent.received e).body.length = 76 := by simp [ProgramEvent.body]
    have hguid : (ProgramEvent.received e).body.take 32 = e.guid.toList := by simp [ProgramEvent.body]
    have heid : readUInt32LE (ProgramEvent.received e).body 32 = e.srcEid := by
      simp [readUInt32LE, ProgramEvent.body, readLe_leBytes]
    have haddress : ((ProgramEvent.received e).body.drop 36).take 32 = e.dest.toList := by
      simp [ProgramEvent.body, List.drop_append, List.take_append]
    have hslice : ((ProgramEvent.received e).body.drop 68).take 8 = leBytes 8 e.amountReceivedLd := by
      simp [ProgramEvent.body, List.drop_append, List.drop_of_length_le, List.take_of_length_le]
    have hamount : u64le (ProgramEvent.received e).body 68 = toString (e.amountReceivedLd % 256 ^ 8) := by
      rw [u64le, hslice, readLe_leBytes]
    have hne : oftReceivedDiscriminator ≠ oftSentDiscriminator := by decide
    simp only [decodeEvent, data_discriminator, data_drop, received_discriminator, hne, false_and, if_false, hlen,
      le_refl, and_self, if_true, hguid, heid, haddress, keyOf_toList, Option.bind_eq_bind, Option.bind_some, hamount]
    rfl

end Decode

section Extract

variable (hp : formats.publicKey (some (.str productionSolanaOftProgram)) = some program)

include hp

/-- Data of the program under the event tag is looked at, and no other. -/
theorem taggedData_encoded (p : Option Pubkey) (bytes : Bytes) :
    taggedData formats ⟨p, some (formats.bs58Encode bytes)⟩ =
      .ok (if p = some program ∧ 16 ≤ bytes.length ∧ bytes.take 8 = eventTag then some bytes else none) := by
  simp only [taggedData, hp, ofOption, ok_bind, Option.getD_some, formats.decode_encode]
  by_cases hprogram : p = some program
  · by_cases htext : formats.bs58Encode bytes = ""
    · have hdecode := formats.decode_encode bytes
      rw [htext, formats.decode_empty, Option.some.injEq] at hdecode
      have hlen : ¬ 16 ≤ bytes.length := by
        rw [← hdecode]
        decide
      simp only [htext, or_true, if_true, hlen, false_and, and_false, if_false]
    · have htag : hexDigest (bytes.take 8) = eventCpiDiscriminator ↔ bytes.take 8 = eventTag :=
        ⟨fun he => hexDigest_injective (he.trans hexDigest_eventTag.symm), fun he => he ▸ hexDigest_eventTag⟩
      simp only [hprogram, htext, ne_eq, not_true_eq_false, or_self, if_false, true_and, htag]
      by_cases hskip : 16 ≤ bytes.length ∧ bytes.take 8 = eventTag
      · rw [if_pos hskip, if_neg]
        rintro (hshort | hother)
        · exact absurd hskip.1 (Nat.not_le.mpr hshort)
        · exact hother hskip.2
      · rw [if_neg hskip, if_pos]
        rw [not_and_or, Nat.not_le] at hskip
        exact hskip
  · simp only [hprogram, ne_eq, not_false_eq_true, true_or, if_true, false_and, if_false]

theorem taggedData_event (e : ProgramEvent) :
    taggedData formats ⟨some program, some (formats.bs58Encode e.data)⟩ = .ok (some e.data) := by
  rw [taggedData_encoded hp, if_pos ⟨rfl, length_data, data_take⟩]

theorem taggedData_other {p : Pubkey} {data : Option Bytes} (h : (InnerInstruction.other p data).Untagged program) :
    taggedData formats (renderInstruction formats program (.other p data)) = .ok none := by
  cases data with
  | none => simp [renderInstruction, taggedData, hp, ofOption, ok_bind]
  | some bytes =>
    rw [renderInstruction, Option.map_some, taggedData_encoded hp, if_neg]
    rintro ⟨hprogram, _, htag⟩
    exact h (Option.some.inj hprogram) bytes rfl htag

theorem visitInstruction_render {i : InnerInstruction} (h : i.Untagged program)
    (events : List SolanaOftEvent) (index : Nat) :
    visitInstruction formats (events, index) (renderInstruction formats program i) =
      .ok (events ++ observedFrom formats index i.emission.toList, index + i.emission.toList.length) := by
  cases i with
  | event e =>
    rw [visitInstruction, renderInstruction, taggedData_event hp, ok_bind]
    simp [decodeEvent_data, observedFrom, InnerInstruction.emission]
  | other p data =>
    rw [visitInstruction, taggedData_other hp h, ok_bind]
    simp [observedFrom, InnerInstruction.emission]

omit hp in
theorem observedFrom_append (start : Nat) (es es' : List Emission) :
    observedFrom formats start (es ++ es') =
      observedFrom formats start es ++ observedFrom formats (start + es.length) es' := by
  rw [observedFrom, List.zipIdx_append, List.map_append]
  rfl

theorem visitGroup_render {group : List InnerInstruction} (h : ∀ i ∈ group, i.Untagged program)
    (events : List SolanaOftEvent) (index : Nat) :
    (group.map (renderInstruction formats program)).foldlM (visitInstruction formats) (events, index) =
      .ok (events ++ observedFrom formats index (group.filterMap InnerInstruction.emission),
        index + (group.filterMap InnerInstruction.emission).length) := by
  induction group generalizing events index with
  | nil => simp [observedFrom, pure_eq_ok]
  | cons i group ih =>
    have hcons : (i :: group).filterMap InnerInstruction.emission =
        i.emission.toList ++ group.filterMap InnerInstruction.emission := by
      cases hi : i.emission <;> simp [hi]
    rw [List.map_cons, List.foldlM_cons, visitInstruction_render hp (h i List.mem_cons_self), ok_bind,
      ih fun i' h' => h i' (List.mem_cons_of_mem _ h'), hcons, observedFrom_append, List.append_assoc,
      List.length_append, Nat.add_assoc]

theorem visitGroups_render {groups : List (List InnerInstruction)}
    (h : ∀ group ∈ groups, ∀ i ∈ group, i.Untagged program) (events : List SolanaOftEvent) (index : Nat) :
    (groups.map fun group => group.map (renderInstruction formats program)).foldlM
        (fun found group => group.foldlM (visitInstruction formats) found) (events, index) =
      .ok (events ++ observedFrom formats index (groups.flatten.filterMap InnerInstruction.emission),
        index + (groups.flatten.filterMap InnerInstruction.emission).length) := by
  induction groups generalizing events index with
  | nil => simp [observedFrom, pure_eq_ok]
  | cons group groups ih =>
    rw [List.map_cons, List.foldlM_cons, visitGroup_render hp (h group List.mem_cons_self), ok_bind,
      ih fun g hg => h g (List.mem_cons_of_mem _ hg), List.flatten_cons, List.filterMap_append,
      observedFrom_append, List.append_assoc, List.length_append, Nat.add_assoc]

/-- What a successful transaction emits is what the scanner extracts, in order. -/
theorem extractSolanaOftEvents_render {tx : Transaction} (hf : tx.failed = false)
    (h : ∀ group ∈ tx.innerInstructions, ∀ i ∈ group, i.Untagged program) :
    extractSolanaOftEvents formats (renderTransaction formats program tx) =
      .ok (observedFrom formats 0 tx.emissions) := by
  have hgroups := visitGroups_render hp h [] 0
  simp only [extractSolanaOftEvents, renderTransaction, Option.any_some, hf, Bool.false_eq_true, if_false,
    Option.bind_some, Option.getD_some, hgroups, ok_bind, List.nil_append]
  rfl

end Extract

section Pagination

variable {rpc : SolanaRpc} {history : List Transaction} {fromSlot toSlot : Int}

def infoOf (tx : Transaction) : SignatureInfo := ⟨tx.signature, tx.slot, tx.failed⟩

def olderThan (history : List Transaction) : Option String → List Transaction
  | none => history
  | some signature => (history.dropWhile fun tx => tx.signature ≠ signature).tail

/-- A node that answers truthfully whenever it answers: it cuts the history into
pages as it likes, and leaves a page empty only when nothing older remains. -/
structure Serves (rpc : SolanaRpc) (formats : ScanFormats) (program : Pubkey) (history : List Transaction) :
    Prop where
  pages : ∀ before page, rpc.getSignaturesForAddress before = .ok page →
    ∃ size, 0 < size ∧ page = ((olderThan history before).take size).map infoOf
  transactions : ∀ tx ∈ history, ∀ answer, rpc.getParsedTransaction tx.signature = .ok (some answer) →
    answer = renderTransaction formats program tx

/-- A node that answers every request from the history, in pages of the given size. -/
def nodeOf (formats : ScanFormats) (program : Pubkey) (history : List Transaction) (pageSize : Nat) : SolanaRpc where
  getSlot := .ok (history.head?.elim 0 fun tx => tx.slot)
  getFirstAvailableBlock := .ok 0
  getBlock slot := .ok (some (toString slot))
  getGenesisHash := .ok Inventory.solanaMainnetGenesisHash
  getSignaturesForAddress before := .ok (((olderThan history before).take pageSize).map infoOf)
  getParsedTransaction signature :=
    .ok ((history.find? fun tx => tx.signature = signature).map (renderTransaction formats program))
  extractSentPacketEventByTxHash _ := .ok none

theorem getParsedTransaction_nodeOf {pageSize : Nat} (hd : (history.map Transaction.signature).Nodup)
    {tx : Transaction} (htx : tx ∈ history) :
    (nodeOf formats program history pageSize).getParsedTransaction tx.signature =
      .ok (some (renderTransaction formats program tx)) := by
  have hfind : history.find? (fun tx' => tx'.signature = tx.signature) = some tx := by
    obtain ⟨tx', htx'⟩ : ∃ tx', history.find? (fun tx' => tx'.signature = tx.signature) = some tx' :=
      Option.isSome_iff_exists.mp (List.find?_isSome.mpr ⟨tx, htx, decide_eq_true rfl⟩)
    have hsignature : tx'.signature = tx.signature := by simpa using List.find?_some htx'
    rw [htx', List.inj_on_of_nodup_map hd (List.mem_of_find?_eq_some htx') htx hsignature]
  simp only [nodeOf, hfind, Option.map_some]

theorem serves_nodeOf {pageSize : Nat} (hpos : 0 < pageSize) (hd : (history.map Transaction.signature).Nodup) :
    Serves (nodeOf formats program history pageSize) formats program history where
  pages := by
    rintro before page ⟨⟩
    exact ⟨pageSize, hpos, rfl⟩
  transactions := by
    intro tx htx answer h
    rw [getParsedTransaction_nodeOf hd htx, Except.ok.injEq, Option.some.injEq] at h
    exact h.symm

def InRange (fromSlot toSlot : Int) (tx : Transaction) : Prop := fromSlot ≤ tx.slot ∧ tx.slot ≤ toSlot

instance (tx : Transaction) : Decidable (InRange fromSlot toSlot tx) := inferInstanceAs (Decidable (_ ∧ _))

def scanned (fromSlot toSlot : Int) (history : List Transaction) : List Transaction :=
  history.filter fun tx => InRange fromSlot toSlot tx ∧ tx.failed = false

theorem mem_scanned {tx : Transaction} : tx ∈ scanned fromSlot toSlot history ↔
    tx ∈ history ∧ InRange fromSlot toSlot tx ∧ tx.failed = false := by
  rw [scanned, List.mem_filter, decide_eq_true_eq]

theorem scanned_infoOf :
    (scanned fromSlot toSlot history).map infoOf = wanted fromSlot toSlot (history.map infoOf) := by
  rw [wanted, List.filter_map, scanned]
  apply congrArg
  apply List.filter_congr
  intro tx _
  rw [Function.comp_apply, decide_eq_decide]
  exact and_assoc

theorem olderThan_infoOf (before : Option String) :
    (olderThan history before).map infoOf = entriesBefore (history.map infoOf) before := by
  cases before with
  | none => rfl
  | some signature =>
    rw [olderThan, entriesBefore, List.dropWhile_map, List.map_tail]
    rfl

theorem Serves.isPage (hs : Serves rpc formats program history) {before : Option String} {page : List SignatureInfo}
    (h : rpc.getSignaturesForAddress before = .ok page) : IsPage (history.map infoOf) before page := by
  obtain ⟨size, hsize, rfl⟩ := hs.pages before page h
  rw [List.map_take, olderThan_infoOf]
  exact isPage_take _ before hsize

theorem collectSignatures_scanned (hs : Serves rpc formats program history)
    (ho : history.Pairwise fun a b => b.slot ≤ a.slot) (hd : (history.map Transaction.signature).Nodup)
    {fuel : Nat} {signatures : List SignatureInfo} {complete : Bool}
    (h : collectSignatures rpc fromSlot toSlot fuel none = .ok (signatures, complete)) :
    signatures = (scanned fromSlot toSlot history).map infoOf := by
  have hdistinct : ((history.map infoOf).map SignatureInfo.signature).Nodup := by
    rw [List.map_map]
    exact hd
  have hordered : (history.map infoOf).Pairwise fun a b => b.slot ≤ a.slot := List.pairwise_map.mpr ho
  rw [scanned_infoOf]
  exact (collectSignatures_eq (fun _ _ => hs.isPage) hordered hdistinct (List.suffix_refl _) h).1

end Pagination

section Receipts

variable {host : Host} {rpc : SolanaRpc} {solanaStore robinhoodOft blockhash : String} {item : SignatureInfo}
  {packets : List Bytes} {tx : Transaction} {found found' : Found}

theorem visitEvent_received {event : SolanaOftEvent}
    (h : visitEvent host formats solanaStore robinhoodOft item blockhash packets found event = .ok found') :
    ∃ new, found'.received = found.received ++ new ∧
      (∀ m ∈ new, event.eid = robinhoodEid ∧ event.name = .oftReceived ∧
        receivedEvidence host formats solanaStore robinhoodOft item blockhash event = .ok m) ∧
      (event.eid = robinhoodEid → event.name = .oftReceived → ∃ m ∈ new,
        receivedEvidence host formats solanaStore robinhoodOft item blockhash event = .ok m) := by
  rw [visitEvent] at h
  by_cases heid : event.eid = robinhoodEid
  · rw [if_neg (not_not.mpr heid)] at h
    cases hname : event.name with
    | oftSent =>
      rw [hname] at h
      obtain ⟨m, _, h⟩ := bind_eq_ok.mp h
      cases h
      exact ⟨[], (List.append_nil _).symm, by simp, fun _ h => by cases h⟩
    | oftReceived =>
      rw [hname] at h
      obtain ⟨m, hm, h⟩ := bind_eq_ok.mp h
      cases h
      refine ⟨[m], rfl, fun m' h' => ?_, fun _ _ => ⟨m, List.mem_singleton_self m, hm⟩⟩
      obtain rfl := List.mem_singleton.mp h'
      exact ⟨heid, rfl, hm⟩
  · rw [if_pos heid] at h
    cases h
    exact ⟨[], (List.append_nil _).symm, by simp, fun h => absurd h heid⟩

def ReceiptEvidence (host : Host) (formats : ScanFormats) (solanaStore robinhoodOft : String) (tx : Transaction)
    (index : Nat) (e : OFTReceived) (m : InFlightMessageEvidence) : Prop :=
  ∃ blockhash, receivedEvidence host formats solanaStore robinhoodOft (infoOf tx) blockhash
    (observed formats (.received e) index) = .ok m

structure Receipts (host : Host) (formats : ScanFormats) (solanaStore robinhoodOft : String) (tx : Transaction)
    (ms : List InFlightMessageEvidence) : Prop where
  sound : ∀ m ∈ ms, ∃ index store e, tx.emissions[index]? = some ⟨store, .received e⟩ ∧
    (e.srcEid : Nat) = robinhoodEid ∧ ReceiptEvidence host formats solanaStore robinhoodOft tx index e m
  complete : ∀ index store e, tx.emissions[index]? = some ⟨store, .received e⟩ → (e.srcEid : Nat) = robinhoodEid →
    ∃ m ∈ ms, ReceiptEvidence host formats solanaStore robinhoodOft tx index e m

theorem mem_observedFrom {event : SolanaOftEvent} {es : List Emission} :
    event ∈ observedFrom formats 0 es ↔
      ∃ index e, es[index]? = some e ∧ observed formats e.event index = event := by
  rw [observedFrom, List.mem_map]
  constructor
  · rintro ⟨⟨e, index⟩, hmem, rfl⟩
    exact ⟨index, e, List.mem_zipIdx_iff_getElem?.mp hmem, rfl⟩
  · rintro ⟨index, e, he, rfl⟩
    exact ⟨(e, index), List.mem_zipIdx_iff_getElem?.mpr he, rfl⟩

variable (hp : formats.publicKey (some (.str productionSolanaOftProgram)) = some program)

include hp

theorem visitTransaction_received (hf : tx.failed = false)
    (hu : ∀ group ∈ tx.innerInstructions, ∀ i ∈ group, i.Untagged program)
    (hrender : ∀ answer, rpc.getParsedTransaction tx.signature = .ok (some answer) →
      answer = renderTransaction formats program tx)
    (h : visitTransaction host formats rpc solanaStore robinhoodOft found (infoOf tx) = .ok found') :
    ∃ new, found'.received = found.received ++ new ∧
      Receipts host formats solanaStore robinhoodOft tx new := by
  simp only [visitTransaction, bind_eq_ok, ofOption_eq_ok] at h
  obtain ⟨_, hanswer, answer, rfl, blockhash, _, events, hevents, packets, _, h⟩ := h
  obtain rfl := hrender answer hanswer
  rw [extractSolanaOftEvents_render hp hf hu] at hevents
  cases hevents
  obtain ⟨rounds, hfst, hall, hreceived⟩ :=
    foldlM_collects Found.received (fun event _ s t h => visitEvent_received h) h
  refine ⟨_, hreceived, ⟨fun m hm => ?_, fun index store e he heid => ?_⟩⟩
  · obtain ⟨⟨event, new⟩, hround, hm⟩ := List.mem_flatMap.mp hm
    obtain ⟨heid, hname, hevidence⟩ := (hall _ hround).1 m hm
    have hmem : event ∈ observedFrom formats 0 tx.emissions := by
      rw [← hfst]
      exact List.mem_map_of_mem hround
    obtain ⟨index, ⟨store, e⟩, he, rfl⟩ := mem_observedFrom.mp hmem
    cases e with
    | sent e => cases hname
    | received e => exact ⟨index, store, e, he, heid, blockhash, hevidence⟩
  · have hmem : observed formats (.received e) index ∈ rounds.map Prod.fst := by
      rw [hfst]
      exact mem_observedFrom.mpr ⟨index, _, he, rfl⟩
    obtain ⟨⟨event, new⟩, hround, hevent⟩ := List.mem_map.mp hmem
    cases hevent
    obtain ⟨m, hm, hevidence⟩ := (hall _ hround).2 heid rfl
    exact ⟨m, List.mem_flatMap.mpr ⟨_, hround, hm⟩, blockhash, hevidence⟩

/-- The receipts a scan reports are those of the successful transactions of its range, of every store. -/
theorem scanSolana_received {space : Solana.Runtime.AddressSpace} {history : History space program} {fuel : Nat}
    {fromSlot toSlot : Int} {scan : ScanResult} (hs : Serves rpc formats program history.transactions)
    (h : scanSolana host formats rpc fuel fromSlot toSlot solanaStore robinhoodOft = .ok scan) :
    (∀ m ∈ scan.received, ∃ tx ∈ scanned fromSlot toSlot history.transactions, ∃ index store e,
      tx.emissions[index]? = some ⟨store, .received e⟩ ∧ (e.srcEid : Nat) = robinhoodEid ∧
        ReceiptEvidence host formats solanaStore robinhoodOft tx index e m) ∧
    ∀ tx ∈ scanned fromSlot toSlot history.transactions, ∀ index store e,
      tx.emissions[index]? = some ⟨store, .received e⟩ → (e.srcEid : Nat) = robinhoodEid →
        ∃ m ∈ scan.received, ReceiptEvidence host formats solanaStore robinhoodOft tx index e m := by
  simp only [scanSolana, bind_eq_ok] at h
  obtain ⟨_, _, _, _, _, _, _, _, _, _, _, _, _, _, _, _, ⟨signatures, complete⟩, hsignatures, _, _, found, hfound,
    h⟩ := h
  cases h
  rw [collectSignatures_scanned hs history.ordered history.distinct hsignatures] at hfound
  obtain ⟨rounds, hfst, hall, hreceived⟩ := foldlM_collects Found.received
    (R := fun item new => ∃ tx ∈ scanned fromSlot toSlot history.transactions, infoOf tx = item ∧
      Receipts host formats solanaStore robinhoodOft tx new) (by
      intro item hitem s t ht
      obtain ⟨tx, htx, rfl⟩ := List.mem_map.mp hitem
      obtain ⟨hmem, _, hf⟩ := mem_scanned.mp htx
      obtain ⟨new, hnew, hreceipts⟩ := visitTransaction_received hp hf (history.untagged hmem hf)
        (hs.transactions tx hmem) ht
      exact ⟨new, hnew, tx, htx, rfl, hreceipts⟩) hfound
  have hmem : ∀ m, m ∈ sortMessages host found.received ↔ ∃ round ∈ rounds, m ∈ round.2 := by
    intro m
    rw [sortMessages, (List.perm_insertionSort _ _).mem_iff, hreceived, List.nil_append, List.mem_flatMap]
  constructor
  · intro m hm
    obtain ⟨⟨item, new⟩, hround, hm⟩ := (hmem m).mp hm
    obtain ⟨tx, htx, _, hreceipts⟩ := hall _ hround
    exact ⟨tx, htx, hreceipts.sound m hm⟩
  · intro tx htx index store e he heid
    have hitem : infoOf tx ∈ rounds.map Prod.fst := by
      rw [hfst]
      exact List.mem_map_of_mem htx
    obtain ⟨⟨item, new⟩, hround, rfl⟩ := List.mem_map.mp hitem
    obtain ⟨tx', htx', hinfo, hreceipts⟩ := hall _ hround
    have hsame : tx' = tx := List.inj_on_of_nodup_map history.distinct (mem_scanned.mp htx').1
      (mem_scanned.mp htx).1 (congrArg SignatureInfo.signature hinfo)
    subst hsame
    obtain ⟨m, hm, hevidence⟩ := hreceipts.complete index store e he heid
    exact ⟨m, (hmem m).mpr ⟨_, hround, hm⟩, hevidence⟩

end Receipts

end SanBridge.Tooling.Extraction
