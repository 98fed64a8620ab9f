import SanBridge.Tooling.Building
import SanBridge.Tooling.Extraction

namespace SanBridge.Tooling.Settlement

open Library.BigEndian Library.Checked Library.Matching Library.Runs Tooling.Runtime Tooling.Checker Tooling.Policy
open Tooling.Manifest Tooling.Building Tooling.SolanaScan Tooling.Extraction
open Solana.Tenants
open Solana.Runtime (AddressSpace Pubkey)
open Solana.Instructions (OFTReceived)

variable {host : Host} {formats : ScanFormats} {rpc : SolanaRpc} {space : AddressSpace} {program : Pubkey}
  {history : History space program} {fuel : Nat} {fromSlot toSlot : Int} {solanaStore robinhoodOft : String}
  {scan : ScanResult}

def IsStore (formats : ScanFormats) (solanaStore : String) (key : Pubkey) : Prop :=
  formats.publicKey (some (.str solanaStore)) = some key

/-- The evidence is of an `lz_receive` that has run on the store with the given address. -/
def StemsFrom (formats : ScanFormats) (history : History space program) (solanaStore : String)
    (m : InFlightMessageEvidence) : Prop :=
  ∃ tx ∈ history.transactions, ∃ index store e, tx.emissions[index]? = some ⟨store, .received e⟩ ∧
    m.destinationTransaction = some tx.signature ∧ m.sourceEventIndex = .finite (index : Nat) ∧
    IsStore formats solanaStore store ∧ ReceivedOn space store e

theorem receiptEvidence_position {tx : Transaction} {index : Nat} {e : OFTReceived} {m : InFlightMessageEvidence}
    (h : ReceiptEvidence host formats solanaStore robinhoodOft tx index e m) :
    m.destinationTransaction = some tx.signature ∧ m.sourceEventIndex = .finite (index : Nat) := by
  obtain ⟨blockhash, h⟩ := h
  simp only [receivedEvidence, bind_eq_ok] at h
  obtain ⟨_, _, _, _, h⟩ := h
  cases h
  exact ⟨rfl, rfl⟩

/-- A message listed as delivered is settled by destination evidence of its own GUID and direction. -/
theorem delivered_settled {input : BuildManifestInput} {manifest : InFlightManifest}
    (hb : buildInFlightManifest host input = .ok manifest) {m : InFlightMessageEvidence}
    (hm : m ∈ manifest.messages) (hd : m.status = .delivered) :
    ∃ d ∈ input.primary.destinationMessages, host.toLowerCase d.guid = host.toLowerCase m.guid ∧
      d.direction = m.direction ∧ d.destinationTransaction = m.destinationTransaction := by
  obtain ⟨o, hbuilt, rfl⟩ := buildInFlightManifest_eq_ok.mp hb
  obtain ⟨⟨s, d⟩, hp, rfl⟩ := List.mem_map.mp ((messagesOf_perm host input).mem_iff.mp hm)
  obtain ⟨d, rfl⟩ := Option.isSome_iff_exists.mp (settle_status.mp hd)
  obtain ⟨hmem, hkey⟩ := mem_of_pairing hp
  exact ⟨d, hmem, hkey, (hbuilt.compatible _ hp).1.direction, rfl⟩

section Sample

open Solana.State Solana.Instructions Solana.Program

def sampleSpace : AddressSpace :=
  { Solana.Program.sampleSpace with
    findProgramAddress seeds := (if seeds = [oftSeed, (pubkey 3).toList] then pubkey 9 else pubkey 20, 255) }

/-- A store somebody else has created: a mint, a peer and an endpoint program of their own. -/
def foreignStore : StoreState where
  key := pubkey 20
  store := { sampleStore.store with
    oftType := .native
    tokenMint := pubkey 22
    tokenEscrow := pubkey 21
    endpointProgram := pubkey 25
    admin := pubkey 24 }
  peers _ := none
  mint := ⟨6, some (pubkey 23), none⟩
  tokens := ⟨Function.update (fun _ => 0) (pubkey 21) 0, Function.update (fun _ => none) (pubkey 21) (some (pubkey 20))⟩
  clock := ⟨0, 0⟩

theorem initial_foreignStore : Initial sampleSpace foreignStore :=
  ⟨sampleOapp, pubkey 22, pubkey 21, ⟨6, some (pubkey 23), none⟩, ⟨fun _ => 0, fun _ => none⟩, ⟨0, 0⟩,
    ⟨.native, pubkey 24, 6, some (pubkey 25)⟩, rfl⟩

theorem initial_approvedStore : Initial sampleSpace sampleStore :=
  ⟨sampleOapp, pubkey 2, pubkey 3, sampleMint,
    ⟨fun key => if key = pubkey 5 then 1000 else 0,
      fun key => if key = pubkey 5 then some (pubkey 6) else none⟩,
    ⟨0, 0⟩, ⟨.adapter, pubkey 4, 6, none⟩, rfl⟩

def foreignPeer : PeerConfig := { PeerConfig.zeroed with peerAddress := pubkey 26, bump := 255 }

def wiredStore : StoreState :=
  { foreignStore with peers := Function.update foreignStore.peers 30416 (some foreignPeer) }

def openStore : StoreState := { wiredStore with store := { wiredStore.store with paused := false } }

/-- The GUID, the recipient and the amount of a transfer to the approved store. -/
def forgedParams : LzReceiveParams :=
  ⟨30416, pubkey 26, 1, pubkey 17, Solana.MsgCodec.encode (pubkey 27) 9 (pubkey 0) none⟩

def forgedAccounts : LzReceiveAccounts := ⟨pubkey 27, pubkey 28, some (pubkey 23), List.replicate 8 (pubkey 0)⟩

def forgedEvent : OFTReceived := ⟨pubkey 17, 30416, pubkey 27, 9⟩

theorem exec_forged : ∃ s, exec sampleSpace sampleOapp openStore (.lzReceive forgedAccounts forgedParams) =
    .ok (s, .received forgedEvent) := ⟨_, rfl⟩

/-- The approved store is created first. Later somebody creates, wires and opens a
store of their own, and receives on it. -/
def launchTx : Transaction := ⟨"launch", 50, false, []⟩
def wiringTx : Transaction := ⟨"wiring", 104, false, []⟩
def forgedTx : Transaction := ⟨"forged", 105, false, [[.event ⟨pubkey 20, .received forgedEvent⟩]]⟩

theorem sample_executed : ∃ tr stores, Run (Executes sampleSpace program) Stores.empty tr stores ∧
    tr.map Prod.snd = [forgedTx, wiringTx, launchTx].reverse := by
  obtain ⟨received, hreceived⟩ := exec_forged
  have hlaunch : Step sampleSpace Stores.empty (.initOft (pubkey 9))
      (Function.update Stores.empty (pubkey 9) (some sampleStore)) := .initOft initial_approvedStore rfl
  have hcreate : Step sampleSpace (Function.update Stores.empty (pubkey 9) (some sampleStore)) (.initOft (pubkey 20))
      (Function.update (Function.update Stores.empty (pubkey 9) (some sampleStore)) (pubkey 20)
        (some foreignStore)) := .initOft initial_foreignStore rfl
  generalize Function.update Stores.empty (pubkey 9) (some sampleStore) = stores at hlaunch hcreate
  have hstep : ∀ (s s' : StoreState) (c : Call) (o : Outcome), exec sampleSpace sampleOapp s c = .ok (s', o) →
      Step sampleSpace (Function.update stores (pubkey 20) (some s)) (.store (pubkey 20) (.call c o))
        (Function.update stores (pubkey 20) (some s')) := by
    intro s s' c o h
    have hstep := Step.store (Function.update_self (pubkey 20) (some s) stores) (.call sampleOapp h)
    rwa [Function.update_idem] at hstep
  have hwire := hstep foreignStore wiredStore (.setPeerConfig (pubkey 24) ⟨30416, .peerAddress (pubkey 26)⟩) .done rfl
  have hopen := hstep wiredStore openStore (.setOftConfig (pubkey 24) (.paused false)) .done rfl
  have hforge := hstep openStore received _ _ hreceived
  refine ⟨_, _, .cons (l := launchTx) (.success (.single hlaunch) rfl rfl (by simp [launchTx])) (.cons (l := wiringTx)
    (.success (.cons hcreate (.cons hwire (.single hopen))) rfl rfl (by simp [wiringTx]))
    (.single (l := forgedTx) (.success (.single hforge) rfl rfl ?_))), rfl⟩
  intro group hgroup i hi
  obtain rfl := List.mem_singleton.mp hgroup
  obtain rfl := List.mem_singleton.mp hi
  trivial

def sampleHistory (program : Pubkey) : History sampleSpace program where
  transactions := [forgedTx, wiringTx, launchTx]
  executed := sample_executed
  ordered := by simp [forgedTx, wiringTx, launchTx]
  distinct := by simp [forgedTx, wiringTx, launchTx]

def sampleScanFormats : ScanFormats where
  toAddressFormats := plainFormats []
  packetFromBytes _ := .error typeError
  bs58Encode := Library.Base58.encode
  bs58Decode := Library.Base58.decode
  decode_encode := Library.Base58.decode_encode
  decode_empty := Library.Base58.decode_empty

def sampleProgram : Pubkey :=
  (sampleScanFormats.publicKey (some (.str productionSolanaOftProgram))).getD (pubkey 0)

theorem sampleProgram_known :
    sampleScanFormats.publicKey (some (.str productionSolanaOftProgram)) = some sampleProgram := by
  have hsome : (sampleScanFormats.publicKey (some (.str productionSolanaOftProgram))).isSome = true := by
    decide +kernel
  obtain ⟨program, hprogram⟩ := Option.isSome_iff_exists.mp hsome
  rw [sampleProgram, hprogram, Option.getD_some]

def approvedStore : String := sampleScanFormats.toBase58 (pubkey 9)

def otherStore : String := sampleScanFormats.toBase58 (pubkey 20)

def sampleNode : SolanaRpc := nodeOf sampleScanFormats sampleProgram [forgedTx, wiringTx, launchTx] 1000

def forgedEvidence (host : Host) (solanaStore : String) : InFlightMessageEvidence where
  guid := host.toLowerCase (hexText (pubkey 17).toList)
  direction := .robinhoodToSolana
  sourceNonce := "0"
  sourceTransaction := ""
  sourceHeight := "0"
  sourceBlockHash := ""
  sourceEventIndex := .finite (0 : Nat)
  sourceOft := sampleOft
  destinationOft := solanaStore
  amountRaw := toString (9 % 256 ^ 8)
  receiver := hexText (pubkey 27).toList
  status := .delivered
  destinationTransaction := some "forged"
  destinationHeight := some (toString 105)
  destinationBlockHash := some (toString (105 : Int))
  layerZeroApiStatus := none

theorem visitTransaction_sample {tx : Transaction} {found : Found} (htx : tx ∈ [forgedTx, wiringTx, launchTx])
    (hf : tx.failed = false) :
    visitTransaction host sampleScanFormats sampleNode solanaStore sampleOft found (infoOf tx) =
      (observedFrom sampleScanFormats 0 tx.emissions).foldlM (visitEvent host sampleScanFormats solanaStore
        sampleOft (infoOf tx) (toString (tx.slot : Int)) []) found := by
  have hanswer : sampleNode.getParsedTransaction tx.signature =
      .ok (some (renderTransaction sampleScanFormats sampleProgram tx)) :=
    getParsedTransaction_nodeOf (sampleHistory sampleProgram).distinct htx
  have hevents := extractSolanaOftEvents_render sampleProgram_known hf
    ((sampleHistory sampleProgram).untagged htx hf)
  have hblock : blockAt sampleNode (infoOf tx).slot = .ok (toString (tx.slot : Int)) := rfl
  have hpackets : ∀ tx, sampleNode.extractSentPacketEventByTxHash tx = .ok none := fun _ => rfl
  change (sampleNode.getParsedTransaction tx.signature >>= _) = _
  rw [hanswer, ok_bind, ofOption, ok_bind, hblock, ok_bind, hevents, ok_bind, hpackets, ok_bind, Option.getD_none]

theorem forged_receipt :
    receivedEvidence host sampleScanFormats solanaStore sampleOft (infoOf forgedTx) (toString (105 : Int))
      (observed sampleScanFormats (.received forgedEvent) 0) = .ok (forgedEvidence host solanaStore) := by
  have hoft : sampleScanFormats.getAddress (some (.str sampleOft)) = some sampleOft := by decide +kernel
  have hreceiver := sampleScanFormats.publicKey_toBase58 (pubkey 27)
  simp only [receivedEvidence, observed, forgedEvent, getPublicKey, getAddress, hoft, hreceiver, ofOption, ok_bind]
  rfl

theorem visit_forged : visitTransaction host sampleScanFormats sampleNode solanaStore sampleOft ⟨[], []⟩
    (infoOf forgedTx) = .ok ⟨[], [forgedEvidence host solanaStore]⟩ := by
  have hobserved : observedFrom sampleScanFormats 0 forgedTx.emissions =
      [observed sampleScanFormats (.received forgedEvent) 0] := rfl
  have heid : ¬ (observed sampleScanFormats (.received forgedEvent) 0).eid ≠ robinhoodEid := by decide
  have hvisit : visitEvent host sampleScanFormats solanaStore sampleOft (infoOf forgedTx) (toString (105 : Int))
      [] ⟨[], []⟩ (observed sampleScanFormats (.received forgedEvent) 0) =
        .ok ⟨[], [forgedEvidence host solanaStore]⟩ := by
    rw [visitEvent, if_neg heid]
    change (receivedEvidence _ _ _ _ _ _ _ >>= _) = _
    rw [forged_receipt]
    rfl
  rw [visitTransaction_sample List.mem_cons_self rfl, hobserved, List.foldlM_cons]
  exact bind_eq_ok.mpr ⟨_, hvisit, rfl⟩

def sampleScan (host : Host) (solanaStore : String) : ScanResult where
  range := ⟨toString (100 : Int), toString (105 : Int), toString (105 : Int), Inventory.solanaMainnetGenesisHash,
    toString (100 : Int), toString (105 : Int), true, true⟩
  sent := []
  received := [forgedEvidence host solanaStore]

theorem scan_sample :
    scanSolana host sampleScanFormats sampleNode 1 100 105 solanaStore sampleOft =
      .ok (sampleScan host solanaStore) := by
  have hsignatures : collectSignatures sampleNode 100 105 1 none =
      .ok ([infoOf forgedTx, infoOf wiringTx], true) := rfl
  have hwiring : visitTransaction host sampleScanFormats sampleNode solanaStore sampleOft
      ⟨[], [forgedEvidence host solanaStore]⟩ (infoOf wiringTx) = .ok ⟨[], [forgedEvidence host solanaStore]⟩ := by
    rw [visitTransaction_sample (by simp) rfl]
    rfl
  simp only [scanSolana, bind_eq_ok]
  refine ⟨105, rfl, (), rfl, 0, rfl, (), rfl, toString (100 : Int), rfl, toString (105 : Int), rfl, _, rfl, (), rfl,
    _, hsignatures, (), rfl, ⟨[], [forgedEvidence host solanaStore]⟩, ?_, rfl⟩
  rw [List.foldlM_cons, visit_forged, ok_bind, List.foldlM_cons, hwiring, ok_bind]
  rfl

/-- Nothing is emitted for any store but the other one. -/
theorem sample_emissions {tx : Transaction} (htx : tx ∈ (sampleHistory sampleProgram).transactions) {e : Emission}
    (he : e ∈ tx.emissions) : e.store = pubkey 20 := by
  have hall : ∀ tx ∈ [forgedTx, wiringTx, launchTx], ∀ e ∈ tx.emissions, e.store = pubkey 20 := by
    simp [forgedTx, wiringTx, launchTx, Transaction.emissions, InnerInstruction.emission]
  exact hall tx htx e he

theorem serves_sampleNode :
    Serves sampleNode sampleScanFormats sampleProgram (sampleHistory sampleProgram).transactions :=
  serves_nodeOf (by decide) (sampleHistory sampleProgram).distinct

/-- The transfer to the approved store whose GUID has been taken, as Robinhood reports
it. It is still on its way. -/
def transferEvidence : InFlightMessageEvidence where
  guid := hexText (pubkey 17).toList
  direction := .robinhoodToSolana
  sourceNonce := toString 1
  sourceTransaction := hashOf 'a'
  sourceHeight := toString 205
  sourceBlockHash := hashOf 'b'
  sourceEventIndex := .finite (0 : Nat)
  sourceOft := sampleOft
  destinationOft := approvedStore
  amountRaw := toString (9 % 256 ^ 8)
  receiver := hexText (pubkey 27).toList
  status := .unresolved
  destinationTransaction := none
  destinationHeight := none
  destinationBlockHash := none
  layerZeroApiStatus := none

def transferInput (host : Host) : BuildManifestInput :=
  { sampleInput 9 with
    identities := ⟨⟨productionSolanaEndpoint, productionSolanaOftProgram, approvedStore⟩,
      ⟨productionRobinhoodEndpoint, sampleOft⟩⟩
    primary := ⟨⟨(sampleScan host approvedStore).range, sampleRanges.robinhood⟩, [transferEvidence],
      (sampleScan host approvedStore).received⟩
    secondary := ⟨⟨(sampleScan host approvedStore).range, sampleRanges.robinhood⟩, [transferEvidence],
      (sampleScan host approvedStore).received⟩
    layerZeroStatuses := some fun _ => some "CONFIRMING" }

/-- The SHA-256 digest of its manifest. -/
def transferDigest : Vector UInt8 32 :=
  #v[67, 54, 142, 154, 91, 28, 53, 49, 148, 34, 146, 215, 134, 28, 44, 129, 20, 27, 95, 84, 102, 192, 153, 18, 63,
    25, 242, 33, 146, 13, 98, 162]

theorem forged_key : (entryOf host (forgedEvidence host approvedStore)).1 = sourceKey host transferEvidence :=
  congrArg host.toLowerCase (toLowerCase_of_lower host (hexDigest_lower (pubkey 17)))

theorem transfer_pairing : pairing host (transferInput host).primary =
    [(transferEvidence, some (forgedEvidence host approvedStore))] := by
  have hlookup : [entryOf host (forgedEvidence host approvedStore)].lookup (sourceKey host transferEvidence) =
      some (forgedEvidence host approvedStore) := by
    rw [← forged_key]
    exact List.lookup_cons_self
  change [(transferEvidence, [entryOf host (forgedEvidence host approvedStore)].lookup
    (sourceKey host transferEvidence))] = _
  rw [hlookup]

theorem transfer_built : Built host (transferInput host) ⟨0, 0, 0⟩ where
  agreement := rfl
  distinct := List.nodup_singleton _
  compatible := by
    intro p hp
    rw [transfer_pairing] at hp
    obtain rfl := List.mem_singleton.mp hp
    have hupper : host.toUpperCase "CONFIRMING" = "CONFIRMING" := by
      have hascii : ("CONFIRMING".toList.all fun c => c.toNat < 128) = true := by decide
      rw [host.toUpperCase_ascii _ fun c hc => of_decide_eq_true (List.all_eq_true.mp hascii c hc)]
      decide
    have hknown : host.toUpperCase "CONFIRMING" ∈ ["DELIVERED", "CONFIRMING"] := by
      rw [hupper]
      exact List.mem_cons_of_mem _ List.mem_cons_self
    exact ⟨⟨rfl, rfl, rfl⟩, .inr hknown⟩
  consumed := by
    rw [consume_rest, List.filter_eq_nil_iff]
    intro e he
    obtain rfl := List.mem_singleton.mp he
    have hmem : sourceKey host transferEvidence ∈
        (transferInput host).primary.sourceMessages.map (sourceKey host) := List.mem_cons_self
    rw [forged_key, decide_eq_true_eq, not_not]
    exact hmem
  totals := by
    rw [messagesOf, transfer_pairing]
    rfl

end Sample

/-- The receipts the scanner reports, and the deliveries it settles with them, are all
of the approved store exactly when nobody else has received from Robinhood in the range. -/
theorem received_of_store_iff
    (hp : formats.publicKey (some (.str productionSolanaOftProgram)) = some program)
    (hs : Serves rpc formats program history.transactions)
    (h : scanSolana host formats rpc fuel fromSlot toSlot solanaStore robinhoodOft = .ok scan) :
    ((∀ m ∈ scan.received, StemsFrom formats history solanaStore m) ∧
      ∀ input manifest, (∀ d ∈ input.primary.destinationMessages, d.direction = .robinhoodToSolana →
          d ∈ scan.received) →
        buildInFlightManifest host input = .ok manifest →
        ∀ m ∈ manifest.messages, m.direction = .robinhoodToSolana → m.status = .delivered →
          ∃ d ∈ scan.received, host.toLowerCase d.guid = host.toLowerCase m.guid ∧
            d.destinationTransaction = m.destinationTransaction ∧ StemsFrom formats history solanaStore d) ↔
      ∀ tx ∈ history.transactions, tx.failed = false → fromSlot ≤ tx.slot → tx.slot ≤ toSlot →
        ∀ store e, ⟨store, .received e⟩ ∈ tx.emissions → (e.srcEid : Nat) = robinhoodEid →
          IsStore formats solanaStore store := by
  obtain ⟨hsound, hcomplete⟩ := scanSolana_received hp hs h
  constructor
  · rintro ⟨hall, _⟩ tx htx hf hfrom hto store e hmem heid
    obtain ⟨index, hindex⟩ := List.mem_iff_getElem?.mp hmem
    obtain ⟨m, hm, hevidence⟩ := hcomplete tx (mem_scanned.mpr ⟨htx, ⟨hfrom, hto⟩, hf⟩) index store e hindex heid
    obtain ⟨htransaction, hposition⟩ := receiptEvidence_position hevidence
    obtain ⟨tx', htx', index', store', e', hindex', htransaction', hposition', hstore, _⟩ := hall m hm
    have hsignature : tx'.signature = tx.signature := Option.some.inj (htransaction'.symm.trans htransaction)
    have hsame : tx' = tx := List.inj_on_of_nodup_map history.distinct htx' htx hsignature
    have hi : index' = index := by
      have hcast := JsNumber.finite.inj (hposition'.symm.trans hposition)
      exact_mod_cast hcast
    subst hsame hi
    cases hindex'.symm.trans hindex
    exact hstore
  · intro hall
    have hstems : ∀ m ∈ scan.received, StemsFrom formats history solanaStore m := by
      intro m hm
      obtain ⟨tx, htx, index, store, e, hindex, heid, hevidence⟩ := hsound m hm
      obtain ⟨hmem, ⟨hfrom, hto⟩, hf⟩ := mem_scanned.mp htx
      have hemitted := List.mem_of_getElem? hindex
      obtain ⟨htransaction, hposition⟩ := receiptEvidence_position hevidence
      exact ⟨tx, hmem, index, store, e, hindex, htransaction, hposition,
        hall tx hmem hf hfrom hto store e hemitted heid, history.receivedOn hmem hf hemitted⟩
    refine ⟨hstems, fun input manifest hinput hb m hm hdirection hdelivered => ?_⟩
    obtain ⟨d, hd, hguid, hsame, htransaction⟩ := delivered_settled hb hm hdelivered
    have hreceived := hinput d hd (hsame.trans hdirection)
    exact ⟨d, hreceived, hguid, htransaction, hstems d hreceived⟩

theorem received_of_store_own : StemsFrom sampleScanFormats (sampleHistory sampleProgram) otherStore
    (forgedEvidence (plainHost sampleDigest) otherStore) := by
  have hscan : scanSolana (plainHost sampleDigest) sampleScanFormats sampleNode 1 100 105 otherStore sampleOft =
      .ok (sampleScan (plainHost sampleDigest) otherStore) := scan_sample
  refine ((received_of_store_iff sampleProgram_known serves_sampleNode hscan).mpr ?_).1 _ (List.mem_singleton_self _)
  intro tx htx _ _ _ store e he _
  obtain rfl : store = _ := sample_emissions htx he
  exact sampleScanFormats.publicKey_toBase58 _

/-- A receipt on somebody else's store settles a transfer to the approved store. -/
theorem foreign_receipt_settles :
    Serves sampleNode sampleScanFormats sampleProgram (sampleHistory sampleProgram).transactions ∧
    scanSolana (plainHost transferDigest) sampleScanFormats sampleNode 1 100 105 approvedStore sampleOft =
      .ok (sampleScan (plainHost transferDigest) approvedStore) ∧
    (∃ m ∈ (sampleScan (plainHost transferDigest) approvedStore).received,
      ¬ StemsFrom sampleScanFormats (sampleHistory sampleProgram) approvedStore m) ∧
    ∃ manifest, buildInFlightManifest (plainHost transferDigest) (transferInput (plainHost transferDigest)) =
        .ok manifest ∧
      (manifest.messages.map fun m => (m.guid, m.status)) = [(transferEvidence.guid, .delivered)] ∧
      manifest.summary = ⟨1, 0, toString 0, toString 0⟩ := by
  generalize plainHost transferDigest = host
  refine ⟨serves_sampleNode, scan_sample, ⟨_, List.mem_singleton_self _, ?_⟩, _,
    buildInFlightManifest_eq_ok.mpr ⟨_, transfer_built, rfl⟩, ?_, ?_⟩
  · rintro ⟨tx, htx, index, store, e, hindex, _, _, hstore, _⟩
    obtain rfl : store = _ := sample_emissions htx (List.mem_of_getElem? hindex)
    have hsame := hstore.symm.trans (sampleScanFormats.publicKey_toBase58 _)
    exact absurd hsame (by decide)
  · change ((messagesOf host (transferInput host)).map fun m => (m.guid, m.status)) = _
    rw [messagesOf, transfer_pairing]
    rfl
  · change (⟨(messagesOf host (transferInput host)).length, _, _, _⟩ : Summary) = _
    rw [messagesOf, transfer_pairing]
    rfl

end SanBridge.Tooling.Settlement
