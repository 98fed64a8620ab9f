import SanBridge.Solana.ReceiveTypes
import SanBridge.System.Conservation
import SanBridge.Tooling.Building
import SanBridge.Tooling.Extraction
import SanBridge.Tooling.RobinhoodScan

namespace SanBridge.Tooling.Correspondence

open Library.BigEndian Library.Checked Library.Runs Tooling.Runtime Tooling.Checker Tooling.Policy
open Tooling.Manifest Tooling.Building Tooling.Extraction Tooling.RobinhoodScan
open Tooling.SolanaScan (ScanFormats Found SignatureInfo PacketV1 decodeEvent hexText bufferFromHex readOftReceiver
  solanaEid robinhoodEid)
open Solana.Tenants (ProgramEvent)
open System.Bridge

variable {host : Host} {formats : EvmFormats}

section Texts

theorem isHex_digitChar {n : Nat} (h : n < 16) : isHex (Nat.digitChar n) = true := by
  simp [isHex, digitChar_lower h]

theorem toList_hexText (bytes : Bytes) : (hexText bytes).toList = '0' :: 'x' :: (hexDigest bytes).toList := by
  rw [hexText, String.toList_append]
  rfl

theorem bufferFromHex_hexDigest (bytes : Bytes) : bufferFromHex (hexDigest bytes).toList = bytes := by
  rw [toList_hexDigest]
  induction bytes with
  | nil => rfl
  | cons b bytes ih =>
    have hb : b.toNat < 256 := b.toNat_lt
    have hhigh : b.toNat / 16 < 16 := by omega
    have hlow : b.toNat % 16 < 16 := by omega
    have hv := digitValue_digitChar hhigh
    have hv' := digitValue_digitChar hlow
    have hsplit : 16 * (b.toNat / 16) + b.toNat % 16 = b.toNat := by omega
    rw [List.flatMap_cons, List.cons_append, List.cons_append, List.nil_append, bufferFromHex,
      if_pos ⟨isHex_digitChar hhigh, isHex_digitChar hlow⟩, hv, hv', hsplit, UInt8.ofNat_toNat, ih]

theorem readOftReceiver_hexText {message : Bytes} (h : 40 ≤ message.length) :
    readOftReceiver (hexText message) = .ok (hexText (message.take 32)) := by
  have hstart : startsWith (hexText message) "0x" = true := by
    rw [startsWith, toList_hexText]
    rfl
  have hdigits : (hexText message).toList.drop 2 = (hexDigest message).toList := by
    rw [toList_hexText]
    rfl
  have hlong : decide (40 ≤ message.length) = true := decide_eq_true h
  rw [readOftReceiver]
  simp only [hstart, if_true, hdigits, bufferFromHex_hexDigest, hlong]
  rfl

theorem toLowerCase_hexText (bytes : Bytes) : host.toLowerCase (hexText bytes) = hexText bytes := by
  have hlower := toLowerCase_digits host (isLowerHex_hexDigest bytes)
  rwa [String.ofList_toList] at hlower

theorem hexText_injective : Function.Injective hexText := by
  intro xs ys h
  have hlist := congrArg String.toList h
  rw [toList_hexText, toList_hexText, List.cons.injEq, List.cons.injEq] at hlist
  exact hexDigest_injective (String.toList_inj.mp hlist.2.2)

end Texts

section Recipients

open Evm.Base Evm.Runtime

/-- The base contract takes the last twenty bytes of the first word for the recipient. -/
def ReadsRecipient (oft : OFT) : Prop := ∀ message toAddress amount, oft.readMsg message = .ok (toAddress, amount) →
  (Solana.MsgCodec.sendTo message).map bytes32ToAddress = some toAddress

/-- `hexZeroPad` fills up with zeros from the left. -/
def PadsZeros (formats : AddressFormats) : Prop := ∀ (digits : List Char) (width : Nat),
  (∀ c ∈ digits, isHex c = true) → digits.length ≤ 2 * width →
    formats.hexZeroPad ("0x" ++ String.ofList digits) width =
      some ("0x" ++ String.ofList (List.replicate (2 * width - digits.length) '0' ++ digits))

/-- An address as the interfaces write it, with a checksum in the case of its letters. -/
structure Checksummed (address : Address) (text : String) (digits : List Char) : Prop where
  text_eq : text = "0x" ++ String.ofList digits
  hex : ∀ c ∈ digits, isHex c = true
  lower : digits.map Char.toLower = (hexDigest (beBytes 20 address)).toList

/-- A recipient an address can stand for: nothing stands before its last twenty bytes. -/
def IsAddress (dest : Bytes32) : Prop := dest.toList.take 12 = List.replicate 12 0

instance (dest : Bytes32) : Decidable (IsAddress dest) := inferInstanceAs (Decidable (_ = _))

theorem isHex_ascii {c : Char} (h : isHex c = true) : c.toNat < 128 := by
  simp only [isHex, decide_eq_true_eq] at h
  cases h with
  | inl h =>
    have hn := isLowerHex_toNat h
    omega
  | inr h =>
    have hf : c.toNat ≤ 70 := h.2
    omega

theorem beBytes_bytes32ToAddress (dest : Bytes32) : beBytes 20 (bytes32ToAddress dest) = dest.toList.drop 12 := by
  have hlow : (dest.toList.drop 12).length = 20 := by simp
  have hval : (bytes32ToAddress dest : Nat) = readBe dest.toList % 256 ^ 20 := rfl
  have hread := beBytes_readBe_append (dest.toList.take 12) (dest.toList.drop 12)
  rw [hlow, List.take_append_drop] at hread
  rw [hval, beBytes_mod, hread]

/-- The scanner puts zeros where the recipient of the message may have had other bytes. -/
theorem bytes32FromEvm_checksummed {address : Address} {text : String} {digits : List Char}
    (hpad : PadsZeros formats.toAddressFormats) (h : Checksummed address text digits) :
    bytes32FromEvm host formats.toAddressFormats text =
      .ok (hexText (List.replicate 12 0 ++ beBytes 20 address)) := by
  have hlength : digits.length = 40 := by
    have hmap := congrArg List.length h.lower
    rwa [List.length_map, length_hexDigest, length_beBytes] at hmap
  have hpadded := hpad digits 32 h.hex (by omega)
  rw [← h.text_eq, hlength] at hpadded
  have hascii : ∀ c ∈ ("0x" ++ String.ofList (List.replicate (2 * 32 - 40) '0' ++ digits)).toList,
      c.toNat < 128 := by
    intro c hc
    rw [toList_hex, List.mem_append, List.mem_append] at hc
    obtain hc | hc | hc := hc
    · have hstart : ("0x".toList.all fun c => c.toNat < 128) = true := by decide
      exact of_decide_eq_true (List.all_eq_true.mp hstart c hc)
    · rw [List.eq_of_mem_replicate hc]
      decide
    · exact isHex_ascii (h.hex c hc)
  have hzeros : List.replicate (2 * 32 - 40) '0' = (hexDigest (List.replicate 12 0)).toList := by decide
  have happend : (hexDigest (List.replicate 12 0 ++ beBytes 20 address)).toList =
      (hexDigest (List.replicate 12 0)).toList ++ (hexDigest (beBytes 20 address)).toList := by
    rw [toList_hexDigest, toList_hexDigest, toList_hexDigest, List.flatMap_append]
  rw [bytes32FromEvm, hpadded, ofOption, ok_bind, host.toLowerCase_ascii _ hascii]
  apply congrArg
  apply String.toList_inj.mp
  rw [String.toList_ofList, toList_hex, List.map_append, List.map_append, h.lower, toList_hexText, happend, hzeros]
  rfl

theorem hexText_padded_eq_iff {dest : Bytes32} :
    hexText (List.replicate 12 0 ++ beBytes 20 (bytes32ToAddress dest)) = hexText dest.toList ↔ IsAddress dest := by
  rw [hexText_injective.eq_iff, beBytes_bytes32ToAddress, IsAddress]
  conv_lhs => rhs; rw [← List.take_append_drop 12 dest.toList]
  rw [List.append_cancel_right_eq]
  exact eq_comm

end Recipients

section Evidence

/-- What a record of either scan tells about a transfer. -/
structure Tells (m : InFlightMessageEvidence) (guid : Bytes) (direction : InFlightDirection) (amount : Nat)
    (receiver : Bytes) : Prop where
  guid : m.guid = hexText guid
  direction : m.direction = direction
  amountRaw : m.amountRaw = toString amount
  receiver : m.receiver = hexText receiver

variable {source destination : InFlightMessageEvidence} {guid receiver receiver' : Bytes}
  {direction : InFlightDirection} {amount : Nat}

theorem agrees_iff (hs : Tells source guid direction amount receiver)
    (hd : Tells destination guid direction amount receiver') :
    Agrees host source destination ↔ receiver' = receiver := by
  have htext : host.toLowerCase destination.receiver = host.toLowerCase source.receiver ↔ receiver' = receiver := by
    rw [hd.receiver, hs.receiver, toLowerCase_hexText, toLowerCase_hexText, hexText_injective.eq_iff]
  constructor
  · intro h
    exact htext.mp h.receiver
  · intro h
    exact ⟨hd.direction.trans hs.direction.symm, hd.amountRaw.trans hs.amountRaw.symm, htext.mpr h⟩

/-- The error of `buildInFlightManifest` for a receipt that does not fit its source. -/
def disagreement (host : Host) (source : InFlightMessageEvidence) : String :=
  "Source-chain and destination-chain evidence disagrees for GUID " ++ host.toLowerCase source.guid

theorem disagreement_eq {bytes : Bytes} (h : source.guid = hexText bytes) : disagreement host source =
    "Source-chain and destination-chain evidence disagrees for GUID " ++ hexText bytes := by
  unfold disagreement
  rw [h, toLowerCase_hexText]

theorem matchSource_disagreement_iff {statuses : Option (String → Option String)}
    (hs : Tells source guid direction amount receiver) (hd : Tells destination guid direction amount receiver') :
    matchSource host statuses [entryOf host destination] source = .error (disagreement host source) ↔
      ¬ Agrees host source destination := by
  have hlookup : [entryOf host destination].lookup (host.toLowerCase source.guid) = some destination := by
    rw [hs.guid, ← hd.guid]
    exact List.lookup_cons_self
  have hagrees : (destination.direction = source.direction ∧ destination.amountRaw = source.amountRaw ∧
      host.toLowerCase destination.receiver = host.toLowerCase source.receiver) ↔ Agrees host source destination :=
    ⟨fun ⟨hd, ha, hr⟩ => ⟨hd, ha, hr⟩, fun h => ⟨h.direction, h.amountRaw, h.receiver⟩⟩
  -- the other error is that of the LayerZero API
  have hother : "LayerZero API disagrees with delivered chain evidence for GUID " ++ host.toLowerCase source.guid ≠
      disagreement host source := by
    intro he
    have hstart := (String.append_left_inj _).mp he
    exact absurd hstart (by decide)
  simp only [matchSource, hlookup, bind_eq_error, require_eq_error, require_eq_ok, decide_eq_false_iff_not,
    decide_eq_true_eq, hagrees, hother, reduceCtorEq, and_false, or_false, exists_const]
  exact and_iff_left rfl

end Evidence

section Transfers

open Solana.Runtime Solana.State Solana.Instructions

variable {w : Wiring} {oft : Evm.Base.OFT}

/-- A store whose units are those of Robinhood, and whose mint takes no transfer fee. -/
structure Approved (s : StoreState) : Prop where
  rate : s.store.ld2sdRate = 1
  noFee : s.mint.transferFeeConfig = none

/-- A transfer Solana accepts, and its delivery on Robinhood later in the same run. -/
structure ToRobinhood (w : Wiring) (oft : Evm.Base.OFT) where
  start : State
  reachable : Reachable w start
  approved : Approved start.solana
  oapp : Oapp
  accounts : SendAccounts
  params : SendParams
  store : StoreState
  sent : SendResult
  accepted : send oapp accounts params start.solana = .ok (store, sent)
  stop : State
  run : Reaches (Step w) { start with
    solana := store, toRobinhood := solanaPacket start.solana sent ::ₘ start.toRobinhood } stop
  inFlight : solanaPacket start.solana sent ∈ stop.toRobinhood
  addressed : sent.packet.receiver = w.sanOft
  executor : Evm.Runtime.Address
  token : Evm.Contract.SanOFT
  received : Evm.Contract.OFTReceived
  delivered : Evm.Contract.lzReceive oft stop.evm.now executor ((solanaPacket start.solana sent).origin w)
    sent.receipt.guid sent.packet.message stop.evm.token = .ok (token, received)

/-- A transfer Robinhood accepts, and its delivery on Solana later in the same run. -/
structure ToSolana (w : Wiring) (oft : Evm.Base.OFT) where
  start : State
  reachable : Reachable w start
  sender : Evm.Runtime.Address
  params : Evm.Base.SendParam
  token : Evm.Contract.SanOFT
  sent : Evm.Contract.SendResult
  accepted : Evm.Contract.send oft start.evm.now sender params start.evm.token = .ok (token, sent)
  stop : State
  run : Reaches (Step w) { start with
    evm := { start.evm with token := token }, toSolana := evmPacket w sent ::ₘ start.toSolana } stop
  inFlight : evmPacket w sent ∈ stop.toSolana
  approved : Approved stop.solana
  oapp : Oapp
  accounts : LzReceiveAccounts
  store : StoreState
  received : OFTReceived
  delivered : lzReceive w.space oapp accounts ((evmPacket w sent).solanaParams w) stop.solana = .ok (store, received)

variable {space : AddressSpace} {oapp : Oapp} {s s' : StoreState} {amountLd arrived : Nat}

theorem plannedAmount_approved (h : Approved s) : Solana.ReceiveTypes.plannedAmount amountLd s = .ok amountLd := by
  rw [Solana.ReceiveTypes.plannedAmount, Solana.Amounts.getPostFeeAmountLd]
  rw [h.noFee]
  cases s.store.oftType <;> rfl

theorem lzReceive_approved {accounts : LzReceiveAccounts} {params : LzReceiveParams} {r : OFTReceived} (ha : Approved s)
    (h : lzReceive space oapp accounts params s = .ok (s', r)) :
    Solana.MsgCodec.amountSd params.message = some r.amountReceivedLd ∧
      Solana.MsgCodec.sendTo params.message = some r.dest ∧ r.guid = params.guid ∧ r.srcEid = params.srcEid := by
  obtain ⟨compose, hrequest⟩ := Solana.ReceiveTypes.lzReceive_request h
  obtain ⟨toAddress, amountSd, amountLd, arrived, hreads⟩ := Solana.ReceiveTypes.lzReceiveRequest_reads hrequest
  have harrived := hreads.arrived_eq
  rw [plannedAmount_approved ha, Except.ok.injEq] at harrived
  obtain ⟨_, hmul⟩ := mul_eq_ok.mp hreads.amountLd_eq
  rw [ha.rate, Nat.mul_one] at hmul
  rw [hreads.event_eq]
  refine ⟨?_, hreads.toAddress_eq, rfl, rfl⟩
  rw [← harrived, hmul]
  exact hreads.amountSd_eq

end Transfers

section Scans

variable {w : Wiring} {oft : Evm.Base.OFT} {solanaStore robinhoodOft : String}

structure ReadsPacket (srcEid : Evm.Runtime.U32) (p : Packet) (read : PacketV1) : Prop where
  guid : read.guid = hexText p.guid.toList
  srcEid : read.srcEid = srcEid
  dstEid : read.dstEid = p.dstEid
  sender : read.sender = hexText p.sender.toList
  receiverAddressB20 : read.receiverAddressB20 = hexText (p.receiver.toList.drop 12)
  message : read.message = hexText p.message

structure ReadsEvmPacket (srcEid : Evm.Runtime.U32) (p : Packet) (read : EvmPacketV1) : Prop
    extends ReadsPacket srcEid p read.toPacketV1 where
  senderAddressB20 : read.senderAddressB20 = hexText (p.sender.toList.drop 12)
  receiver : read.receiver = hexText p.receiver.toList

/-- Among the packets of a transaction is one, and no other has its GUID. -/
structure Holds {α : Type} (host : Host) (guidOf : α → String) (guid : Bytes) (Reads : α → Prop) (packets : List α) :
    Prop where
  found : ∃ packet ∈ packets, guidOf packet = hexText guid
  only : ∀ packet ∈ packets, host.toLowerCase (guidOf packet) = hexText guid → Reads packet

theorem Holds.find {α : Type} {guidOf : α → String} {guid : Bytes} {Reads : α → Prop} {packets : List α}
    (h : Holds host guidOf guid Reads packets) :
    ∃ packet, packets.find? (fun packet => host.toLowerCase (guidOf packet) = host.toLowerCase (hexText guid)) =
      some packet ∧ Reads packet := by
  obtain ⟨packet, hmem, hguid⟩ := h.found
  have hsome : (packets.find? fun packet =>
      host.toLowerCase (guidOf packet) = host.toLowerCase (hexText guid)).isSome = true := by
    rw [List.find?_isSome]
    exact ⟨packet, hmem, decide_eq_true (congrArg _ hguid)⟩
  obtain ⟨first, hfirst⟩ := Option.isSome_iff_exists.mp hsome
  have hsame : host.toLowerCase (guidOf first) = host.toLowerCase (hexText guid) := by
    simpa using List.find?_some hfirst
  rw [toLowerCase_hexText] at hsame
  exact ⟨first, hfirst, h.only first (List.mem_of_find?_eq_some hfirst) hsame⟩

/-- The scanners know the two applications by the texts they are given. -/
structure Configured (w : Wiring) (host : Host) (formats : EvmFormats) (solanaStore robinhoodOft : String) :
    Prop where
  solanaEid_eq : (w.solanaEid : Nat) = solanaEid
  robinhoodEid_eq : (w.robinhoodEid : Nat) = robinhoodEid
  store : formats.publicKey (some (.str solanaStore)) = some w.store
  oft : (formats.getAddress (some (.str robinhoodOft))).isSome
  oft_lower : host.toLowerCase robinhoodOft = hexText (w.sanOft.toList.drop 12)

/-- Where the scans meet the two events of a transfer: the transaction on Solana with
its packets, and the log on Robinhood with the node that serves its receipt. -/
structure Sighting where
  item : SignatureInfo
  blockhash : String
  packets : List Bytes
  index : Nat
  node : RobinhoodRpc
  log : Log

theorem Configured.address (hc : Configured w host formats solanaStore robinhoodOft) :
    ∃ address, getAddress formats.toAddressFormats (some (.str robinhoodOft)) = .ok address := by
  obtain ⟨address, haddress⟩ := Option.isSome_iff_exists.mp hc.oft
  exact ⟨address, ofOption_eq_ok.mpr haddress⟩

theorem Configured.key (hc : Configured w host formats solanaStore robinhoodOft) :
    SolanaScan.getPublicKey formats.toScanFormats solanaStore = .ok w.store :=
  ofOption_eq_ok.mpr hc.store

structure ToRobinhood.Seen (host : Host) (formats : EvmFormats) (x : ToRobinhood w oft) (v : Sighting) : Prop where
  packets : ∃ packets, v.packets.mapM formats.packetFromBytes = .ok packets ∧
    Holds host PacketV1.guid x.sent.receipt.guid.toList
      (ReadsPacket w.solanaEid (solanaPacket x.start.solana x.sent)) packets
  log : ∃ text digits, Checksummed x.received.toAddress text digits ∧ formats.parseOftLog v.log =
    some (.oftReceived (hexText x.received.guid.toList) x.received.srcEid text x.received.amountReceivedLD)

structure ToSolana.Seen (host : Host) (formats : EvmFormats) (x : ToSolana w oft) (v : Sighting) : Prop where
  packets : ∃ receipt packets, v.node.getTransactionReceipt v.log.transactionHash = .ok (some receipt) ∧
    receipt.status = some 1 ∧ packetsOf host formats receipt = .ok packets ∧
    Holds host (fun packet => packet.guid) x.sent.receipt.guid.toList
      (ReadsEvmPacket w.robinhoodEid (evmPacket w x.sent)) packets
  log : ∃ text, formats.parseOftLog v.log = some (.oftSent (hexText x.sent.event.guid.toList) x.sent.event.dstEid text
    x.sent.event.amountSentLD x.sent.event.amountReceivedLD)

variable {v : Sighting} (hc : Configured w host formats solanaStore robinhoodOft)

include hc

theorem ToRobinhood.sentEvidence (x : ToRobinhood w oft) (hv : x.Seen host formats v) :
    ∃ source, (∀ found, SolanaScan.visitEvent host formats.toScanFormats solanaStore robinhoodOft v.item v.blockhash
        v.packets found (observed formats.toScanFormats (.sent x.sent.event) v.index) =
          .ok { found with sent := found.sent ++ [source] }) ∧
      Tells source x.sent.receipt.guid.toList .solanaToRobinhood (x.sent.event.amountReceivedLd % 256 ^ 8)
        x.params.dest.toList := by
  obtain ⟨e⟩ := Solana.Effects.send_effect x.accepted
  have hrouted := System.Routing.routed_reachable x.reachable
  have heid : x.params.dstEid = w.robinhoodEid := (hrouted.peer _ _ e.peer_eq).1
  obtain ⟨packets, hpackets, hholds⟩ := hv.packets
  obtain ⟨packet, hfind, hreads⟩ := hholds.find
  obtain ⟨address, haddress⟩ := hc.address
  have hguid : x.sent.event.guid = x.sent.receipt.guid := by rw [e.event_eq]
  have hdst : packet.dstEid = robinhoodEid := by
    rw [hreads.dstEid, ← hc.robinhoodEid_eq, ← heid]
    exact congrArg Fin.val e.dstEid_eq
  have hsrc : packet.srcEid = solanaEid := hreads.srcEid.trans hc.solanaEid_eq
  have hsender : packet.sender = hexText w.store.toList := by
    rw [hreads.sender]
    exact congrArg (fun key : Solana.Runtime.Pubkey => hexText key.toList) hrouted.key
  have hreceiver : host.toLowerCase packet.receiverAddressB20 = host.toLowerCase robinhoodOft := by
    have haddressed : (solanaPacket x.start.solana x.sent).receiver = w.sanOft := x.addressed
    rw [hreads.receiverAddressB20, haddressed, toLowerCase_hexText, hc.oft_lower]
  have hmessage : readOftReceiver packet.message = .ok (hexText x.params.dest.toList) := by
    have htext : packet.message = hexText x.sent.packet.message := hreads.message
    rw [htext, e.message_eq, readOftReceiver_hexText Solana.MsgCodec.length_encode, Solana.MsgCodec.take_encode]
  have hobserved : (observed formats.toScanFormats (.sent x.sent.event) v.index).guid =
      hexText x.sent.receipt.guid.toList := by
    rw [← hguid]
    rfl
  have hevent : (observed formats.toScanFormats (.sent x.sent.event) v.index).eid = robinhoodEid := by
    change (x.sent.event.dstEid : Nat) = robinhoodEid
    rw [e.event_eq, ← hc.robinhoodEid_eq, ← heid]
  obtain ⟨source, hevidence, htells⟩ : ∃ source,
      SolanaScan.sentEvidence host formats.toScanFormats solanaStore robinhoodOft v.item v.blockhash v.packets
        (observed formats.toScanFormats (.sent x.sent.event) v.index) = .ok source ∧
      Tells source x.sent.receipt.guid.toList .solanaToRobinhood (x.sent.event.amountReceivedLd % 256 ^ 8)
        x.params.dest.toList := by
    simp only [SolanaScan.sentEvidence, bind_eq_ok, ofOption_eq_ok, require_eq_ok, decide_eq_true_eq, hobserved]
    exact ⟨_, ⟨packets, hpackets, packet, hfind, (), ⟨hsrc, hdst⟩, w.store, hc.key, (),
      ⟨congrArg host.toLowerCase hsender, hreceiver⟩, address, haddress, _, hmessage, rfl⟩,
      toLowerCase_hexText _, rfl, rfl, rfl⟩
  refine ⟨source, fun found => ?_, htells⟩
  exact (if_neg (not_not.mpr hevent)).trans (bind_eq_ok.mpr ⟨_, hevidence, rfl⟩)

theorem ToRobinhood.receivedEvidence (hpad : PadsZeros formats.toAddressFormats) (hr : ReadsRecipient oft)
    (x : ToRobinhood w oft) (hv : x.Seen host formats v) :
    ∃ destination, (∀ found, visitLog host formats v.node robinhoodOft solanaStore found v.log =
        .ok { found with received := found.received ++ [destination] }) ∧
      Tells destination x.sent.receipt.guid.toList .solanaToRobinhood (x.sent.event.amountReceivedLd % 256 ^ 8)
        (List.replicate 12 0 ++ beBytes 20 (Evm.Base.bytes32ToAddress x.params.dest)) := by
  obtain ⟨e⟩ := Solana.Effects.send_effect x.accepted
  obtain ⟨toAddress, amount, hm, hevent⟩ := Evm.Program.lzReceive_event x.delivered
  obtain ⟨text, digits, htext, hlog⟩ := hv.log
  obtain ⟨address, haddress⟩ := hc.address
  have hto : Evm.Base.bytes32ToAddress x.params.dest = toAddress := by
    have hsend := hr _ _ _ hm
    rwa [e.message_eq, Solana.MsgCodec.sendTo_encode, Option.map_some, Option.some.injEq] at hsend
  have hamount : x.sent.event.amountReceivedLd % 256 ^ 8 = amount := by
    have hsd := oft.readMsg_amount _ _ _ hm
    rw [e.message_eq, Solana.MsgCodec.amountSd_encode_mod, Solana.State.OFTStore.ld2sd, x.approved.rate, Nat.div_one,
      Option.some.injEq] at hsd
    rw [e.event_eq]
    exact hsd
  rw [hevent] at htext hlog
  have heid : (w.solanaEid : Nat) = solanaEid := hc.solanaEid_eq
  have hreceiver : bytes32FromEvm host formats.toAddressFormats text =
      .ok (hexText (List.replicate 12 0 ++ beBytes 20 toAddress)) := bytes32FromEvm_checksummed hpad htext
  obtain ⟨destination, hevidence, htells⟩ : ∃ destination,
      RobinhoodScan.receivedEvidence host formats robinhoodOft solanaStore v.log
        (hexText x.sent.receipt.guid.toList) text amount = .ok destination ∧
      Tells destination x.sent.receipt.guid.toList .solanaToRobinhood amount
        (List.replicate 12 0 ++ beBytes 20 toAddress) :=
    ⟨_, bind_eq_ok.mpr ⟨address, haddress, bind_eq_ok.mpr ⟨_, hreceiver, rfl⟩⟩,
      toLowerCase_hexText _, rfl, rfl, rfl⟩
  rw [hto, hamount]
  refine ⟨destination, fun found => ?_, htells⟩
  rw [visitLog, hlog]
  exact (if_neg (not_not.mpr heid)).trans (bind_eq_ok.mpr ⟨_, hevidence, rfl⟩)

theorem ToSolana.sentEvidence (x : ToSolana w oft) (hv : x.Seen host formats v) :
    ∃ source, (∀ found, visitLog host formats v.node robinhoodOft solanaStore found v.log =
        .ok { found with sent := found.sent ++ [source] }) ∧
      Tells source x.sent.receipt.guid.toList .robinhoodToSolana x.received.amountReceivedLd
        x.received.dest.toList := by
  obtain ⟨e⟩ := Evm.Program.send_effect x.accepted
  have hrouted := System.Routing.routed_reachable x.reachable
  have hbucket : Evm.Limits.BucketOk false x.start.evm :=
    Evm.Limits.bucketOk_reachable (System.Conservation.invariant_reachable x.reachable).evm
  obtain ⟨hamount, _⟩ := System.Conservation.evmPacket_amount hbucket.valid e
  obtain ⟨hsd, hto, _⟩ := lzReceive_approved x.approved x.delivered
  obtain ⟨heid, hpeer⟩ := hrouted.evmPeer _ e.peer_ne
  obtain ⟨receipt, packets, hanswer, hstatus, hpackets, hholds⟩ := hv.packets
  obtain ⟨packet, hfind, hreads⟩ := hholds.find
  obtain ⟨text, hlog⟩ := hv.log
  obtain ⟨address, haddress⟩ := hc.address
  have hreceived : e.amount = x.received.amountReceivedLd := Option.some.inj (hamount.symm.trans hsd)
  have hguid : x.sent.event.guid = x.sent.receipt.guid := by rw [e.event_eq]
  have hdst : (x.sent.event.dstEid : Nat) = solanaEid := by
    rw [e.event_eq, ← hc.solanaEid_eq]
    exact congrArg Fin.val heid
  have hpacket : packet.dstEid = solanaEid := by
    rw [hreads.dstEid, ← hdst]
    rfl
  have hsrc : packet.srcEid = robinhoodEid := hreads.srcEid.trans hc.robinhoodEid_eq
  have hsender : host.toLowerCase packet.senderAddressB20 = host.toLowerCase robinhoodOft := by
    rw [hreads.senderAddressB20, toLowerCase_hexText, hc.oft_lower]
    rfl
  have hreceiver : packet.receiver = hexText w.store.toList := by
    rw [hreads.receiver]
    exact congrArg (fun key : Evm.Runtime.Bytes32 => hexText key.toList) (e.receiver_eq.trans hpeer)
  have hmessage : readOftReceiver packet.message = .ok (hexText x.received.dest.toList) := by
    have htext : packet.message = hexText x.sent.message := hreads.message
    rw [htext, readOftReceiver_hexText (Solana.MsgCodec.length_of_amountSd hamount)]
    exact congrArg (fun bytes => Except.ok (hexText bytes)) (Solana.MsgCodec.take_of_sendTo hto)
  have hsent : x.sent.event.amountReceivedLD = x.received.amountReceivedLd := by
    rw [e.event_eq]
    exact hreceived
  have hkept : (some receipt).filter (fun receipt => receipt.status = some 1) = some receipt := by simp [hstatus]
  obtain ⟨source, hevidence, htells⟩ : ∃ source,
      RobinhoodScan.sentEvidence host formats v.node robinhoodOft solanaStore v.log
        (hexText x.sent.receipt.guid.toList) x.received.amountReceivedLd = .ok source ∧
      Tells source x.sent.receipt.guid.toList .robinhoodToSolana x.received.amountReceivedLd
        x.received.dest.toList := by
    simp only [RobinhoodScan.sentEvidence, bind_eq_ok, ofOption_eq_ok, require_eq_ok, decide_eq_true_eq]
    exact ⟨_, ⟨some receipt, hanswer, receipt, hkept, packets, hpackets, packet, hfind, (), ⟨hsrc, hpacket, hsender⟩,
      w.store, hc.key, (), congrArg host.toLowerCase hreceiver, address, haddress, _, hmessage, rfl⟩,
      toLowerCase_hexText _, rfl, rfl, rfl⟩
  rw [hguid, hsent] at hlog
  refine ⟨source, fun found => ?_, htells⟩
  rw [visitLog, hlog]
  exact (if_neg (not_not.mpr hdst)).trans (bind_eq_ok.mpr ⟨_, hevidence, rfl⟩)

theorem ToSolana.receivedEvidence (x : ToSolana w oft) :
    ∃ destination, (∀ found, SolanaScan.visitEvent host formats.toScanFormats solanaStore robinhoodOft v.item
        v.blockhash v.packets found (observed formats.toScanFormats (.received x.received) v.index) =
          .ok { found with received := found.received ++ [destination] }) ∧
      Tells destination x.sent.receipt.guid.toList .robinhoodToSolana x.received.amountReceivedLd
        x.received.dest.toList := by
  obtain ⟨hsd, _, hguid, hsrc⟩ := lzReceive_approved x.approved x.delivered
  obtain ⟨address, haddress⟩ := hc.address
  have hfit : x.received.amountReceivedLd % 256 ^ 8 = x.received.amountReceivedLd :=
    Nat.mod_eq_of_lt (Solana.MsgCodec.amountSd_lt hsd)
  have hobserved : (observed formats.toScanFormats (.received x.received) v.index).guid =
      hexText x.sent.receipt.guid.toList :=
    congrArg (fun key : Solana.Runtime.Pubkey => hexText key.toList) hguid
  have hreceiver : SolanaScan.getPublicKey formats.toScanFormats (formats.toBase58 x.received.dest) =
      .ok x.received.dest := ofOption_eq_ok.mpr (formats.publicKey_toBase58 _)
  have hevent : (observed formats.toScanFormats (.received x.received) v.index).eid = robinhoodEid := by
    change (x.received.srcEid : Nat) = robinhoodEid
    rw [hsrc]
    exact hc.robinhoodEid_eq
  obtain ⟨destination, hevidence, htells⟩ : ∃ destination,
      SolanaScan.receivedEvidence host formats.toScanFormats solanaStore robinhoodOft v.item v.blockhash
        (observed formats.toScanFormats (.received x.received) v.index) = .ok destination ∧
      Tells destination x.sent.receipt.guid.toList .robinhoodToSolana x.received.amountReceivedLd
        x.received.dest.toList := by
    simp only [SolanaScan.receivedEvidence, bind_eq_ok, hobserved]
    exact ⟨_, ⟨address, haddress, _, hreceiver, rfl⟩, toLowerCase_hexText _, rfl, congrArg toString hfit, rfl⟩
  refine ⟨destination, fun found => ?_, htells⟩
  exact (if_neg (not_not.mpr hevent)).trans (bind_eq_ok.mpr ⟨_, hevidence, rfl⟩)

end Scans

section Sample

open Solana.Program System.Bridge

def encodePacket (srcEid : Evm.Runtime.U32) (p : Packet) : Bytes :=
  [1] ++ (beBytes 8 p.nonce ++ (beBytes 4 srcEid ++ (p.sender.toList ++ (beBytes 4 p.dstEid ++ (p.receiver.toList ++
    (p.guid.toList ++ p.message))))))

def decodePacket (bytes : Bytes) : EvmPacketV1 where
  guid := hexText ((bytes.drop 81).take 32)
  nonce := toString (readBe ((bytes.drop 1).take 8))
  srcEid := readBe ((bytes.drop 9).take 4)
  dstEid := readBe ((bytes.drop 45).take 4)
  sender := hexText ((bytes.drop 13).take 32)
  receiverAddressB20 := hexText ((bytes.drop 61).take 20)
  message := hexText (bytes.drop 113)
  senderAddressB20 := hexText ((bytes.drop 25).take 20)
  receiver := hexText ((bytes.drop 49).take 32)

theorem decodePacket_encodePacket (srcEid : Evm.Runtime.U32) (p : Packet) :
    ReadsEvmPacket srcEid p (decodePacket (encodePacket srcEid p)) := by
  have hread : ∀ n : Evm.Runtime.U32, readBe (beBytes 4 n) = n := fun n => readBe_beBytes_of_lt n.isLt
  constructor
  · constructor <;> simp [decodePacket, encodePacket, List.drop_append, List.drop_of_length_le, hread]
  · simp [decodePacket, encodePacket, List.drop_append, List.drop_of_length_le]
  · simp [decodePacket, encodePacket, List.drop_append, List.drop_of_length_le]

/-! A transfer of 100 tokens to any recipient, delivered once SanOFT has its peer and is unpaused. -/

def wiredToken : Evm.Contract.SanOFT :=
  { Evm.Limits.deployed.token with peers := Function.update (fun _ => Evm.Runtime.zeroBytes32) 30168 (pubkey 9) }

def openToken : Evm.Contract.SanOFT := { wiredToken with paused := false }

def resultTo (dest : Solana.Runtime.Pubkey) : Solana.Instructions.SendResult :=
  { sampleResult with packet := { sampleResult.packet with
      message := Solana.MsgCodec.encode dest 100 (pubkey 6) none } }

def tokenAfter (dest : Solana.Runtime.Pubkey) : Evm.Contract.SanOFT :=
  { openToken with
    ledger := Library.Accounts.mint (Library.Accounts.empty Evm.Runtime.Address)
      (Evm.Base.standard.creditTo (Evm.Base.bytes32ToAddress dest)) 100
    inboundBucket := { Evm.Contract.initializeBucket 0 with available := Evm.Contract.canaryCapacity - 100 } }

theorem accepted_to (dest : Solana.Runtime.Pubkey) :
    Solana.Instructions.send sampleOapp sampleAccounts { sampleParams with dest := dest } matchedStore =
      .ok (sentStore, resultTo dest) := by
  simp only [Solana.Instructions.send, bind_eq_ok]
  exact ⟨matchedPeer, rfl, (), rfl, (), rfl, (), rfl, (), rfl, ⟨100, 100, 0⟩, rfl, (), rfl,
    sentPeer.outboundRateLimiter, rfl, sentPeer.inboundRateLimiter, rfl, _, rfl, pubkey 9, rfl, (), rfl, [], rfl,
    ⟨pubkey 7, 1⟩, rfl, rfl⟩

theorem readMsg_resultTo (dest : Solana.Runtime.Pubkey) :
    Evm.Base.standard.readMsg (resultTo dest).packet.message = .ok (Evm.Base.bytes32ToAddress dest, 100) := by
  have hmessage : (resultTo dest).packet.message = Solana.MsgCodec.encode dest 100 (pubkey 6) none := rfl
  have hamount : Solana.MsgCodec.amountSd (resultTo dest).packet.message = some 100 := by
    rw [hmessage, Solana.MsgCodec.amountSd_encode (by decide)]
  rw [hmessage] at hamount ⊢
  simp only [Evm.Base.standard, Solana.MsgCodec.sendTo_encode, hamount]

theorem creditTo_ne_zero (a : Evm.Runtime.Address) : (Evm.Base.standard.creditTo a != 0) = true := by
  change ((if a = 0 then (0xdead : Evm.Runtime.Address) else a) != 0) = true
  by_cases h : a = 0
  · rw [if_pos h]
    decide
  · rw [if_neg h]
    simpa using h

theorem delivered_to (dest : Solana.Runtime.Pubkey) :
    Evm.Contract.lzReceive Evm.Base.standard 0 2 ⟨30168, pubkey 9, 1⟩ (pubkey 7) (resultTo dest).packet.message
      openToken = .ok (tokenAfter dest, ⟨pubkey 7, 30168, Evm.Base.bytes32ToAddress dest, 100⟩) := by
  have hmint : Evm.Runtime.erc20Mint openToken.ledger (Evm.Base.standard.creditTo (Evm.Base.bytes32ToAddress dest))
      100 = .ok (tokenAfter dest).ledger := by
    rw [Evm.Runtime.erc20Mint, creditTo_ne_zero]
    rfl
  simp only [Evm.Contract.lzReceive, Evm.Contract.credit, bind_eq_ok]
  exact ⟨(), rfl, pubkey 9, rfl, (), rfl, _, readMsg_resultTo dest, tokenAfter dest,
    ⟨(), rfl, _, rfl, _, hmint, rfl⟩, rfl⟩

def transferTo (dest : Solana.Runtime.Pubkey) : ToRobinhood sampleWiring Evm.Base.standard where
  start := sampleState matchedStore
  reachable := reachable_matched
  approved := ⟨rfl, rfl⟩
  oapp := sampleOapp
  accounts := sampleAccounts
  params := { sampleParams with dest := dest }
  store := sentStore
  sent := resultTo dest
  accepted := accepted_to dest
  stop := { sampleState sentStore with
    evm := ⟨0, openToken⟩
    toRobinhood := {solanaPacket matchedStore (resultTo dest)} }
  run := by
    let sent := solanaPacket matchedStore (resultTo dest)
    have hwire : Evm.Program.Step Evm.Limits.deployed (.call 1 (.setPeer 30168 (pubkey 9)) .done) ⟨0, wiredToken⟩ :=
      .call Evm.Base.standard rfl
    have hopen : Evm.Program.Step ⟨0, wiredToken⟩ (.call 1 .unpause .done) ⟨0, openToken⟩ :=
      .call Evm.Base.standard rfl
    have h₁ : Step sampleWiring ⟨sentStore, Evm.Limits.deployed, {sent}, 0⟩
        (.evm (.call 1 (.setPeer 30168 (pubkey 9)) .done)) ⟨sentStore, ⟨0, wiredToken⟩, {sent}, 0⟩ :=
      .evm ⟨rfl, .inl rfl⟩ hwire
    have h₂ : Step sampleWiring ⟨sentStore, ⟨0, wiredToken⟩, {sent}, 0⟩ (.evm (.call 1 .unpause .done))
        ⟨sentStore, ⟨0, openToken⟩, {sent}, 0⟩ :=
      .evm trivial hopen
    exact ⟨_, .cons h₁ (.single h₂)⟩
  inFlight := Multiset.mem_singleton_self _
  addressed := rfl
  executor := 2
  token := tokenAfter dest
  received := ⟨pubkey 7, 30168, Evm.Base.bytes32ToAddress dest, 100⟩
  delivered := delivered_to dest

/-- `parseLog` for a receipt to an address without letters, which is its own checksummed form. -/
def parseReceived (log : Log) : Option OftLog :=
  match log.topics with
  | [topic, guid, toAddress] =>
    if topic = "0xefed6d3500546b29533b128a29e3a94d70788727f0507505ac12eaf2e578fd9c" then do
      let srcEid ← radixValue 16 ((log.data.toList.drop 2).take 64)
      let amountReceivedLD ← radixValue 16 (log.data.toList.drop 66)
      some (.oftReceived guid srcEid ("0x" ++ String.ofList (toAddress.toList.drop 26)) amountReceivedLD)
    else none
  | _ => none

def oftText : String := hexText (List.replicate 20 11)

def transferFormats : EvmFormats where
  toAddressFormats := plainFormats [(oftText, "0x0B0b0b0b0B0B0B0B0b0b0b0b0B0B0B0B0B0b0B0b")]
  packetFromBytes bytes := .ok (decodePacket bytes).toPacketV1
  bs58Encode := Library.Base58.encode
  bs58Decode := Library.Base58.decode
  decode_encode := Library.Base58.decode_encode
  decode_empty := Library.Base58.decode_empty
  parseOftLog := parseReceived
  parseEndpointLog _ := none
  packetFrom text := .ok (decodePacket (bufferFromHex (text.toList.drop 2)))

/-- An address as a recipient, and the same address under other bytes. -/
def lowRecipient : Solana.Runtime.Pubkey := ⟨(List.replicate 12 (0 : UInt8) ++ List.replicate 20 17).toArray, rfl⟩

def highRecipient : Solana.Runtime.Pubkey := pubkey 17

def transferHost : Host := plainHost (Vector.replicate 32 0)

def inputOf (source destination : InFlightMessageEvidence) : BuildManifestInput :=
  { sampleInput 100 with
    primary := ⟨sampleRanges, [source], [destination]⟩
    secondary := ⟨sampleRanges, [source], [destination]⟩
    layerZeroStatuses := none }

theorem inputOf_refused {source destination : InFlightMessageEvidence} {e : String}
    (h : matchSource host none [entryOf host destination] source = .error e) :
    buildInFlightManifest host (inputOf source destination) = .error e := by
  have hindex : indexDestinations host (inputOf source destination).primary.destinationMessages =
      .ok [entryOf host destination] := indexDestinations_eq_ok.mpr ⟨List.nodup_singleton _, rfl⟩
  have hmatch : matchSources host none [entryOf host destination] [source] = .error e :=
    bind_eq_error.mpr (.inl h)
  have hsame : providerComparable host (inputOf source destination).primary =
      providerComparable host (inputOf source destination).secondary := rfl
  rw [buildInFlightManifest, hsame, require, if_pos (decide_eq_true rfl), ok_bind, hindex, ok_bind]
  exact bind_eq_error.mpr (.inl hmatch)

def storeText : String := transferFormats.toBase58 (pubkey 9)

def transferLog : Log where
  address := oftText
  topics := ["0xefed6d3500546b29533b128a29e3a94d70788727f0507505ac12eaf2e578fd9c", hexText (pubkey 7).toList,
    hexText (List.replicate 12 0 ++ List.replicate 20 17)]
  data := hexText (beBytes 32 30168 ++ beBytes 32 100)
  transactionHash := hashOf 'c'
  blockNumber := 205
  blockHash := hashOf 'd'
  logIndex := 3

def sightingOf (dest : Solana.Runtime.Pubkey) : Sighting where
  item := ⟨"sent", 101, false⟩
  blockhash := "block"
  packets := [encodePacket 30168 (solanaPacket matchedStore (resultTo dest))]
  index := 0
  node := {
    getNetwork := .ok 4663
    finalizedBlock := .ok (some ⟨some "0xcd", some (hashOf 'd')⟩)
    getBlock _ := .ok (some (hashOf 'd'))
    getLogs _ _ _ := .ok [transferLog]
    getTransactionReceipt _ := .ok none }
  log := transferLog

theorem padsZeros_plain (checksums : List (String × String)) : PadsZeros (plainFormats checksums) := by
  intro digits width hhex hlength
  have hstart : startsWith ("0x" ++ String.ofList digits) "0x" = true := by
    rw [startsWith, toList_hex]
    exact List.isPrefixOf_iff_prefix.mpr (List.prefix_append _ _)
  have hdrop : ("0x" ++ String.ofList digits).toList.drop 2 = digits := by
    rw [toList_hex]
    rfl
  have hall : digits.all isHex = true := List.all_eq_true.mpr hhex
  have hunits : (codeUnits (String.ofList digits)).length = digits.length := by
    apply length_codeUnits
    intro c hc
    have hascii := isHex_ascii (hhex c hc)
    omega
  simp only [plainFormats, hdrop, hstart, hall, hlength, and_self, if_true, padStart, hunits]
  rw [String.ofList_append]

theorem readsRecipient_standard : ReadsRecipient Evm.Base.standard := by
  intro message toAddress amount h
  simp only [Evm.Base.standard] at h
  split at h
  · rename_i hsend _
    cases h
    rw [hsend, Option.map_some]
  · cases h

theorem configured_sample : Configured sampleWiring host transferFormats storeText oftText where
  solanaEid_eq := rfl
  robinhoodEid_eq := rfl
  store := transferFormats.publicKey_toBase58 _
  oft := by decide +kernel
  oft_lower := toLowerCase_hexText _

theorem seen_sample {dest : Solana.Runtime.Pubkey} (h : dest.toList.drop 12 = List.replicate 20 17) :
    (transferTo dest).Seen host transferFormats (sightingOf dest) where
  packets := by
    have hreads := decodePacket_encodePacket 30168 (solanaPacket matchedStore (resultTo dest))
    refine ⟨[_], rfl, ⟨_, List.mem_singleton_self _, hreads.guid⟩, fun packet hp _ => ?_⟩
    rw [List.mem_singleton.mp hp]
    exact hreads.toReadsPacket
  log := by
    refine ⟨_, List.replicate 40 '1', ⟨rfl, ?_, ?_⟩, ?_⟩
    · intro c hc
      rw [List.eq_of_mem_replicate hc]
      decide
    · change _ = (hexDigest (beBytes 20 (Evm.Base.bytes32ToAddress dest))).toList
      rw [beBytes_bytes32ToAddress, h]
      decide
    · change parseReceived transferLog = some (.oftReceived (hexText (pubkey 7).toList) 30168 _ 100)
      decide +kernel

end Sample

section Agreement

open Solana.Program (pubkey)

variable {w : Wiring} {oft : Evm.Base.OFT} {solanaStore robinhoodOft : String}

/-- A transfer in either direction, from its acceptance to its delivery. -/
inductive Transfer (w : Wiring) (oft : Evm.Base.OFT)
  | toRobinhood (x : ToRobinhood w oft)
  | toSolana (x : ToSolana w oft)

def Transfer.Seen (host : Host) (formats : EvmFormats) (v : Sighting) : Transfer w oft → Prop
  | .toRobinhood x => x.Seen host formats v
  | .toSolana x => x.Seen host formats v

def Transfer.guid : Transfer w oft → Bytes
  | .toRobinhood x => x.sent.receipt.guid.toList
  | .toSolana x => x.sent.receipt.guid.toList

/-- The recipient is one the receiving chain can tell apart from all others. -/
def Transfer.Representable : Transfer w oft → Prop
  | .toRobinhood x => IsAddress x.params.dest
  | .toSolana _ => True

/-- The source and the destination record that the scans add on meeting the two events:
on Solana the bytes the program emits, on Robinhood the log. -/
def Transfer.Recorded (host : Host) (formats : EvmFormats) (solanaStore robinhoodOft : String) (v : Sighting)
    (source destination : InFlightMessageEvidence) : Transfer w oft → Prop
  | .toRobinhood x =>
    (∃ event, decodeEvent formats.toScanFormats (ProgramEvent.sent x.sent.event).data v.index = some event ∧
      ∀ found, SolanaScan.visitEvent host formats.toScanFormats solanaStore robinhoodOft v.item v.blockhash v.packets
        found event = .ok { found with sent := found.sent ++ [source] }) ∧
    ∀ found, visitLog host formats v.node robinhoodOft solanaStore found v.log =
      .ok { found with received := found.received ++ [destination] }
  | .toSolana x =>
    (∀ found, visitLog host formats v.node robinhoodOft solanaStore found v.log =
      .ok { found with sent := found.sent ++ [source] }) ∧
    ∃ event, decodeEvent formats.toScanFormats (ProgramEvent.received x.received).data v.index = some event ∧
      ∀ found, SolanaScan.visitEvent host formats.toScanFormats solanaStore robinhoodOft v.item v.blockhash v.packets
        found event = .ok { found with received := found.received ++ [destination] }

variable {v : Sighting} (hc : Configured w host formats solanaStore robinhoodOft)
  (hpad : PadsZeros formats.toAddressFormats) (hr : ReadsRecipient oft)

include hc hpad hr

/-- The two records of a transfer tell the same but for the recipient's bytes that no address has. -/
theorem Transfer.records (x : Transfer w oft) (hv : x.Seen host formats v) :
    ∃ source destination direction amount receiver receiver',
      x.Recorded host formats solanaStore robinhoodOft v source destination ∧
      Tells source x.guid direction amount receiver ∧ Tells destination x.guid direction amount receiver' ∧
      (receiver' = receiver ↔ x.Representable) := by
  cases x with
  | toRobinhood x =>
    obtain ⟨source, hsource, htells⟩ := x.sentEvidence hc hv
    obtain ⟨destination, hdestination, htells'⟩ := x.receivedEvidence hc hpad hr hv
    refine ⟨source, destination, _, _, _, _, ⟨⟨_, decodeEvent_data _, hsource⟩, hdestination⟩, htells, htells', ?_⟩
    rw [← hexText_injective.eq_iff]
    exact hexText_padded_eq_iff
  | toSolana x =>
    obtain ⟨source, hsource, htells⟩ := x.sentEvidence hc hv
    obtain ⟨destination, hdestination, htells'⟩ := x.receivedEvidence (v := v) hc
    exact ⟨source, destination, _, _, _, _, ⟨hsource, _, decodeEvent_data _, hdestination⟩, htells, htells',
      iff_of_true rfl trivial⟩

/-- The scanners agree about a transfer, and let its delivery settle it, exactly when it
comes from Robinhood or is to a recipient that is an address. -/
theorem evidence_agrees_iff (x : Transfer w oft) (hv : x.Seen host formats v) :
    ∃ source destination, x.Recorded host formats solanaStore robinhoodOft v source destination ∧
      (Agrees host source destination ↔ x.Representable) ∧
      ∀ statuses, matchSource host statuses [entryOf host destination] source = .error (disagreement host source) ↔
        ¬ x.Representable := by
  obtain ⟨source, destination, direction, amount, receiver, receiver', hrecorded, hs, hd, hiff⟩ :=
    x.records hc hpad hr hv
  have hagrees : Agrees host source destination ↔ x.Representable := (agrees_iff hs hd).trans hiff
  refine ⟨source, destination, hrecorded, hagrees, fun statuses => ?_⟩
  rw [matchSource_disagreement_iff hs hd, hagrees]

omit hc hpad hr in
theorem evidence_agrees_low : ∃ source destination,
    (Transfer.toRobinhood (transferTo lowRecipient)).Recorded transferHost transferFormats storeText oftText
      (sightingOf lowRecipient) source destination ∧ Agrees transferHost source destination := by
  have hconfigured : Configured sampleWiring transferHost transferFormats storeText oftText := configured_sample
  obtain ⟨source, destination, hrecorded, hagrees, _⟩ :=
    evidence_agrees_iff hconfigured (padsZeros_plain _) readsRecipient_standard
      (.toRobinhood (transferTo lowRecipient)) (seen_sample (by decide))
  exact ⟨source, destination, hrecorded, hagrees.mpr (by decide : IsAddress lowRecipient)⟩

omit hc hpad hr in
/-- A recipient with a byte set before its last twenty: Robinhood credits the address, and
the scanner refuses the settled transfer. -/
theorem high_recipient_refused : ∃ source destination,
    (Transfer.toRobinhood (transferTo highRecipient)).Recorded transferHost transferFormats storeText oftText
      (sightingOf highRecipient) source destination ∧
    ¬ Agrees transferHost source destination ∧
    buildInFlightManifest transferHost (inputOf source destination) =
      .error ("Source-chain and destination-chain evidence disagrees for GUID " ++ hexText (pubkey 7).toList) := by
  have hconfigured : Configured sampleWiring transferHost transferFormats storeText oftText := configured_sample
  obtain ⟨source, destination, direction, amount, receiver, receiver', hrecorded, hs, hd, hiff⟩ :=
    Transfer.records hconfigured (padsZeros_plain _) readsRecipient_standard
      (.toRobinhood (transferTo highRecipient)) (seen_sample (by decide))
  have hdisagree : ¬ Agrees transferHost source destination := by
    rw [agrees_iff hs hd, hiff]
    exact (by decide : ¬ IsAddress highRecipient)
  have hrefused := inputOf_refused ((matchSource_disagreement_iff hs hd).mpr hdisagree)
  have hguid : source.guid = hexText (pubkey 7).toList := hs.guid
  rw [disagreement_eq hguid] at hrefused
  exact ⟨source, destination, hrecorded, hdisagree, hrefused⟩

end Agreement

end SanBridge.Tooling.Correspondence
