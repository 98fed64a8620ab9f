import SanBridge.Library.Slices
import SanBridge.Solana.ReceiveTypes

namespace SanBridge.Solana.ComposeMsgCodec

open Library.BigEndian Library.Checked Library.Slices Solana.Runtime Solana.State Solana.Instructions
open Solana.Program Solana.ReceiveTypes

section Accessors

/-! What an accessor reads from a slice out of range is a panic. -/

def nonce (message : Bytes) : Option Nat := (slice message 0 8).map readBe

def srcEid (message : Bytes) : Option Nat := (slice message 8 12).map readBe

def amountLd (message : Bytes) : Option Nat := (slice message 12 20).map readBe

def composeFrom (message : Bytes) : Option Pubkey :=
  if h : 52 ≤ message.length then
    some ⟨((message.drop 20).take 32).toArray, by
      simp only [List.size_toArray, List.length_take, List.length_drop]
      omega⟩
  else none

def composeMsg (message : Bytes) : Bytes := if 52 < message.length then message.drop 52 else []

theorem isSome_composeFrom {message : Bytes} : (composeFrom message).isSome = true ↔ 52 ≤ message.length := by
  rw [composeFrom]
  split_ifs with h <;> simp [h]

end Accessors

section RoundTrip

variable {n : U64} {eid : U32} {amount : Nat} {c tail msg : Bytes} {sender : Pubkey}

theorem length_encode : (encodeComposeMsg n eid amount c).length = 20 + c.length := by
  simp only [encodeComposeMsg, List.length_append, length_beBytes]

theorem nonce_encode : nonce (encodeComposeMsg n eid amount c) = some n.val := by
  have hslice : slice (encodeComposeMsg n eid amount c) 0 8 = some (beBytes 8 n) := by
    have h := @slice_append _ [] (beBytes 8 n) (beBytes 4 eid ++ beBytes 8 amount ++ c) 0 8 rfl
      (congrArg (0 + ·) (length_beBytes 8 n))
    simpa only [encodeComposeMsg, List.append_assoc, List.nil_append, List.length_nil] using h
  rw [nonce, hslice, Option.map_some, readBe_beBytes_of_lt n.isLt]

theorem srcEid_encode : srcEid (encodeComposeMsg n eid amount c) = some eid.val := by
  have hslice : slice (encodeComposeMsg n eid amount c) 8 12 = some (beBytes 4 eid) := by
    have h := @slice_append _ (beBytes 8 n) (beBytes 4 eid) (beBytes 8 amount ++ c) 8 12 (length_beBytes 8 n)
      (congrArg (8 + ·) (length_beBytes 4 eid))
    simpa only [encodeComposeMsg, List.append_assoc] using h
  rw [srcEid, hslice, Option.map_some, readBe_beBytes_of_lt eid.isLt]

theorem amountLd_encode (h : amount < 2 ^ 64) : amountLd (encodeComposeMsg n eid amount c) = some amount := by
  have hfit : amount < 256 ^ 8 := h
  have hhead : (beBytes 8 n ++ beBytes 4 eid).length = 12 := by
    rw [List.length_append, length_beBytes, length_beBytes]
  have hslice : slice (encodeComposeMsg n eid amount c) 12 20 = some (beBytes 8 amount) :=
    slice_append hhead (congrArg (12 + ·) (length_beBytes 8 amount))
  rw [amountLd, hslice, Option.map_some, readBe_beBytes_of_lt hfit]

theorem drop_encode : (encodeComposeMsg n eid amount c).drop 20 = c := by
  apply List.drop_left'
  simp only [List.length_append, length_beBytes]

theorem composeFrom_encode : composeFrom (encodeComposeMsg n eid amount (sender.toList ++ msg)) = some sender := by
  have hlength : 52 ≤ (encodeComposeMsg n eid amount (sender.toList ++ msg)).length := by
    rw [length_encode, List.length_append, Vector.length_toList]
    omega
  rw [composeFrom, dif_pos hlength, Option.some.injEq]
  apply Vector.toArray_inj.mp
  change (((encodeComposeMsg n eid amount (sender.toList ++ msg)).drop 20).take 32).toArray = sender.toArray
  rw [drop_encode, List.take_left' Vector.length_toList]
  rfl

theorem composeMsg_encode : composeMsg (encodeComposeMsg n eid amount (sender.toList ++ msg)) = msg := by
  have hdrop : (encodeComposeMsg n eid amount (sender.toList ++ msg)).drop 52 = msg := by
    change (encodeComposeMsg n eid amount (sender.toList ++ msg)).drop (20 + 32) = msg
    rw [← List.drop_drop, drop_encode, List.drop_left' Vector.length_toList]
  rw [composeMsg]
  split_ifs with h
  · exact hdrop
  · -- the boundary: nothing follows the sender
    rw [← hdrop, List.drop_of_length_le (Nat.le_of_not_lt h)]

/-- What the five accessors read from a message. -/
structure Reads (message : Bytes) (n : U64) (eid : U32) (amount : U64) (sender : Pubkey) (msg : Bytes) : Prop where
  nonce_eq : nonce message = some n.val
  srcEid_eq : srcEid message = some eid.val
  amountLd_eq : amountLd message = some amount.val
  composeFrom_eq : composeFrom message = some sender
  composeMsg_eq : composeMsg message = msg

theorem reads_encode (amount : U64) :
    Reads (encodeComposeMsg n eid amount (sender.toList ++ msg)) n eid amount sender msg :=
  ⟨nonce_encode, srcEid_encode, amountLd_encode amount.isLt, composeFrom_encode, composeMsg_encode⟩

/-- None of the accessors panics; the last one never does. -/
structure Defined (message : Bytes) : Prop where
  nonce_isSome : (nonce message).isSome = true
  srcEid_isSome : (srcEid message).isSome = true
  amountLd_isSome : (amountLd message).isSome = true
  composeFrom_isSome : (composeFrom message).isSome = true

theorem defined_encode (h : 32 ≤ c.length) : Defined (encodeComposeMsg n eid amount c) := by
  have hhead {start stop : Nat} (hstop : stop ≤ 20) :
      ((slice (encodeComposeMsg n eid amount c) start stop).map readBe).isSome = true := by
    rw [Option.isSome_map, isSome_slice, length_encode]
    omega
  refine ⟨hhead (by decide), hhead (by decide), hhead (by decide), isSome_composeFrom.mpr ?_⟩
  rw [length_encode]
  omega

theorem encodeComposeMsg_injective {n' : U64} {eid' : U32} {amount amount' : U64} {c' : Bytes}
    (h : encodeComposeMsg n eid amount c = encodeComposeMsg n' eid' amount' c') :
    n = n' ∧ eid = eid' ∧ amount = amount' ∧ c = c' := by
  have hnonce := congrArg nonce h
  have heid := congrArg srcEid h
  have hamount := congrArg amountLd h
  have htail := congrArg (List.drop 20) h
  rw [nonce_encode, nonce_encode, Option.some.injEq] at hnonce
  rw [srcEid_encode, srcEid_encode, Option.some.injEq] at heid
  rw [amountLd_encode amount.isLt, amountLd_encode amount'.isLt, Option.some.injEq] at hamount
  rw [drop_encode, drop_encode] at htail
  exact ⟨Fin.ext hnonce, Fin.ext heid, Fin.ext hamount, htail⟩

/-- The wire format of a transfer and the format of its compose payload, one inside the other. -/
theorem codecs_round_trip :
    (∀ (dest : Pubkey) (amountSd : U64) (sender : Pubkey) (compose : Option Bytes),
      MsgCodec.sendTo (MsgCodec.encode dest amountSd sender compose) = some dest ∧
      MsgCodec.amountSd (MsgCodec.encode dest amountSd sender compose) = some amountSd.val ∧
      (MsgCodec.composeMsg (MsgCodec.encode dest amountSd sender compose) = none ↔ compose = none) ∧
      ∀ c, MsgCodec.composeMsg (MsgCodec.encode dest amountSd sender compose) = some c →
        ∀ (n : U64) (eid : U32) (amount : U64), ∃ msg, compose = some msg ∧
          Reads (encodeComposeMsg n eid amount c) n eid amount sender msg) ∧
    (∀ (dest dest' : Pubkey) (amountSd amountSd' : U64) (sender sender' : Pubkey) (compose compose' : Option Bytes),
      MsgCodec.encode dest amountSd sender compose = MsgCodec.encode dest' amountSd' sender' compose' →
        dest = dest' ∧ amountSd = amountSd' ∧ compose = compose' ∧ (compose ≠ none → sender = sender')) ∧
    ∀ (n n' : U64) (eid eid' : U32) (amount amount' : U64) (c c' : Bytes),
      encodeComposeMsg n eid amount c = encodeComposeMsg n' eid' amount' c' →
        n = n' ∧ eid = eid' ∧ amount = amount' ∧ c = c' := by
  refine ⟨fun dest amountSd sender compose => ⟨MsgCodec.sendTo_encode, MsgCodec.amountSd_encode amountSd.isLt, ?_,
    fun c hc n eid amount => ?_⟩, fun _ _ _ _ _ _ _ _ => MsgCodec.encode_injective,
    fun _ _ _ _ _ _ _ _ => encodeComposeMsg_injective⟩
  · rw [MsgCodec.composeMsg_encode, Option.map_eq_none_iff]
  · rw [MsgCodec.composeMsg_encode] at hc
    obtain ⟨msg, hmsg, rfl⟩ := Option.map_eq_some_iff.mp hc
    exact ⟨msg, hmsg, reads_encode amount⟩

end RoundTrip

section Received

variable {space : AddressSpace} {oapp : Oapp} {accounts : LzReceiveAccounts} {params : LzReceiveParams}
  {s s' : StoreState} {r : OFTReceived} {compose : Option SendComposeParams} {message c : Bytes}

def Encoded (message : Bytes) : Prop :=
  ∃ (dest : Pubkey) (amountSd : U64) (sender : Pubkey) (compose : Option Bytes),
    message = MsgCodec.encode dest amountSd sender compose

def keyAt (message : Bytes) (start : Nat) (h : start + 32 ≤ message.length) : Pubkey :=
  ⟨((message.drop start).take 32).toArray, by
    simp only [List.size_toArray, List.length_take, List.length_drop]
    omega⟩

theorem beBytes_readBe {bytes : Bytes} {width : Nat} (h : bytes.length = width) :
    beBytes width (readBe bytes) = bytes := by
  rw [← h]
  exact beBytes_readBe_append [] bytes

theorem encoded_iff : Encoded message ↔ message.length = 40 ∨ 72 ≤ message.length := by
  constructor
  · rintro ⟨dest, amountSd, sender, compose, rfl⟩
    rw [MsgCodec.length_encode_eq]
    cases compose with
    | none => exact .inl rfl
    | some msg => exact .inr (Nat.le_add_right 72 msg.length)
  · intro h
    have hwidth : ((message.drop 32).take 8).length = 8 := by
      rw [List.length_take, List.length_drop]
      omega
    have hlt : readBe ((message.drop 32).take 8) < 2 ^ 64 := by
      have hread := readBe_lt ((message.drop 32).take 8)
      rw [hwidth] at hread
      exact hread
    have hhead : message = message.take 32 ++ (message.drop 32).take 8 ++ message.drop 40 := by
      have hdrop : message.drop 40 = (message.drop 32).drop 8 := by rw [List.drop_drop]
      rw [hdrop, List.append_assoc, List.take_append_drop, List.take_append_drop]
    have hamount := beBytes_readBe hwidth
    cases h with
    | inl h =>
      refine ⟨keyAt message 0 (by omega), ⟨_, hlt⟩, Vector.replicate 32 0, none, ?_⟩
      have hend : message.drop 40 = [] := List.drop_of_length_le h.le
      rw [hend, List.append_nil] at hhead
      rw [MsgCodec.encode, hamount]
      exact hhead
    | inr h =>
      refine ⟨keyAt message 0 (by omega), ⟨_, hlt⟩, keyAt message 40 (by omega), some (message.drop 72), ?_⟩
      have htail : message.drop 40 = (message.drop 40).take 32 ++ message.drop 72 := by
        have hdrop : message.drop 72 = (message.drop 40).drop 32 := by rw [List.drop_drop]
        rw [hdrop, List.take_append_drop]
      rw [htail, ← List.append_assoc] at hhead
      rw [MsgCodec.encode, hamount]
      exact hhead

/-- The parameters of the call of `send_compose`, and how far `lz_receive` reads the message before. -/
theorem request_eq_ok (h : lzReceiveRequest space oapp accounts params s = .ok (s', r, compose)) :
    40 ≤ params.message.length ∧
      ∀ call ∈ compose, ∃ amount, 40 < params.message.length ∧ call.message =
        encodeComposeMsg params.nonce params.srcEid amount (params.message.drop 40) := by
  obtain ⟨toAddress, amountSd, amountLd, arrived, hreads⟩ := lzReceiveRequest_reads h
  refine ⟨MsgCodec.length_of_amountSd hreads.amountSd_eq, fun call hcall => ?_⟩
  rw [hreads.compose_eq] at hcall
  obtain ⟨c, hc, rfl⟩ := Option.map_eq_some_iff.mp hcall
  unfold MsgCodec.composeMsg at hc
  split_ifs at hc with hlong
  cases hc
  exact ⟨arrived, hlong, rfl⟩

end Received

section Sample

/-! A Native store that is open to the peer of `plannedStore`, in a reachable state. -/

def openMint : Mint := { sampleMint with mintAuthority := some (pubkey 9) }

def openStore : StoreState :=
  { sampleStore with
    store := { sampleStore.store with oftType := .native, paused := false }
    peers := Function.update sampleStore.peers 1 (some plannedPeer)
    mint := openMint }

theorem reachable_openStore : Reachable planSpace openStore := by
  have hinit : Initial planSpace
      { sampleStore with store := { sampleStore.store with oftType := .native }, mint := openMint } :=
    ⟨sampleOapp, pubkey 2, pubkey 3, openMint,
      ⟨fun key => if key = pubkey 5 then 1000 else 0,
        fun key => if key = pubkey 5 then some (pubkey 6) else none⟩,
      ⟨0, 0⟩, ⟨.native, pubkey 4, 6, none⟩, rfl⟩
  have hpeer : Step planSpace
      { sampleStore with store := { sampleStore.store with oftType := .native }, mint := openMint }
      (.call (.setPeerConfig (pubkey 4) ⟨1, .peerAddress (pubkey 11)⟩) .done)
      { openStore with store := { openStore.store with paused := true } } := .call sampleOapp rfl
  have hopen : Step planSpace { openStore with store := { openStore.store with paused := true } }
      (.call (.setOftConfig (pubkey 4) (.paused false)) .done) openStore := .call sampleOapp rfl
  exact Reachable.tail ⟨_, hinit, _, .single hpeer⟩ hopen

def openAccounts (toAddress : Pubkey) : LzReceiveAccounts :=
  ⟨toAddress, pubkey 21, some (pubkey 9), List.replicate 8 (pubkey 24)⟩

def openParams (message : Bytes) : LzReceiveParams := ⟨1, pubkey 11, 1, pubkey 7, message⟩

def creditedStore (dest : Pubkey) (amount : Nat) : StoreState :=
  { openStore with
    peers := Function.update openStore.peers 1 (some plannedPeer)
    tokens := {
      amount := Function.update openStore.tokens.amount (pubkey 8) amount
      owner := Function.update openStore.tokens.owner (pubkey 8) (some dest) } }

/-- The peer may send any message that is long enough for an amount. -/
theorem request_openStore {message : Bytes} (h : 40 ≤ message.length) : ∃ dest amount,
    lzReceiveRequest planSpace sampleOapp (openAccounts dest) (openParams message) openStore =
      .ok (creditedStore dest amount, ⟨pubkey 7, 1, dest, amount⟩, (MsgCodec.composeMsg message).map fun c =>
        ⟨dest, pubkey 7, 0, encodeComposeMsg 1 1 amount c⟩) := by
  obtain ⟨dest, hdest⟩ : ∃ dest, MsgCodec.sendTo message = some dest := ⟨_, dif_pos (by omega)⟩
  obtain ⟨n, hn⟩ : ∃ n, MsgCodec.amountSd message = some n := ⟨_, if_pos h⟩
  have hlt := MsgCodec.amountSd_lt hn
  have hld : openStore.store.sd2ld n = .ok n := mul_eq_ok.mpr ⟨by change n * 1 < 2 ^ 64; omega, (Nat.mul_one n).symm⟩
  have hheld : add (2 ^ 64) ProgramError.token 0 n = .ok n := add_eq_ok.mpr ⟨by omega, (Nat.zero_add n).symm⟩
  have hcredit : creditDest sampleOapp (some (pubkey 9)) (pubkey 8) n
      { openStore with tokens := { openStore.tokens with owner := (creditedStore dest n).tokens.owner } } =
      .ok ({ openStore with tokens := (creditedStore dest n).tokens }, n) := by
    change ((add (2 ^ 64) ProgramError.token 0 n >>= _) >>= _) = _
    rw [hheld]
    rfl
  refine ⟨dest, n, ?_⟩
  rw [lzReceiveRequest]
  simp only [bind_eq_ok]
  exact ⟨plannedPeer, rfl, (), rfl, (), rfl, dest, ofOption_eq_ok.mpr hdest, (),
    require_eq_ok.mpr (beq_self_eq_true dest), { openStore.tokens with owner := (creditedStore dest n).tokens.owner },
    rfl, (), rfl, (), rfl, (), rfl, (), rfl, n, ofOption_eq_ok.mpr hn, n, hld, none, rfl, none, rfl, _, hcredit, rfl⟩

theorem received_openStore {message : Bytes} (h : 40 ≤ message.length) : ∃ dest s' r,
    lzReceive planSpace sampleOapp (openAccounts dest) (openParams message) openStore = .ok (s', r) := by
  obtain ⟨dest, amount, hrequest⟩ := request_openStore h
  refine ⟨dest, creditedStore dest amount, ⟨pubkey 7, 1, dest, amount⟩, ?_⟩
  rw [lzReceive_eq, hrequest, ok_bind]
  cases MsgCodec.composeMsg message with
  | none => rfl
  | some c => rfl

/-- A byte longer than a transfer without a compose message. -/
def oddMessage : Bytes := MsgCodec.encode (pubkey 12) 5 (pubkey 6) none ++ [0]

theorem length_oddMessage : oddMessage.length = 41 := by
  rw [oddMessage, List.length_append, MsgCodec.length_encode_eq]
  rfl

theorem oddMessage_not_encoded : ¬ Encoded oddMessage := by
  rw [encoded_iff, length_oddMessage]
  decide

/-- The odd message is received, and its payload has no sender. -/
theorem oddMessage_received :
    (¬ ∀ (space : AddressSpace) (oapp : Oapp) (accounts : LzReceiveAccounts) (params : LzReceiveParams)
      (s s' : StoreState) (r : OFTReceived), Reachable space s →
        lzReceive space oapp accounts params s = .ok (s', r) → Encoded params.message) ∧
    ¬ ∀ (space : AddressSpace) (oapp : Oapp) (accounts : LzReceiveAccounts) (params : LzReceiveParams)
      (s s' : StoreState) (r : OFTReceived) (call : SendComposeParams), Reachable space s →
        lzReceiveRequest space oapp accounts params s = .ok (s', r, some call) →
          Defined call.message := by
  have hlong : 40 ≤ oddMessage.length := by
    rw [length_oddMessage]
    decide
  constructor
  · intro h
    obtain ⟨dest, s', r, hreceived⟩ := received_openStore hlong
    exact oddMessage_not_encoded (h _ _ _ (openParams oddMessage) _ _ _ reachable_openStore hreceived)
  · intro h
    obtain ⟨dest, amount, hrequest⟩ := request_openStore hlong
    have hsender := (h _ _ _ _ _ _ _ _ reachable_openStore hrequest).composeFrom_isSome
    cases hsender

end Sample

/-- A message is received in its encoded form only, and every accessor reads the payload
handed on for it, unless it ends somewhere between the amount and the end of the sender. -/
theorem received_encoded_iff (message : Bytes) :
    ((∀ (space : AddressSpace) (oapp : Oapp) (accounts : LzReceiveAccounts) (params : LzReceiveParams)
      (s s' : StoreState) (r : OFTReceived), params.message = message → Reachable space s →
        lzReceive space oapp accounts params s = .ok (s', r) → Encoded message) ↔
      ¬ (40 < message.length ∧ message.length < 72)) ∧
    ((∀ (space : AddressSpace) (oapp : Oapp) (accounts : LzReceiveAccounts) (params : LzReceiveParams)
      (s s' : StoreState) (r : OFTReceived) (call : SendComposeParams), params.message = message →
        Reachable space s → lzReceiveRequest space oapp accounts params s = .ok (s', r, some call) →
          Defined call.message) ↔
      ¬ (40 < message.length ∧ message.length < 72)) := by
  constructor
  · constructor
    · rintro h ⟨hlong, hshort⟩
      obtain ⟨dest, s', r, hreceived⟩ := received_openStore hlong.le
      have hencoded := h _ _ _ (openParams message) _ _ _ rfl reachable_openStore hreceived
      rw [encoded_iff] at hencoded
      omega
    · rintro h space oapp accounts params s s' r rfl _ hreceived
      obtain ⟨compose, hrequest⟩ := lzReceive_request hreceived
      have hlength := (request_eq_ok hrequest).1
      rw [encoded_iff]
      omega
  · constructor
    · rintro h ⟨hlong, hshort⟩
      obtain ⟨dest, amount, hrequest⟩ := request_openStore hlong.le
      rw [MsgCodec.composeMsg, if_pos hlong, Option.map_some] at hrequest
      have hdefined := h _ _ _ (openParams message) _ _ _ _ rfl reachable_openStore hrequest
      have hsender := isSome_composeFrom.mp hdefined.composeFrom_isSome
      rw [length_encode, List.length_drop] at hsender
      omega
    · rintro h space oapp accounts params s s' r call rfl _ hrequest
      obtain ⟨amount, hlong, hcall⟩ := (request_eq_ok hrequest).2 call rfl
      rw [hcall]
      apply defined_encode
      rw [List.length_drop]
      omega

end SanBridge.Solana.ComposeMsgCodec
