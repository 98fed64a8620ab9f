import SanBridge.Solana.Runtime

namespace SanBridge.Solana.MsgCodec

open Library.BigEndian Solana.Runtime

/-- `send_to ++ amount_sd` and, for a composed transfer, `sender ++ compose_msg`. -/
def encode (sendTo : Pubkey) (amountSd : Nat) (sender : Pubkey) : Option Bytes → Bytes
  | some msg => sendTo.toList ++ beBytes 8 amountSd ++ sender.toList ++ msg
  | none => sendTo.toList ++ beBytes 8 amountSd

/-- The first 32 bytes; slicing a shorter message panics. -/
def sendTo (message : Bytes) : Option Pubkey :=
  if h : 32 ≤ message.length then some ⟨(message.take 32).toArray, by simp [h]⟩ else none

def amountSd (message : Bytes) : Option Nat :=
  if 40 ≤ message.length then some (readBe ((message.drop 32).take 8)) else none

def composeMsg (message : Bytes) : Option Bytes :=
  if 40 < message.length then some (message.drop 40) else none

variable {sender dest : Pubkey} {n : Nat} {compose : Option Bytes}

theorem length_encode : 40 ≤ (encode dest n sender compose).length := by
  cases compose with
  | none => simp [encode]
  | some msg =>
    simp only [encode, List.length_append, Vector.length_toList, length_beBytes]
    omega

theorem take_encode : (encode dest n sender compose).take 32 = dest.toList := by
  cases compose <;> simp [encode]

theorem slice_encode : ((encode dest n sender compose).drop 32).take 8 = beBytes 8 n := by
  cases compose <;> simp [encode, List.take_of_length_le]

theorem head_encode : (encode dest n sender compose).take 40 = dest.toList ++ beBytes 8 n := by
  cases compose <;> simp [encode, List.take_append, List.take_of_length_le]

theorem tail_encode : (encode dest n sender compose).drop 72 = compose.getD [] := by
  cases compose <;> simp [encode, List.drop_append, List.drop_of_length_le]

theorem length_encode_eq :
    (encode dest n sender compose).length = compose.elim 40 fun msg => 72 + msg.length := by
  cases compose with
  | none => simp [encode]
  | some msg =>
    simp only [encode, List.length_append, Vector.length_toList, length_beBytes, Option.elim_some]

theorem sendTo_encode : sendTo (encode dest n sender compose) = some dest := by
  have hl : 32 ≤ (encode dest n sender compose).length := (by decide : 32 ≤ 40).trans length_encode
  rw [sendTo, dif_pos hl, Option.some.injEq]
  apply Vector.toArray_inj.mp
  change ((encode dest n sender compose).take 32).toArray = dest.toArray
  rw [take_encode]
  rfl

theorem composeMsg_encode : composeMsg (encode dest n sender compose) = compose.map (sender.toList ++ ·) := by
  cases compose with
  | none => simp [composeMsg, encode]
  | some msg =>
    have hlong : 40 < (encode dest n sender (some msg)).length := by
      rw [length_encode_eq, Option.elim_some]
      omega
    rw [composeMsg, if_pos hlong, Option.map_some, encode, List.append_assoc]
    apply congrArg some
    apply List.drop_left'
    rw [List.length_append, Vector.length_toList, length_beBytes]

theorem take_of_sendTo {message : Bytes} (h : sendTo message = some dest) : message.take 32 = dest.toList := by
  unfold sendTo at h
  split at h
  · rw [← Option.some.inj h]
    rfl
  · cases h

theorem length_of_amountSd {message : Bytes} (h : amountSd message = some n) : 40 ≤ message.length := by
  by_contra hshort
  rw [amountSd, if_neg hshort] at h
  cases h

theorem amountSd_encode_mod : amountSd (encode dest n sender compose) = some (n % 256 ^ 8) := by
  rw [amountSd, if_pos length_encode, slice_encode, readBe_beBytes]

theorem amountSd_encode (h : n < 2 ^ 64) : amountSd (encode dest n sender compose) = some n := by
  have hfit : n < 256 ^ 8 := h
  rw [amountSd_encode_mod, Nat.mod_eq_of_lt hfit]

/-- The sender is written for a composed transfer only. -/
theorem encode_injective {dest' sender' : Pubkey} {n n' : U64} {compose' : Option Bytes}
    (h : encode dest n sender compose = encode dest' n' sender' compose') :
    dest = dest' ∧ n = n' ∧ compose = compose' ∧ (compose ≠ none → sender = sender') := by
  have hdest := congrArg sendTo h
  have hn := congrArg amountSd h
  have hcompose := congrArg composeMsg h
  rw [sendTo_encode, sendTo_encode, Option.some.injEq] at hdest
  rw [amountSd_encode n.isLt, amountSd_encode n'.isLt, Option.some.injEq] at hn
  rw [composeMsg_encode, composeMsg_encode] at hcompose
  cases compose with
  | none =>
    have hnone : compose' = none := Option.map_eq_none_iff.mp hcompose.symm
    exact ⟨hdest, Fin.ext hn, hnone.symm, fun hne => absurd rfl hne⟩
  | some msg =>
    obtain ⟨msg', rfl, hmsg⟩ := Option.map_eq_some_iff.mp hcompose.symm
    obtain ⟨hsender, htail⟩ := List.append_inj hmsg (by rw [Vector.length_toList, Vector.length_toList])
    exact ⟨hdest, Fin.ext hn, congrArg some htail.symm, fun _ => Vector.toList_inj.mp hsender.symm⟩

theorem amountSd_lt {message : Bytes} {m : Nat} (h : amountSd message = some m) : m < 2 ^ 64 := by
  unfold amountSd at h
  split at h
  · rename_i hl
    have hlen : ((message.drop 32).take 8).length = 8 := by
      simp only [List.length_take, List.length_drop]
      omega
    have hlt := readBe_lt ((message.drop 32).take 8)
    rw [hlen] at hlt
    simp only [Option.some.injEq] at h
    subst h
    exact hlt
  · cases h

end SanBridge.Solana.MsgCodec
