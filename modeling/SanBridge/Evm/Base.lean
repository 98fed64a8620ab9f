import SanBridge.Evm.Runtime
import SanBridge.Solana.MsgCodec

namespace SanBridge.Evm.Base

open Library.BigEndian Library.Checked Evm.Runtime

structure SendParam where
  dstEid : U32
  dest : Bytes32
  amountLD : U256
  minAmountLD : U256
  extraOptions : Bytes
  composeMsg : Bytes
  oftCmd : Bytes

structure Receipt where
  guid : Bytes32
  nonce : U64

/-- The inherited OFT at a conversion rate of one. It takes no fee, it writes the
amount it debits into the message, truncated to the 64 bits of the shared
format, and it credits the amount it reads from a message. Everything else is open. -/
structure OFT where
  debitView : (amountLD minAmountLD : Nat) → (dstEid : U32) → Result (Nat × Nat)
  buildMsg : Address → SendParam → (amountLD : Nat) → Result Bytes
  lzSend : U32 → Bytes32 → Bytes → Result Receipt
  quote : U32 → Bytes32 → Bytes → Result Nat
  readMsg : Bytes → Result (Address × Nat)
  creditTo : Address → Address
  debitView_same : ∀ amountLD minAmountLD dstEid sent received,
    debitView amountLD minAmountLD dstEid = .ok (sent, received) → sent = received
  buildMsg_amount : ∀ sender params amountLD message, buildMsg sender params amountLD = .ok message →
    Solana.MsgCodec.amountSd message = some (amountLD % 2 ^ 64)
  readMsg_amount : ∀ message dest amountLD, readMsg message = .ok (dest, amountLD) →
    Solana.MsgCodec.amountSd message = some amountLD

/-- The last twenty bytes of the first word. -/
def bytes32ToAddress (b : Bytes32) : Address :=
  Fin.ofNat (2 ^ 160) (readBe b.toList)

def addressToBytes32 (a : Address) : Bytes32 := ⟨(beBytes 32 a).toArray, by simp⟩

/-- The OFT as published, with an endpoint that accepts everything. -/
def standard : OFT where
  debitView amountLD minAmountLD _ := do
    require .oft (minAmountLD ≤ amountLD)
    .ok (amountLD, amountLD)
  buildMsg sender params amountLD := .ok <|
    Solana.MsgCodec.encode params.dest (amountLD % 2 ^ 64) (addressToBytes32 sender)
      (if params.composeMsg = [] then none else some params.composeMsg)
  lzSend _ _ _ := .ok ⟨zeroBytes32, 1⟩
  quote _ _ _ := .ok 0
  readMsg message :=
    match Solana.MsgCodec.sendTo message, Solana.MsgCodec.amountSd message with
    | some dest, some amountSd => .ok (bytes32ToAddress dest, amountSd)
    | _, _ => .error .oft
  creditTo dest := if dest = 0 then 0xdead else dest
  debitView_same := by
    intro amountLD minAmountLD dstEid sent received h
    obtain ⟨_, _, h⟩ := bind_eq_ok.mp h
    cases h
    rfl
  buildMsg_amount := by
    intro sender params amountLD message h
    cases h
    exact Solana.MsgCodec.amountSd_encode (Nat.mod_lt _ (by decide))
  readMsg_amount := by
    intro message dest amountLD h
    split at h
    · rename_i hs
      cases h
      exact hs
    · cases h

end SanBridge.Evm.Base
