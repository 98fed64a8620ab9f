import Mathlib.Logic.Function.Basic
import SanBridge.Library.BigEndian
import SanBridge.Library.CeilFee
import SanBridge.Library.Checked

namespace SanBridge.Solana.Runtime

open Library.BigEndian Library.Checked

abbrev U16 := Fin (2 ^ 16)
abbrev U32 := Fin (2 ^ 32)
abbrev U64 := Fin (2 ^ 64)
abbrev Pubkey := Vector UInt8 32

def u64Max : Nat := 2 ^ 64 - 1

inductive OFTError
  | unauthorized | invalidSender | invalidDecimals | slippageExceeded | invalidTokenDest
  | rateLimitExceeded | invalidFee | invalidMintAuthority | paused
  deriving DecidableEq, Repr

/-- Why an instruction aborts. `overflow` is a failed overflow check, `panicked`
a slice out of range or a failed conversion, `constraint` a violated account
constraint; `token` and `endpoint` are refusals of the invoked programs. -/
inductive ProgramError
  | oft (e : OFTError)
  | overflow | panicked | constraint | invalidArgument | token | endpoint
  deriving DecidableEq, Repr

abbrev Result := Except ProgramError

def requireOft (e : OFTError) (c : Bool) : Result Unit := require (.oft e) c

/-- Address derivations of the runtime. An associated token address belongs to
the associated token program, so it can never sign for its own creation. -/
structure AddressSpace where
  findProgramAddress : List Bytes → Pubkey × UInt8
  associatedTokenAddress : Pubkey → Pubkey → Pubkey → Pubkey
  signs : Pubkey → Bool
  ata_not_signs : ∀ wallet mint program, signs (associatedTokenAddress wallet mint program) = false

theorem ne_ata_of_signs {space : AddressSpace} {key : Pubkey} (h : space.signs key = true)
    (wallet mint program : Pubkey) : key ≠ space.associatedTokenAddress wallet mint program := by
  intro he
  rw [he, space.ata_not_signs] at h
  cases h

structure Clock where
  unixTimestamp : Int
  epoch : Nat

/-- `Clock::get()?.unix_timestamp.try_into().unwrap()` -/
def Clock.currentTime (c : Clock) : Result Nat :=
  if 0 ≤ c.unixTimestamp then .ok c.unixTimestamp.toNat else .error .panicked

theorem Clock.currentTime_eq_ok {c : Clock} {t : Nat} :
    c.currentTime = .ok t ↔ 0 ≤ c.unixTimestamp ∧ t = c.unixTimestamp.toNat := by
  by_cases h : 0 ≤ c.unixTimestamp
  · simp [currentTime, h, eq_comm]
  · simp [currentTime, h]

def maxFeeBasisPoints : Nat := 10000

/-- One transfer fee of a Token-2022 mint; the token program rejects more than 100%. -/
structure TransferFee where
  maximumFee : U64
  transferFeeBasisPoints : Nat
  bps_le : transferFeeBasisPoints ≤ maxFeeBasisPoints

structure TransferFeeConfig where
  olderTransferFee : TransferFee
  newerTransferFee : TransferFee
  newerEpoch : Nat

def TransferFeeConfig.getEpochFee (cfg : TransferFeeConfig) (epoch : Nat) : TransferFee :=
  if cfg.newerEpoch ≤ epoch then cfg.newerTransferFee else cfg.olderTransferFee

/-- What the token program withholds from a transfer of the amount. -/
def TransferFee.calculateFee (fee : TransferFee) (amount : Nat) : Nat :=
  if fee.transferFeeBasisPoints = 0 ∨ amount = 0 then 0
  else Library.CeilFee.fee maxFeeBasisPoints fee.transferFeeBasisPoints fee.maximumFee amount

theorem TransferFee.calculateFee_le (fee : TransferFee) (amount : Nat) :
    fee.calculateFee amount ≤ amount := by
  rw [calculateFee]
  split
  · exact Nat.zero_le _
  · exact Library.CeilFee.fee_le_amount (by decide) fee.bps_le amount

def TransferFee.calculatePostFeeAmount (fee : TransferFee) (amount : Nat) : Option Nat :=
  if fee.calculateFee amount ≤ amount then some (amount - fee.calculateFee amount) else none

theorem TransferFee.calculatePostFeeAmount_eq (fee : TransferFee) (amount : Nat) :
    fee.calculatePostFeeAmount amount = some (amount - fee.calculateFee amount) := by
  simp [calculatePostFeeAmount, fee.calculateFee_le amount]

structure Mint where
  decimals : UInt8
  mintAuthority : Option Pubkey
  transferFeeConfig : Option TransferFeeConfig

def Mint.epochFee (m : Mint) (epoch amount : Nat) : Nat :=
  match m.transferFeeConfig with
  | some cfg => (cfg.getEpochFee epoch).calculateFee amount
  | none => 0

theorem Mint.epochFee_le (m : Mint) (epoch amount : Nat) : m.epochFee epoch amount ≤ amount := by
  rw [epochFee]
  split
  · exact TransferFee.calculateFee_le _ _
  · exact Nat.zero_le _

/-- The token accounts of one mint: the balance of every address, and the token
authority of those addresses where an account exists. -/
structure TokenAccounts where
  amount : Pubkey → Nat
  owner : Pubkey → Option Pubkey

/-- `transfer_checked`: the fee of the current epoch is withheld from what the
destination receives. A transfer from an account to itself moves nothing. -/
def transferChecked (m : Mint) (epoch : Nat) (t : TokenAccounts) (src dst : Pubkey) (amount : Nat) :
    Result TokenAccounts :=
  if t.amount src < amount then .error .token
  else if src = dst then .ok t
  else do
    let received ← add (2 ^ 64) .token (t.amount dst) (amount - m.epochFee epoch amount)
    let debited := Function.update t.amount src (t.amount src - amount)
    .ok { t with amount := Function.update debited dst received }

def burn (t : TokenAccounts) (src : Pubkey) (amount : Nat) : Result TokenAccounts := do
  let left ← sub .token (t.amount src) amount
  .ok { t with amount := Function.update t.amount src left }

def mintTo (t : TokenAccounts) (dst : Pubkey) (amount : Nat) : Result TokenAccounts := do
  let held ← add (2 ^ 64) .token (t.amount dst) amount
  .ok { t with amount := Function.update t.amount dst held }

section Transfers

variable {m : Mint} {epoch amount : Nat} {t t' : TokenAccounts} {src dst key : Pubkey}

theorem owner_transferChecked (h : transferChecked m epoch t src dst amount = .ok t') :
    t'.owner = t.owner := by
  unfold transferChecked at h
  split at h
  · cases h
  · split at h
    · cases h; rfl
    · obtain ⟨received, _, he⟩ := bind_eq_ok.mp h
      cases he
      rfl

theorem transferChecked_self (h : transferChecked m epoch t src src amount = .ok t') : t' = t := by
  unfold transferChecked at h
  split at h
  · cases h
  · simpa [eq_comm] using h

theorem transferChecked_amount (hne : src ≠ dst)
    (h : transferChecked m epoch t src dst amount = .ok t') :
    amount ≤ t.amount src ∧ t'.amount src = t.amount src - amount ∧
      t'.amount dst = t.amount dst + (amount - m.epochFee epoch amount) ∧
      ∀ key, key ≠ src → key ≠ dst → t'.amount key = t.amount key := by
  unfold transferChecked at h
  split at h
  · cases h
  · obtain ⟨received, hr, he⟩ := bind_eq_ok.mp h
    cases he
    refine ⟨by omega, ?_, ?_, fun key hs hd => ?_⟩
    · simp [Function.update_of_ne hne]
    · simpa using (add_eq_ok.mp hr).2
    · simp [Function.update_of_ne hd, Function.update_of_ne hs]

theorem transferChecked_ok_iff : (∃ t', transferChecked m epoch t src dst amount = .ok t') ↔
    amount ≤ t.amount src ∧ (dst ≠ src → t.amount dst + (amount - m.epochFee epoch amount) < 2 ^ 64) := by
  unfold transferChecked
  by_cases hlt : t.amount src < amount
  · simp [hlt]
  · rw [if_neg hlt]
    by_cases hd : src = dst
    · simp [hd, not_lt.mp (hd ▸ hlt)]
    · rw [if_neg hd]
      simp only [bind_eq_ok, add_eq_ok, Except.ok.injEq]
      constructor
      · rintro ⟨_, _, ⟨hroom, _⟩, _⟩
        exact ⟨not_lt.mp hlt, fun _ => hroom⟩
      · rintro ⟨_, hroom⟩
        exact ⟨_, _, ⟨hroom (Ne.symm hd), rfl⟩, rfl⟩

theorem burn_amount (h : burn t src amount = .ok t') :
    t'.owner = t.owner ∧ ∀ key, key ≠ src → t'.amount key = t.amount key := by
  obtain ⟨left, _, he⟩ := bind_eq_ok.mp h
  cases he
  exact ⟨rfl, fun key hk => Function.update_of_ne hk _ _⟩

theorem mintTo_amount (h : mintTo t dst amount = .ok t') :
    t'.owner = t.owner ∧ ∀ key, key ≠ dst → t'.amount key = t.amount key := by
  obtain ⟨held, _, he⟩ := bind_eq_ok.mp h
  cases he
  exact ⟨rfl, fun key hk => Function.update_of_ne hk _ _⟩

end Transfers

end SanBridge.Solana.Runtime
