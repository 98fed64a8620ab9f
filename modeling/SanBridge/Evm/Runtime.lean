import SanBridge.Library.Accounts
import SanBridge.Library.BigEndian
import SanBridge.Library.Checked

namespace SanBridge.Evm.Runtime

open Library.Accounts Library.BigEndian Library.Checked

abbrev Address := Fin (2 ^ 160)
abbrev Bytes32 := Vector UInt8 32
abbrev U32 := Fin (2 ^ 32)
abbrev U64 := Fin (2 ^ 64)
abbrev U256 := Fin (2 ^ 256)

def zeroBytes32 : Bytes32 := Vector.replicate 32 0

/-- The reverts of the contract and of the libraries it is built on; `panic` is a
failed arithmetic check of the compiler or of `Math`, `oft` a revert of the base contract. -/
inductive EvmError
  | invalidRateLimitConfiguration
  | bridgeRateLimitExceeded (inbound : Bool) (requested available : Nat)
  | ownershipRenunciationDisabled
  | enforcedPause | expectedPause
  | ownableUnauthorizedAccount (account : Address)
  | ownableInvalidOwner (owner : Address)
  | erc20 | onlyEndpoint | noPeer | onlyPeer | panic | oft
  deriving DecidableEq, Repr

abbrev Result := Except EvmError

def word : Nat := 2 ^ 256

/-- `Math.mulDiv`: the product is exact, the quotient has to fit. -/
def mulDiv (x y denominator : Nat) : Result Nat :=
  if denominator = 0 then .error .panic
  else if x * y / denominator < word then .ok (x * y / denominator)
  else .error .panic

def mulmod (x y modulus : Nat) : Result Nat :=
  if modulus = 0 then .error .panic else .ok (x * y % modulus)

theorem mulDiv_eq_ok {x y d q : Nat} :
    mulDiv x y d = .ok q ↔ 0 < d ∧ x * y / d < word ∧ q = x * y / d := by
  by_cases hd : d = 0
  · simp [mulDiv, hd]
  · by_cases hq : x * y / d < word
    · simp [mulDiv, hd, hq, eq_comm, Nat.pos_of_ne_zero hd]
    · simp [mulDiv, hd, hq]

theorem mulmod_eq_ok {x y d q : Nat} : mulmod x y d = .ok q ↔ 0 < d ∧ q = x * y % d := by
  by_cases hd : d = 0
  · simp [mulmod, hd]
  · simp [mulmod, hd, eq_comm, Nat.pos_of_ne_zero hd]

abbrev Balances := Ledger Address

def erc20Mint (l : Balances) (to_ : Address) (amount : Nat) : Result Balances := do
  require .erc20 (to_ != 0)
  require .panic (l.supply + amount < word)
  .ok (mint l to_ amount)

def erc20Burn (l : Balances) (from_ : Address) (amount : Nat) : Result Balances := do
  require .erc20 (from_ != 0)
  if h : amount ≤ l.balances from_ then .ok (burn l from_ amount h) else .error .erc20

def erc20Transfer (l : Balances) (from_ to_ : Address) (amount : Nat) : Result Balances := do
  require .erc20 (from_ != 0)
  require .erc20 (to_ != 0)
  if h : amount ≤ l.balances from_ then .ok (transfer l from_ to_ amount h) else .error .erc20

theorem supply_erc20Mint {l l' : Balances} {to_ : Address} {amount : Nat}
    (h : erc20Mint l to_ amount = .ok l') : l'.supply = l.supply + amount := by
  obtain ⟨_, _, h⟩ := bind_eq_ok.mp h
  obtain ⟨_, _, h⟩ := bind_eq_ok.mp h
  cases h
  rfl

theorem supply_erc20Burn {l l' : Balances} {from_ : Address} {amount : Nat}
    (h : erc20Burn l from_ amount = .ok l') : l'.supply + amount = l.supply := by
  obtain ⟨_, _, h⟩ := bind_eq_ok.mp h
  split at h
  · cases h
    exact supply_burn l from_ amount _
  · cases h

theorem supply_erc20Transfer {l l' : Balances} {from_ to_ : Address} {amount : Nat}
    (h : erc20Transfer l from_ to_ amount = .ok l') : l'.supply = l.supply := by
  obtain ⟨_, _, h⟩ := bind_eq_ok.mp h
  obtain ⟨_, _, h⟩ := bind_eq_ok.mp h
  split at h
  · cases h
    exact supply_transfer l from_ to_ amount _
  · cases h

end SanBridge.Evm.Runtime
