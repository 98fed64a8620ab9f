import SanBridge.Solana.Runtime

namespace SanBridge.Solana.State

open Library.BigEndian Library.Checked Solana.Runtime

inductive OFTType
  | native | adapter
  deriving DecidableEq, Repr

/-- The store account. Its conversion rate is a power of ten by construction. -/
structure OFTStore where
  oftType : OFTType
  ld2sdRate : Nat
  rate_eq : ∃ k, ld2sdRate = 10 ^ k
  tokenMint : Pubkey
  tokenEscrow : Pubkey
  endpointProgram : Pubkey
  bump : UInt8
  tvlLd : Nat
  admin : Pubkey
  defaultFeeBps : Nat
  paused : Bool
  pauser : Option Pubkey
  unpauser : Option Pubkey

namespace OFTStore

theorem rate_pos (s : OFTStore) : 0 < s.ld2sdRate := by
  obtain ⟨k, hk⟩ := s.rate_eq
  rw [hk]
  exact Nat.pow_pos (by decide)

def ld2sd (s : OFTStore) (amountLd : Nat) : Nat := amountLd / s.ld2sdRate

/-- Local and shared units agree on an amount only at rate one, or on nothing. -/
theorem eq_ld2sd_iff (s : OFTStore) {amountLd : Nat} :
    amountLd = s.ld2sd amountLd ↔ s.ld2sdRate = 1 ∨ amountLd = 0 := by
  have hrate := s.rate_pos
  constructor
  · intro h
    by_contra hne
    have hsmaller : s.ld2sd amountLd < amountLd := Nat.div_lt_self (by omega) (by omega)
    omega
  · intro h
    cases h with
    | inl hone => rw [ld2sd, hone, Nat.div_one]
    | inr hzero => rw [ld2sd, hzero, Nat.zero_div]

def sd2ld (s : OFTStore) (amountSd : Nat) : Result Nat := mul (2 ^ 64) .overflow amountSd s.ld2sdRate

def removeDust (s : OFTStore) (amountLd : Nat) : Nat := amountLd - amountLd % s.ld2sdRate

theorem removeDust_le (s : OFTStore) (amountLd : Nat) : s.removeDust amountLd ≤ amountLd :=
  Nat.sub_le _ _

theorem dvd_removeDust (s : OFTStore) (amountLd : Nat) : s.ld2sdRate ∣ s.removeDust amountLd :=
  Nat.dvd_sub_mod amountLd

theorem removeDust_eq_zero_iff (s : OFTStore) {amountLd : Nat} :
    s.removeDust amountLd = 0 ↔ amountLd < s.ld2sdRate := by
  rw [removeDust]
  constructor
  · intro h
    have hmod := Nat.mod_lt amountLd s.rate_pos
    omega
  · intro h
    rw [Nat.mod_eq_of_lt h, Nat.sub_self]

end OFTStore

structure RateLimiter where
  capacity : Nat
  tokens : Nat
  refillPerSecond : Nat
  lastRefillTime : Nat
  deriving DecidableEq, Repr

namespace RateLimiter

def default : RateLimiter := ⟨0, 0, 0, 0⟩

def refill (clock : Clock) (extraTokens : Nat) (r : RateLimiter) : Result RateLimiter := do
  let currentTime ← clock.currentTime
  let newTokens :=
    if r.lastRefillTime < currentTime then
      saturatingAdd u64Max extraTokens
        (saturatingMul u64Max (currentTime - r.lastRefillTime) r.refillPerSecond)
    else extraTokens
  .ok { r with tokens := min r.capacity (saturatingAdd u64Max r.tokens newTokens),
               lastRefillTime := currentTime }

def setRate (clock : Clock) (refillPerSecond : Nat) (r : RateLimiter) : Result RateLimiter := do
  let r ← r.refill clock 0
  .ok { r with refillPerSecond := refillPerSecond }

def setCapacity (clock : Clock) (capacity : Nat) (r : RateLimiter) : Result RateLimiter := do
  let currentTime ← clock.currentTime
  .ok { r with capacity := capacity, tokens := capacity, lastRefillTime := currentTime }

def tryConsume (clock : Clock) (amount : Nat) (r : RateLimiter) : Result RateLimiter := do
  let r ← r.refill clock 0
  if amount ≤ r.tokens then .ok { r with tokens := r.tokens - amount }
  else .error (.oft .rateLimitExceeded)

end RateLimiter

structure EnforcedOptions where
  send : Bytes
  sendAndCall : Bytes

def EnforcedOptions.getEnforcedOptions (o : EnforcedOptions) (composedMsg : Option Bytes) : Bytes :=
  if composedMsg.isNone then o.send else o.sendAndCall

structure PeerConfig where
  peerAddress : Pubkey
  enforcedOptions : EnforcedOptions
  outboundRateLimiter : Option RateLimiter
  inboundRateLimiter : Option RateLimiter
  feeBps : Option Nat
  bump : UInt8

/-- The zeroed account that `init_if_needed` creates. -/
def PeerConfig.zeroed : PeerConfig :=
  ⟨Vector.replicate 32 0, ⟨[], []⟩, none, none, none, 0⟩

end SanBridge.Solana.State
