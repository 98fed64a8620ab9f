import SanBridge.Evm.Base

namespace SanBridge.Evm.Contract

open Library.Accounts Library.BigEndian Library.Checked Evm.Runtime Evm.Base

def canaryCapacity : Nat := 500000 * 10 ^ 6
def canaryRefillAmount : Nat := 500000 * 10 ^ 6
def canaryRefillDuration : Nat := 24 * 60 * 60

structure TokenBucket where
  capacity : Nat
  available : Nat
  refillAmount : Nat
  refillDuration : Nat
  lastUpdated : Nat
  remainder : Nat
  deriving DecidableEq, Repr

/-- Carry a full duration in the remainder over to the added units. -/
def carryOver (duration added combinedRemainder : Nat) : Result (Nat × Nat) :=
  if duration ≤ combinedRemainder then do
    let added ← add word .panic added 1
    let combinedRemainder ← sub .panic combinedRemainder duration
    .ok (added, combinedRemainder)
  else .ok (added, combinedRemainder)

section Buckets

variable (now : Nat)

def initializeBucket : TokenBucket :=
  ⟨canaryCapacity, canaryCapacity, canaryRefillAmount, canaryRefillDuration, now, 0⟩

/-- The available amount at the given time and the fraction carried on, in
units of one refill duration. -/
def preview (b : TokenBucket) : Result (Nat × Nat) :=
  if now ≤ b.lastUpdated ∨ b.available = b.capacity then .ok (b.available, b.remainder)
  else do
    let elapsed ← sub .panic now b.lastUpdated
    let added ← mulDiv elapsed b.refillAmount b.refillDuration
    let fractional ← mulmod elapsed b.refillAmount b.refillDuration
    let combinedRemainder ← add word .panic fractional b.remainder
    let (added, combinedRemainder) ← carryOver b.refillDuration added combinedRemainder
    let room ← sub .panic b.capacity b.available
    if room ≤ added then .ok (b.capacity, 0)
    else do
      let available ← add word .panic b.available added
      .ok (available, combinedRemainder)

def refill (b : TokenBucket) : Result TokenBucket := do
  let (available, remainder) ← preview now b
  .ok { b with available := available, remainder := remainder, lastUpdated := now }

def consume (inbound : Bool) (amount : Nat) (b : TokenBucket) : Result TokenBucket := do
  let b ← refill now b
  require (.bridgeRateLimitExceeded inbound amount b.available) (amount ≤ b.available)
  .ok { b with available := b.available - amount }

/-- The time passed so far is settled at the old parameters; availability above
the new capacity and the carried fraction are dropped. -/
def configureBucket (capacity refillAmount : U256) (refillDuration : U64) (b : TokenBucket) :
    Result TokenBucket := do
  require .invalidRateLimitConfiguration (capacity.val ≠ 0 ∧ capacity.val ≤ 2 ^ 64 - 1 ∧
    refillAmount.val ≠ 0 ∧ refillAmount ≤ capacity ∧ refillDuration.val ≠ 0)
  let b ← refill now b
  .ok {
    capacity := capacity
    available := min b.available capacity
    refillAmount := refillAmount
    refillDuration := refillDuration
    lastUpdated := now
    remainder := 0 }

structure BucketView where
  capacity : Nat
  available : Nat
  refillAmount : Nat
  refillDuration : Nat

def bucketView (b : TokenBucket) : Result BucketView := do
  let (available, _) ← preview now b
  .ok ⟨b.capacity, available, b.refillAmount, b.refillDuration⟩

end Buckets

/-- The contract with the state it inherits. A peer of zero is no peer. -/
structure SanOFT where
  endpoint : Address
  owner : Address
  paused : Bool
  peers : U32 → Bytes32
  outboundBucket : TokenBucket
  inboundBucket : TokenBucket
  ledger : Balances

def SanOFT.totalSupply (s : SanOFT) : Nat := s.ledger.supply

/-- The constructor hands the contract to its delegate and leaves it paused. -/
def construct (now : Nat) (endpoint delegate : Address) : Result SanOFT := do
  require (.ownableInvalidOwner delegate) (delegate != 0)
  .ok {
    endpoint := endpoint
    owner := delegate
    paused := true
    peers := fun _ => zeroBytes32
    outboundBucket := initializeBucket now
    inboundBucket := initializeBucket now
    ledger := empty Address }

def onlyOwner (sender : Address) (s : SanOFT) : Result Unit :=
  require (.ownableUnauthorizedAccount sender) (s.owner == sender)

def requireNotPaused (s : SanOFT) : Result Unit := require .enforcedPause (!s.paused)

def pause (sender : Address) (s : SanOFT) : Result SanOFT := do
  onlyOwner sender s
  requireNotPaused s
  .ok { s with paused := true }

def unpause (sender : Address) (s : SanOFT) : Result SanOFT := do
  onlyOwner sender s
  require .expectedPause s.paused
  .ok { s with paused := false }

def transferOwnership (sender newOwner : Address) (s : SanOFT) : Result SanOFT := do
  onlyOwner sender s
  require (.ownableInvalidOwner newOwner) (newOwner != 0)
  .ok { s with owner := newOwner }

def renounceOwnership (sender : Address) (s : SanOFT) : Result SanOFT := do
  onlyOwner sender s
  .error .ownershipRenunciationDisabled

def setPeer (sender : Address) (eid : U32) (peer : Bytes32) (s : SanOFT) : Result SanOFT := do
  onlyOwner sender s
  .ok { s with peers := Function.update s.peers eid peer }

structure RateLimitParams where
  capacity : U256
  refillAmount : U256
  refillDuration : U64

def setOutboundRateLimit (now : Nat) (sender : Address) (params : RateLimitParams) (s : SanOFT) :
    Result SanOFT := do
  onlyOwner sender s
  let b ← configureBucket now params.capacity params.refillAmount params.refillDuration s.outboundBucket
  .ok { s with outboundBucket := b }

def setInboundRateLimit (now : Nat) (sender : Address) (params : RateLimitParams) (s : SanOFT) :
    Result SanOFT := do
  onlyOwner sender s
  let b ← configureBucket now params.capacity params.refillAmount params.refillDuration s.inboundBucket
  .ok { s with inboundBucket := b }

def getPeerOrRevert (eid : U32) (s : SanOFT) : Result Bytes32 := do
  require .noPeer (s.peers eid != zeroBytes32)
  .ok (s.peers eid)

def debitView (oft : OFT) (now amountLD minAmountLD : Nat) (dstEid : U32) (s : SanOFT) :
    Result (Nat × Nat) := do
  requireNotPaused s
  let (amountSentLD, amountReceivedLD) ← oft.debitView amountLD minAmountLD dstEid
  let (available, _) ← preview now s.outboundBucket
  require (.bridgeRateLimitExceeded false amountReceivedLD available) (amountReceivedLD ≤ available)
  .ok (amountSentLD, amountReceivedLD)

def debit (oft : OFT) (now : Nat) (sender : Address) (amountLD minAmountLD : Nat) (dstEid : U32)
    (s : SanOFT) : Result (SanOFT × Nat × Nat) := do
  let (amountSentLD, amountReceivedLD) ← debitView oft now amountLD minAmountLD dstEid s
  let ledger ← erc20Burn s.ledger sender amountSentLD
  let bucket ← consume now false amountReceivedLD s.outboundBucket
  .ok ({ s with ledger := ledger, outboundBucket := bucket }, amountSentLD, amountReceivedLD)

def credit (oft : OFT) (now : Nat) (dest : Address) (amountLD : Nat) (s : SanOFT) :
    Result SanOFT := do
  requireNotPaused s
  let bucket ← consume now true amountLD s.inboundBucket
  let ledger ← erc20Mint s.ledger (oft.creditTo dest) amountLD
  .ok { s with ledger := ledger, inboundBucket := bucket }

structure QuoteOFT where
  amountSentLD : Nat
  amountReceivedLD : Nat

def quoteOFT (oft : OFT) (now : Nat) (params : SendParam) (s : SanOFT) : Result QuoteOFT := do
  let (amountSentLD, amountReceivedLD) ←
    debitView oft now params.amountLD params.minAmountLD params.dstEid s
  .ok ⟨amountSentLD, amountReceivedLD⟩

def quoteSend (oft : OFT) (now : Nat) (sender : Address) (params : SendParam) (s : SanOFT) :
    Result Nat := do
  let (_, amountReceivedLD) ← debitView oft now params.amountLD params.minAmountLD params.dstEid s
  let message ← oft.buildMsg sender params amountReceivedLD
  let peer ← getPeerOrRevert params.dstEid s
  oft.quote params.dstEid peer message

structure OFTSent where
  guid : Bytes32
  dstEid : U32
  fromAddress : Address
  amountSentLD : Nat
  amountReceivedLD : Nat

structure SendResult where
  receiver : Bytes32
  message : Bytes
  receipt : Receipt
  event : OFTSent

def send (oft : OFT) (now : Nat) (sender : Address) (params : SendParam) (s : SanOFT) :
    Result (SanOFT × SendResult) := do
  let (s, amountSentLD, amountReceivedLD) ←
    debit oft now sender params.amountLD params.minAmountLD params.dstEid s
  let message ← oft.buildMsg sender params amountReceivedLD
  let peer ← getPeerOrRevert params.dstEid s
  let receipt ← oft.lzSend params.dstEid peer message
  .ok (s, ⟨peer, message, receipt, ⟨receipt.guid, params.dstEid, sender, amountSentLD, amountReceivedLD⟩⟩)

structure Origin where
  srcEid : U32
  sender : Bytes32
  nonce : U64

structure OFTReceived where
  guid : Bytes32
  srcEid : U32
  toAddress : Address
  amountReceivedLD : Nat

def lzReceive (oft : OFT) (now : Nat) (sender : Address) (origin : Origin) (guid : Bytes32)
    (message : Bytes) (s : SanOFT) : Result (SanOFT × OFTReceived) := do
  require .onlyEndpoint (s.endpoint == sender)
  let peer ← getPeerOrRevert origin.srcEid s
  require .onlyPeer (peer == origin.sender)
  let (toAddress, amountLD) ← oft.readMsg message
  let s ← credit oft now toAddress amountLD s
  .ok (s, ⟨guid, origin.srcEid, toAddress, amountLD⟩)

end SanBridge.Evm.Contract
