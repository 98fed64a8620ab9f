import SanBridge.Solana.Amounts
import SanBridge.Solana.MsgCodec

namespace SanBridge.Solana.Instructions

open Library.BigEndian Library.Checked Solana.Runtime Solana.State Solana.Amounts

structure MessagingReceipt where
  guid : Pubkey
  nonce : U64

structure MessagingFee where
  nativeFee : U64
  lzTokenFee : U64

structure EndpointSendParams where
  dstEid : U32
  receiver : Pubkey
  message : Bytes
  options : Bytes
  nativeFee : U64
  lzTokenFee : U64

structure QuoteParams where
  sender : Pubkey
  dstEid : U32
  receiver : Pubkey
  message : Bytes
  payInLzToken : Bool
  options : Bytes

structure ClearParams where
  receiver : Pubkey
  srcEid : U32
  sender : Pubkey
  nonce : U64
  guid : Pubkey
  message : Bytes

structure SendComposeParams where
  dest : Pubkey
  guid : Pubkey
  index : Nat
  message : Bytes

/-- The answers an instruction gets from the LayerZero crate, the Endpoint behind
it and the token program's authority check. What the Endpoint does to token
accounts when it is called is left to `Endpoint.Step`. -/
structure Oapp where
  endpointId : Pubkey
  clearMinAccountsLen : Nat
  registerOapp : Pubkey → Pubkey → Result Unit
  setDelegate : Pubkey → Pubkey → Result Unit
  send : Pubkey → EndpointSendParams → Result MessagingReceipt
  quote : Pubkey → QuoteParams → Result MessagingFee
  clear : Pubkey → ClearParams → Result Unit
  sendCompose : Pubkey → SendComposeParams → Result Unit
  combineOptions : Bytes → Bytes → Result Bytes
  assertType3 : Bytes → Result Unit
  mintAuthoritySigned : Pubkey → Pubkey → Bool

/-- A store with everything its instructions read: its address, its peer
accounts by endpoint id, the mint, the token accounts and the clock. -/
structure StoreState where
  key : Pubkey
  store : OFTStore
  peers : U32 → Option PeerConfig
  mint : Mint
  tokens : TokenAccounts
  clock : Clock

def StoreState.escrow (s : StoreState) : Nat := s.tokens.amount s.store.tokenEscrow

def asciiBytes (s : String) : Bytes := s.toList.map fun c => UInt8.ofNat c.toNat

def oftSeed : Bytes := asciiBytes "OFT"
def peerSeed : Bytes := asciiBytes "Peer"

structure InitOFTParams where
  oftType : OFTType
  admin : Pubkey
  sharedDecimals : UInt8
  endpointProgram : Option Pubkey

/-- The escrow is a fresh token account whose address signs for its creation. -/
def initOft (space : AddressSpace) (oapp : Oapp) (tokenMint tokenEscrow : Pubkey) (m : Mint)
    (t : TokenAccounts) (clock : Clock) (params : InitOFTParams) : Result StoreState := do
  require .constraint (space.signs tokenEscrow)
  require .constraint (t.owner tokenEscrow).isNone
  let (key, bump) := space.findProgramAddress [oftSeed, tokenEscrow.toList]
  requireOft .invalidDecimals (params.sharedDecimals ≤ m.decimals)
  let exponent := m.decimals.toNat - params.sharedDecimals.toNat
  require .overflow (10 ^ exponent < 2 ^ 64)
  let endpointProgram := params.endpointProgram.getD oapp.endpointId
  oapp.registerOapp endpointProgram params.admin
  .ok {
    key := key
    store := {
      oftType := params.oftType
      ld2sdRate := 10 ^ exponent
      rate_eq := ⟨exponent, rfl⟩
      tokenMint := tokenMint
      tokenEscrow := tokenEscrow
      endpointProgram := endpointProgram
      bump := bump
      tvlLd := 0
      admin := params.admin
      defaultFeeBps := 0
      paused := true
      pauser := none
      unpauser := none }
    peers := fun _ => none
    mint := m
    tokens := {
      amount := Function.update t.amount tokenEscrow 0
      owner := Function.update t.owner tokenEscrow (some key) }
    clock := clock }

inductive SetOFTConfigParams
  | admin (admin : Pubkey)
  | delegate (delegate : Pubkey)
  | defaultFee (feeBps : U16)
  | paused (paused : Bool)
  | pauser (pauser : Option Pubkey)
  | unpauser (unpauser : Option Pubkey)

def setOftConfig (oapp : Oapp) (admin : Pubkey) (params : SetOFTConfigParams) (s : StoreState) :
    Result StoreState := do
  requireOft .unauthorized (s.store.admin == admin)
  match params with
  | .admin admin => .ok { s with store := { s.store with admin := admin } }
  | .delegate delegate => do
    oapp.setDelegate s.store.endpointProgram delegate
    .ok s
  | .defaultFee feeBps => do
    requireOft .invalidFee (feeBps < maxFeeBasisPoints)
    .ok { s with store := { s.store with defaultFeeBps := feeBps } }
  | .paused paused => .ok { s with store := { s.store with paused := paused } }
  | .pauser pauser => .ok { s with store := { s.store with pauser := pauser } }
  | .unpauser unpauser => .ok { s with store := { s.store with unpauser := unpauser } }

def isValidSigner (signer : Pubkey) (store : OFTStore) (paused : Bool) : Bool :=
  if paused then store.pauser == some signer else store.unpauser == some signer

def setPause (signer : Pubkey) (paused : Bool) (s : StoreState) : Result StoreState := do
  requireOft .unauthorized (isValidSigner signer s.store paused)
  .ok { s with store := { s.store with paused := paused } }

structure RateLimitParams where
  refillPerSecond : Option U64
  capacity : Option U64

inductive PeerConfigParam
  | peerAddress (address : Pubkey)
  | feeBps (feeBps : Option U16)
  | enforcedOptions (send sendAndCall : Bytes)
  | outboundRateLimit (params : Option RateLimitParams)
  | inboundRateLimit (params : Option RateLimitParams)

structure SetPeerConfigParams where
  remoteEid : U32
  config : PeerConfigParam

/-- The capacity is set before the rate; the rate settles at the old rate first. -/
def updateRateLimiter (clock : Clock) (limiter : Option RateLimiter) :
    Option RateLimitParams → Result (Option RateLimiter)
  | some param => do
    let r := limiter.getD .default
    let r ← match param.capacity with
      | some capacity => r.setCapacity clock capacity
      | none => .ok r
    let r ← match param.refillPerSecond with
      | some refillRate => r.setRate clock refillRate
      | none => .ok r
    .ok (some r)
  | none => .ok none

def applyPeerConfig (oapp : Oapp) (clock : Clock) (peer : PeerConfig) :
    PeerConfigParam → Result PeerConfig
  | .peerAddress address => .ok { peer with peerAddress := address }
  | .feeBps feeBps => do
    requireOft .invalidFee (feeBps.all fun bps => bps < maxFeeBasisPoints)
    .ok { peer with feeBps := feeBps.map Fin.val }
  | .enforcedOptions send sendAndCall => do
    oapp.assertType3 send
    oapp.assertType3 sendAndCall
    .ok { peer with enforcedOptions := ⟨send, sendAndCall⟩ }
  | .outboundRateLimit params => do
    let limiter ← updateRateLimiter clock peer.outboundRateLimiter params
    .ok { peer with outboundRateLimiter := limiter }
  | .inboundRateLimit params => do
    let limiter ← updateRateLimiter clock peer.inboundRateLimiter params
    .ok { peer with inboundRateLimiter := limiter }

def setPeerConfig (space : AddressSpace) (oapp : Oapp) (admin : Pubkey)
    (params : SetPeerConfigParams) (s : StoreState) : Result StoreState := do
  requireOft .unauthorized (s.store.admin == admin)
  let peer := (s.peers params.remoteEid).getD .zeroed
  let peer ← applyPeerConfig oapp s.clock peer params.config
  let (_, bump) := space.findProgramAddress
    [peerSeed, s.key.toList, beBytes 4 params.remoteEid]
  .ok { s with peers := Function.update s.peers params.remoteEid (some { peer with bump := bump }) }

structure WithdrawFeeAccounts where
  admin : Pubkey
  tokenDest : Pubkey

/-- The destination is any token account of the mint, the escrow itself included. -/
def withdrawFee (accounts : WithdrawFeeAccounts) (feeLd : U64) (s : StoreState) :
    Result StoreState := do
  requireOft .unauthorized (s.store.admin == accounts.admin)
  require .constraint (s.tokens.owner s.store.tokenEscrow == some s.key)
  require .constraint (s.tokens.owner accounts.tokenDest).isSome
  let surplus ← sub .overflow s.escrow s.store.tvlLd
  requireOft .invalidFee (feeLd ≤ surplus)
  let tokens ← transferChecked s.mint s.clock.epoch s.tokens s.store.tokenEscrow
    accounts.tokenDest feeLd
  .ok { s with tokens := tokens }

structure OFTReceipt where
  amountSentLd : Nat
  amountReceivedLd : Nat

structure OFTFeeDetail where
  feeAmountLd : Nat
  description : String

structure OFTLimits where
  minAmountLd : Nat
  maxAmountLd : Nat

structure QuoteOFTResult where
  oftLimits : OFTLimits
  oftFeeDetails : List OFTFeeDetail
  oftReceipt : OFTReceipt

structure QuoteSendParams where
  dstEid : U32
  dest : Pubkey
  amountLd : U64
  minAmountLd : U64
  options : Bytes
  composeMsg : Option Bytes
  payInLzToken : Bool

def quoteOft (params : QuoteSendParams) (s : StoreState) : Result QuoteOFTResult := do
  let peer ← ofOption .constraint (s.peers params.dstEid)
  requireOft .paused (!s.store.paused)
  let (amountSentLd, amountReceivedLd, oftFeeLd) ←
    computeFeeAndAdjustAmount params.amountLd s.store s.mint s.clock.epoch peer.feeBps
  requireOft .slippageExceeded (params.minAmountLd ≤ amountReceivedLd)
  let credited ← add (2 ^ 64) .overflow amountReceivedLd oftFeeLd
  let transferFee ← if credited < amountSentLd then do
      let withoutFee ← sub .overflow amountSentLd oftFeeLd
      let feeAmountLd ← sub .overflow withoutFee amountReceivedLd
      .ok [{ feeAmountLd := feeAmountLd, description := "Token2022 Transfer Fee" : OFTFeeDetail }]
    else .ok []
  let crossChainFee := if 0 < oftFeeLd then
      [{ feeAmountLd := oftFeeLd, description := "Cross Chain Fee" : OFTFeeDetail }]
    else []
  .ok ⟨⟨0, u64Max⟩, transferFee ++ crossChainFee, ⟨amountSentLd, amountReceivedLd⟩⟩

/-- The quoted message carries `amount_received_ld` where `send` converts it to shared decimals. -/
def quoteSend (oapp : Oapp) (params : QuoteSendParams) (s : StoreState) : Result MessagingFee := do
  let peer ← ofOption .constraint (s.peers params.dstEid)
  requireOft .paused (!s.store.paused)
  let (_, amountReceivedLd, _) ←
    computeFeeAndAdjustAmount params.amountLd s.store s.mint s.clock.epoch peer.feeBps
  requireOft .slippageExceeded (params.minAmountLd ≤ amountReceivedLd)
  let options ← oapp.combineOptions
    (peer.enforcedOptions.getEnforcedOptions params.composeMsg) params.options
  oapp.quote s.store.endpointProgram {
    sender := s.key
    dstEid := params.dstEid
    receiver := peer.peerAddress
    message := MsgCodec.encode params.dest amountReceivedLd (Vector.replicate 32 0) params.composeMsg
    payInLzToken := params.payInLzToken
    options := options }

structure SendParams where
  dstEid : U32
  dest : Pubkey
  amountLd : U64
  minAmountLd : U64
  options : Bytes
  composeMsg : Option Bytes
  nativeFee : U64
  lzTokenFee : U64

structure SendAccounts where
  signer : Pubkey
  tokenSource : Pubkey
  remainingAccounts : List Pubkey

structure OFTSent where
  guid : Pubkey
  dstEid : U32
  source : Pubkey
  amountSentLd : Nat
  amountReceivedLd : Nat

/-- What a successful `send` hands out: the packet given to the Endpoint, the
receipts and the emitted event. -/
structure SendResult where
  packet : EndpointSendParams
  receipt : MessagingReceipt
  oftReceipt : OFTReceipt
  event : OFTSent

/-- Adapter stores lock the sent amount in the escrow, Native stores burn it
and move the application fee to the escrow. -/
def debitSource (source : Pubkey) (amountSentLd amountReceivedLd oftFeeLd : Nat) (s : StoreState) :
    Result StoreState :=
  match s.store.oftType with
  | .adapter => do
    let tvlLd ← add (2 ^ 64) .overflow s.store.tvlLd amountReceivedLd
    let tokens ← transferChecked s.mint s.clock.epoch s.tokens source s.store.tokenEscrow amountSentLd
    .ok { s with store := { s.store with tvlLd := tvlLd }, tokens := tokens }
  | .native => do
    let burned ← sub .overflow amountSentLd oftFeeLd
    let tokens ← burn s.tokens source burned
    let tokens ← if 0 < oftFeeLd then
        transferChecked s.mint s.clock.epoch tokens source s.store.tokenEscrow oftFeeLd
      else .ok tokens
    .ok { s with tokens := tokens }

/-- The address of the store signs only inside calls the program itself makes,
so it is never the signer of a `send`. -/
def send (oapp : Oapp) (accounts : SendAccounts) (params : SendParams) (s : StoreState) :
    Result (StoreState × SendResult) := do
  let peer ← ofOption .constraint (s.peers params.dstEid)
  require .constraint (accounts.signer != s.key)
  require .constraint (s.tokens.owner accounts.tokenSource == some accounts.signer)
  require .constraint (s.tokens.owner s.store.tokenEscrow == some s.key)
  requireOft .paused (!s.store.paused)
  let (amountSentLd, amountReceivedLd, oftFeeLd) ←
    computeFeeAndAdjustAmount params.amountLd s.store s.mint s.clock.epoch peer.feeBps
  requireOft .slippageExceeded (params.minAmountLd ≤ amountReceivedLd)
  let outbound ← onSome (·.tryConsume s.clock amountReceivedLd) peer.outboundRateLimiter
  let inbound ← onSome (·.refill s.clock amountReceivedLd) peer.inboundRateLimiter
  let peer := { peer with outboundRateLimiter := outbound, inboundRateLimiter := inbound }
  let s ← debitSource accounts.tokenSource amountSentLd amountReceivedLd oftFeeLd s
  let sender ← ofOption .panicked accounts.remainingAccounts[1]?
  requireOft .invalidSender (s.key == sender)
  let amountSd := s.store.ld2sd amountReceivedLd
  let options ← oapp.combineOptions
    (peer.enforcedOptions.getEnforcedOptions params.composeMsg) params.options
  let packet : EndpointSendParams := {
    dstEid := params.dstEid
    receiver := peer.peerAddress
    message := MsgCodec.encode params.dest amountSd accounts.signer params.composeMsg
    options := options
    nativeFee := params.nativeFee
    lzTokenFee := params.lzTokenFee }
  let receipt ← oapp.send s.store.endpointProgram packet
  .ok ({ s with peers := Function.update s.peers params.dstEid (some peer) },
    { packet := packet
      receipt := receipt
      oftReceipt := ⟨amountSentLd, amountReceivedLd⟩
      event := ⟨receipt.guid, params.dstEid, accounts.tokenSource, amountSentLd, amountReceivedLd⟩ })

structure LzReceiveParams where
  srcEid : U32
  sender : Pubkey
  nonce : U64
  guid : Pubkey
  message : Bytes

structure LzReceiveAccounts where
  toAddress : Pubkey
  tokenProgram : Pubkey
  mintAuthority : Option Pubkey
  remainingAccounts : List Pubkey

structure OFTReceived where
  guid : Pubkey
  srcEid : U32
  dest : Pubkey
  amountReceivedLd : Nat

/-- `init_if_needed` of the associated token account of the recipient. -/
def initTokenDest (t : TokenAccounts) (tokenDest toAddress : Pubkey) : Result TokenAccounts :=
  match t.owner tokenDest with
  | some owner => do
    require .constraint (owner == toAddress)
    .ok t
  | none => .ok { t with owner := Function.update t.owner tokenDest (some toAddress) }

/-- Adapter stores unlock from the escrow, Native stores mint; the last component
is the amount that arrives after the transfer fee. -/
def creditDest (oapp : Oapp) (mintAuthority : Option Pubkey) (tokenDest : Pubkey)
    (amountLd : Nat) (s : StoreState) : Result (StoreState × Nat) :=
  match s.store.oftType with
  | .adapter => do
    let tvlLd ← sub .overflow s.store.tvlLd amountLd
    let tokens ← transferChecked s.mint s.clock.epoch s.tokens s.store.tokenEscrow tokenDest amountLd
    let amountReceivedLd ← getPostFeeAmountLd s.mint s.clock.epoch amountLd
    .ok ({ s with store := { s.store with tvlLd := tvlLd }, tokens := tokens }, amountReceivedLd)
  | .native =>
    match mintAuthority with
    | some authority => do
      require .token (oapp.mintAuthoritySigned authority s.key)
      let tokens ← mintTo s.tokens tokenDest amountLd
      .ok ({ s with tokens := tokens }, amountLd)
    | none => .error (.oft .invalidMintAuthority)

/-- `nonce ++ src_eid ++ amount_ld ++ compose_msg` -/
def encodeComposeMsg (nonce : U64) (srcEid : U32) (amountLd : Nat) (composeMsg : Bytes) : Bytes :=
  beBytes 8 nonce ++ beBytes 4 srcEid ++ beBytes 8 amountLd ++ composeMsg

def lzReceive (space : AddressSpace) (oapp : Oapp) (accounts : LzReceiveAccounts)
    (params : LzReceiveParams) (s : StoreState) : Result (StoreState × OFTReceived) := do
  let peer ← ofOption .constraint (s.peers params.srcEid)
  requireOft .invalidSender (peer.peerAddress == params.sender)
  require .constraint (s.tokens.owner s.store.tokenEscrow == some s.key)
  let toAddress ← ofOption .panicked (MsgCodec.sendTo params.message)
  requireOft .invalidTokenDest (accounts.toAddress == toAddress)
  let tokenDest := space.associatedTokenAddress toAddress s.store.tokenMint accounts.tokenProgram
  let tokens ← initTokenDest s.tokens tokenDest toAddress
  requireOft .invalidMintAuthority
    (accounts.mintAuthority.all fun authority => s.mint.mintAuthority == some authority)
  requireOft .paused (!s.store.paused)
  require .panicked (oapp.clearMinAccountsLen ≤ accounts.remainingAccounts.length)
  oapp.clear s.store.endpointProgram {
    receiver := s.key
    srcEid := params.srcEid
    sender := params.sender
    nonce := params.nonce
    guid := params.guid
    message := params.message }
  let amountSd ← ofOption .panicked (MsgCodec.amountSd params.message)
  let amountLd ← s.store.sd2ld amountSd
  let inbound ← onSome (·.tryConsume s.clock amountLd) peer.inboundRateLimiter
  let outbound ← onSome (·.refill s.clock amountLd) peer.outboundRateLimiter
  let peer := { peer with outboundRateLimiter := outbound, inboundRateLimiter := inbound }
  let (s, amountReceivedLd) ←
    creditDest oapp accounts.mintAuthority tokenDest amountLd { s with tokens := tokens }
  match MsgCodec.composeMsg params.message with
  | some message => oapp.sendCompose s.store.endpointProgram {
      dest := toAddress
      guid := params.guid
      index := 0
      message := encodeComposeMsg params.nonce params.srcEid amountReceivedLd message }
  | none => .ok ()
  .ok ({ s with peers := Function.update s.peers params.srcEid (some peer) },
    ⟨params.guid, params.srcEid, toAddress, amountReceivedLd⟩)

end SanBridge.Solana.Instructions
