import SanBridge.Solana.Custody

namespace SanBridge.Solana.ReceiveTypes

open Library.BigEndian Library.Checked Library.Runs
open Solana.Runtime Solana.State Solana.Amounts Solana.Instructions Solana.Effects Solana.Program

structure LzAccount where
  pubkey : Pubkey
  isSigner : Bool
  isWritable : Bool
  deriving DecidableEq

/-- The constants and account helpers of the crates the program is built on.
Deriving an address again from its seeds and its bump gives the same address. -/
structure Crates (space : AddressSpace) where
  programId : Pubkey
  tokenProgramIds : List Pubkey
  associatedTokenId : Pubkey
  systemProgramId : Pubkey
  eventSeed : Bytes
  createProgramAddress : List Bytes → Option Pubkey
  create_find : ∀ seeds, createProgramAddress (seeds ++ [[(space.findProgramAddress seeds).2]]) =
    some (space.findProgramAddress seeds).1
  getAccountsForClear : Pubkey → Pubkey → U32 → Pubkey → U64 → List LzAccount
  getAccountsForSendCompose : Pubkey → Pubkey → Pubkey → Pubkey → Nat → Bytes → List LzAccount

section Plan

variable {space : AddressSpace} (crates : Crates space)

/-- `amount_received_ld` of the payload: Native stores mint the whole amount. -/
def plannedAmount (amountLd : Nat) (s : StoreState) : Result Nat :=
  match s.store.oftType with
  | .native => .ok amountLd
  | .adapter => getPostFeeAmountLd s.mint s.clock.epoch amountLd

end Plan

structure TokenAccount where
  authority : Pubkey
  mint : Pubkey
  program : Pubkey
  deriving DecidableEq

structure MintAccount where
  mint : Mint
  program : Pubkey

/-- The accounts on chain by address: those of this program, and the mints and
token accounts of either token program. -/
structure Ledger where
  store : Pubkey → Option OFTStore
  peer : Pubkey → Option PeerConfig
  mint : Pubkey → Option MintAccount
  token : Pubkey → Option TokenAccount

/-- What the account constraints of `lz_receive` hand to the instruction. -/
structure LzReceiveContext where
  payer : Pubkey
  peer : PeerConfig
  oftStore : OFTStore
  toAddress : Pubkey
  tokenDest : Pubkey
  mint : Mint
  mintAuthority : Option Pubkey
  tokenProgram : Pubkey
  program : Pubkey
  remainingAccounts : List LzAccount

def LzReceiveContext.accounts (ctx : LzReceiveContext) : LzReceiveAccounts :=
  ⟨ctx.toAddress, ctx.tokenProgram, ctx.mintAuthority, ctx.remainingAccounts.map LzAccount.pubkey⟩

section Constraints

variable {space : AddressSpace} (crates : Crates space) (ledger : Ledger)

end Constraints

section Seeds

variable {space : AddressSpace} {oapp : Oapp} {s s' : StoreState}

def peerAddress (space : AddressSpace) (oftStore : Pubkey) (eid : U32) : Pubkey :=
  (space.findProgramAddress [peerSeed, oftStore.toList, beBytes 4 eid]).1

variable (crates : Crates space)

end Seeds

section Planned

variable {space : AddressSpace} {crates : Crates space} {oapp : Oapp} {program toAddress : Pubkey}
  {params : LzReceiveParams} {s s' s'' : StoreState} {accounts : List LzAccount}

/-- The store's accounts lie on the ledger where the program looks for them. -/
structure Ledger.Holds (crates : Crates space) (program : Pubkey) (ledger : Ledger) (s : StoreState) : Prop where
  program_mem : program ∈ crates.tokenProgramIds
  store : ledger.store s.key = some s.store
  peer : ∀ eid, ledger.peer (peerAddress space s.key eid) = s.peers eid
  mint : ledger.mint s.store.tokenMint = some ⟨s.mint, program⟩
  token : ∀ key owner, s.tokens.owner key = some owner →
    ledger.token key = some ⟨owner, s.store.tokenMint, program⟩
  absent : ∀ wallet, s.tokens.owner (space.associatedTokenAddress wallet s.store.tokenMint program) = none →
    ledger.token (space.associatedTokenAddress wallet s.store.tokenMint program) = none

section Loading

variable {ledger : Ledger} {peer : PeerConfig}

end Loading

section Composing

variable {receiveAccounts : LzReceiveAccounts} {r : OFTReceived} {compose : Option SendComposeParams}

/-- `lz_receive` up to the call of `send_compose`, with the parameters of that call. -/
def lzReceiveRequest (space : AddressSpace) (oapp : Oapp) (accounts : LzReceiveAccounts)
    (params : LzReceiveParams) (s : StoreState) : Result (StoreState × OFTReceived × Option SendComposeParams) := do
  let peer ← ofOption .constraint (s.peers params.srcEid)
  requireOft .invalidSender (peer.peerAddress == params.sender)
  require .constraint (s.tokens.owner s.store.tokenEscrow == some s.key)
  let toAddress ← ofOption .panicked (MsgCodec.sendTo params.message)
  requireOft .invalidTokenDest (accounts.toAddress == toAddress)
  let tokenDest := space.associatedTokenAddress toAddress s.store.tokenMint accounts.tokenProgram
  let tokens ← initTokenDest s.tokens tokenDest toAddress
  requireOft .invalidMintAuthority
    (accounts.mintAuthority.all fun authority => s.mint.mintAuthority == some authority)
  requireOft .paused (!s.store.paused)
  require .panicked (oapp.clearMinAccountsLen ≤ accounts.remainingAccounts.length)
  oapp.clear s.store.endpointProgram {
    receiver := s.key
    srcEid := params.srcEid
    sender := params.sender
    nonce := params.nonce
    guid := params.guid
    message := params.message }
  let amountSd ← ofOption .panicked (MsgCodec.amountSd params.message)
  let amountLd ← s.store.sd2ld amountSd
  let inbound ← onSome (·.tryConsume s.clock amountLd) peer.inboundRateLimiter
  let outbound ← onSome (·.refill s.clock amountLd) peer.outboundRateLimiter
  let peer := { peer with outboundRateLimiter := outbound, inboundRateLimiter := inbound }
  let (s, amountReceivedLd) ←
    creditDest oapp accounts.mintAuthority tokenDest amountLd { s with tokens := tokens }
  let compose := (MsgCodec.composeMsg params.message).map fun message => {
    dest := toAddress
    guid := params.guid
    index := 0
    message := encodeComposeMsg params.nonce params.srcEid amountReceivedLd message }
  .ok ({ s with peers := Function.update s.peers params.srcEid (some peer) },
    ⟨params.guid, params.srcEid, toAddress, amountReceivedLd⟩, compose)

def sendComposed (oapp : Oapp) : StoreState × OFTReceived × Option SendComposeParams →
    Result (StoreState × OFTReceived)
  | (s, r, some call) => do
    oapp.sendCompose s.store.endpointProgram call
    .ok (s, r)
  | (s, r, none) => .ok (s, r)

theorem lzReceive_eq : lzReceive space oapp receiveAccounts params s =
    lzReceiveRequest space oapp receiveAccounts params s >>= sendComposed oapp := by
  rw [lzReceive, lzReceiveRequest]
  simp only [bind_assoc, ok_bind]
  cases MsgCodec.composeMsg params.message with
  | none => rfl
  | some message => rfl

theorem creditDest_arrived {mintAuthority : Option Pubkey} {tokenDest : Pubkey} {amountLd arrived : Nat}
    (h : creditDest oapp mintAuthority tokenDest amountLd s = .ok (s', arrived)) :
    plannedAmount amountLd s = .ok arrived := by
  unfold creditDest at h
  rw [plannedAmount]
  cases ht : s.store.oftType with
  | adapter =>
    rw [ht] at h
    obtain ⟨_, _, h⟩ := bind_eq_ok.mp h
    obtain ⟨_, _, h⟩ := bind_eq_ok.mp h
    obtain ⟨amount, ha, h⟩ := bind_eq_ok.mp h
    cases h
    exact ha
  | native =>
    rw [ht] at h
    cases mintAuthority with
    | none => cases h
    | some authority =>
      obtain ⟨_, _, h⟩ := bind_eq_ok.mp h
      obtain ⟨_, _, h⟩ := bind_eq_ok.mp h
      cases h
      rfl

structure RequestReads (params : LzReceiveParams) (s : StoreState) (r : OFTReceived)
    (compose : Option SendComposeParams) (toAddress : Pubkey) (amountSd amountLd arrived : Nat) : Prop where
  toAddress_eq : MsgCodec.sendTo params.message = some toAddress
  amountSd_eq : MsgCodec.amountSd params.message = some amountSd
  amountLd_eq : s.store.sd2ld amountSd = .ok amountLd
  arrived_eq : plannedAmount amountLd s = .ok arrived
  event_eq : r = ⟨params.guid, params.srcEid, toAddress, arrived⟩
  compose_eq : compose = (MsgCodec.composeMsg params.message).map fun message => {
    dest := toAddress
    guid := params.guid
    index := 0
    message := encodeComposeMsg params.nonce params.srcEid arrived message }

theorem lzReceiveRequest_reads (h : lzReceiveRequest space oapp receiveAccounts params s = .ok (s', r, compose)) :
    ∃ toAddress amountSd amountLd arrived,
      RequestReads params s r compose toAddress amountSd amountLd arrived := by
  obtain ⟨_, _, h⟩ := bind_eq_ok.mp h
  obtain ⟨_, _, h⟩ := bind_eq_ok.mp h
  obtain ⟨_, _, h⟩ := bind_eq_ok.mp h
  obtain ⟨toAddress, ht, h⟩ := bind_eq_ok.mp h
  obtain ⟨_, _, h⟩ := bind_eq_ok.mp h
  obtain ⟨tokens, _, h⟩ := bind_eq_ok.mp h
  obtain ⟨_, _, h⟩ := bind_eq_ok.mp h
  obtain ⟨_, _, h⟩ := bind_eq_ok.mp h
  obtain ⟨_, _, h⟩ := bind_eq_ok.mp h
  obtain ⟨_, _, h⟩ := bind_eq_ok.mp h
  obtain ⟨amountSd, ha, h⟩ := bind_eq_ok.mp h
  obtain ⟨amountLd, hl, h⟩ := bind_eq_ok.mp h
  obtain ⟨_, _, h⟩ := bind_eq_ok.mp h
  obtain ⟨_, _, h⟩ := bind_eq_ok.mp h
  obtain ⟨⟨credited, arrived⟩, hcredit, h⟩ := bind_eq_ok.mp h
  have harrived := creditDest_arrived hcredit
  change plannedAmount amountLd s = .ok arrived at harrived
  cases h
  exact ⟨toAddress, amountSd, amountLd, arrived, ofOption_eq_ok.mp ht, ofOption_eq_ok.mp ha, hl, harrived, rfl, rfl⟩

theorem lzReceive_request (h : lzReceive space oapp receiveAccounts params s = .ok (s', r)) :
    ∃ compose, lzReceiveRequest space oapp receiveAccounts params s = .ok (s', r, compose) := by
  rw [lzReceive_eq, bind_eq_ok] at h
  obtain ⟨⟨t, r', compose⟩, hrequest, hsend⟩ := h
  refine ⟨compose, ?_⟩
  cases compose with
  | none =>
    cases hsend
    exact hrequest
  | some call =>
    obtain ⟨_, _, hsend⟩ := bind_eq_ok.mp hsend
    cases hsend
    exact hrequest

end Composing

structure SameTerms (s s' : StoreState) : Prop where
  mintAuthority : s'.mint.mintAuthority = s.mint.mintAuthority
  epochFee : ∀ amountLd, s'.mint.epochFee s'.clock.epoch amountLd = s.mint.epochFee s.clock.epoch amountLd

theorem SameTerms.refl (s : StoreState) : SameTerms s s := ⟨rfl, fun _ => rfl⟩

variable {ledger : Ledger} {peer : PeerConfig}

end Planned

section Sample

/-! Addresses that tell the peers of a store apart, with a message on its way
to a recipient whose associated account is free. -/

def padded (bytes : Bytes) : Pubkey := ⟨((bytes ++ List.replicate 32 0).take 32).toArray, by simp⟩

def addressOf : List Bytes → Pubkey
  | [_, _, eid] => padded eid
  | _ => pubkey 9

def planSpace : AddressSpace := { sampleSpace with findProgramAddress := fun seeds => (addressOf seeds, 255) }

def plannedPeer : PeerConfig := { PeerConfig.zeroed with peerAddress := pubkey 11, bump := 255 }

end Sample

end SanBridge.Solana.ReceiveTypes
