import SanBridge.Solana.Program
import SanBridge.Tooling.Backing

namespace SanBridge.Tooling.CommonContext

open Library.Checked Tooling.Runtime Tooling.Policy Tooling.Checker Tooling.Backing
open Solana.Runtime (Pubkey)
open Solana.Program (pubkey)

def JsNumber.lt : JsNumber → JsNumber → Bool
  | .finite q, .finite r => q < r
  | .finite _, .infinite negative => !negative
  | .infinite negative, .finite _ => negative
  | .infinite negative, .infinite negative' => negative && !negative'
  | _, _ => false

/-- `Number.isSafeInteger(x) && x > 0` -/
def isPositiveSafeInteger (x : JsNumber) : Bool := x.isSafeNatural && JsNumber.lt (.finite 0) x

section Source

variable (host : Host) (formats : AddressFormats) (sha256 : List UInt8 → Vector UInt8 32)

structure SolanaContextAccountRequest where
  label : String
  address : Pubkey

structure AccountInfo where
  owner : Pubkey
  executable : Bool
  lamports : JsNumber
  rentEpoch : Option JsNumber
  data : List UInt8

structure SolanaContextAccountEvidence where
  label : String
  address : String
  owner : String
  executable : Bool
  lamports : String
  dataLength : Nat
  accountSha256 : String

structure SolanaCommonContextEvidence where
  model : String
  commitment : String
  contextSlot : Int
  finalizedSlotBefore : Int
  finalizedSlotAfter : Int
  blockhash : String
  parentSlot : Int
  accounts : List SolanaContextAccountEvidence
  remainingCrossCallGaps : List String

structure SolanaCommonContextSnapshot where
  evidence : SolanaCommonContextEvidence
  values : List (String × AccountInfo)

structure AccountsResponse where
  contextSlot : JsNumber
  value : List (Option AccountInfo)

structure Block where
  blockhash : String
  parentSlot : JsNumber

/-- What the node answers to the four calls, in their order. -/
structure Connection where
  getSlotBefore : Result JsNumber
  getMultipleAccountsInfoAndContext : List Pubkey → JsNumber → Result AccountsResponse
  getSlotAfter : Result JsNumber
  getBlock : JsNumber → Result (Option Block)

structure CommonContextEnvelope where
  requestedAccounts : Nat
  returnedAccounts : Nat
  finalizedSlotBefore : JsNumber
  contextSlot : JsNumber
  finalizedSlotAfter : JsNumber
  blockSlot : JsNumber
  blockhash : Option String

def validateCommonContextEnvelope (value : CommonContextEnvelope) : Result Unit := do
  [("finalized slot before", value.finalizedSlotBefore), ("account context slot", value.contextSlot),
    ("finalized slot after", value.finalizedSlotAfter), ("block slot", value.blockSlot)].forM fun slot =>
      require (slot.1 ++ " must be a positive safe integer") (isPositiveSafeInteger slot.2)
  require "Solana common-context batch is truncated"
    (0 < value.requestedAccounts ∧ value.returnedAccounts = value.requestedAccounts)
  require "Solana common-context response is older than the required finalized slot"
    (!JsNumber.lt value.contextSlot value.finalizedSlotBefore)
  require "Solana common-context response is newer than the observed finalized head"
    (!JsNumber.lt value.finalizedSlotAfter value.contextSlot)
  require "Solana common-context block identifier does not match the account context slot"
    (value.blockSlot.strictEqual value.contextSlot && value.blockhash.any isBase58)

def accountHash (info : AccountInfo) : String :=
  let header := stringify host (.obj [
    ("owner", .str (formats.toBase58 info.owner)),
    ("executable", .bool info.executable),
    ("lamports", .str (numberText host info.lamports)),
    ("rentEpoch", .str (numberText host (info.rentEpoch.getD (.finite 0)))),
    ("dataLength", .num (.finite info.data.length))])
  "0x" ++ hexDigest (sha256 (header.toUTF8.data.toList ++ info.data)).toList

/-- One round of the loop that fills the map of the requests by address. -/
def registerRequest (byAddress : List (String × SolanaContextAccountRequest)) (item : SolanaContextAccountRequest) :
    Result (List (String × SolanaContextAccountRequest)) := do
  let address := formats.toBase58 item.address
  require ("Duplicate Solana common-context account " ++ address) (byAddress.lookup address).isNone
  .ok (byAddress ++ [(address, item)])

def accountEvidence (item : SolanaContextAccountRequest) (info : AccountInfo) : SolanaContextAccountEvidence where
  label := item.label
  address := formats.toBase58 item.address
  owner := formats.toBase58 info.owner
  executable := info.executable
  lamports := numberText host info.lamports
  dataLength := info.data.length
  accountSha256 := accountHash host formats sha256 info

/-- One round over the accounts: what the map `values` gains, and the evidence. -/
def bindAccount (value : List (Option AccountInfo)) (account : SolanaContextAccountRequest × Nat) :
    Result ((String × AccountInfo) × SolanaContextAccountEvidence) := do
  let (item, index) := account
  let info ← ofOption ("Solana common-context account is missing: " ++ item.label ++ " " ++
    formats.toBase58 item.address) value[index]?.join
  .ok ((formats.toBase58 item.address, info), accountEvidence host formats sha256 item info)

def remainingCrossCallGaps : List String :=
  ["Robinhood state is pinned independently to one finalized EVM block.",
    "LayerZero metadata is an HTTPS observation outside the Solana bank snapshot.",
    "In-flight evidence spans separately approved finalized chain ranges."]

def collectSolanaCommonContext (connection : Connection) (requested : List SolanaContextAccountRequest) :
    Result SolanaCommonContextSnapshot := do
  let byAddress ← requested.foldlM (registerRequest formats) []
  let accounts := byAddress.map Prod.snd
  require "Solana common-context account set is empty" (accounts.length ≠ 0)
  let finalizedSlotBefore ← connection.getSlotBefore
  let response ← connection.getMultipleAccountsInfoAndContext (accounts.map (·.address)) finalizedSlotBefore
  let finalizedSlotAfter ← connection.getSlotAfter
  let block ← connection.getBlock response.contextSlot
  validateCommonContextEnvelope {
    requestedAccounts := accounts.length
    returnedAccounts := response.value.length
    finalizedSlotBefore
    contextSlot := response.contextSlot
    finalizedSlotAfter
    blockSlot := response.contextSlot
    blockhash := block.map Block.blockhash }
  let block ← ofOption "Solana common-context finalized block is unavailable" block
  let bound ← accounts.zipIdx.mapM (bindAccount host formats sha256 response.value)
  let contextSlot ← bigInt host (some (.num response.contextSlot))
  let slotBefore ← bigInt host (some (.num finalizedSlotBefore))
  let slotAfter ← bigInt host (some (.num finalizedSlotAfter))
  let parentSlot ← bigInt host (some (.num block.parentSlot))
  .ok {
    evidence := {
      model := "COMMON_CONTEXT_STRONG"
      commitment := "finalized"
      contextSlot
      finalizedSlotBefore := slotBefore
      finalizedSlotAfter := slotAfter
      blockhash := block.blockhash
      parentSlot
      accounts := bound.map Prod.snd
      remainingCrossCallGaps }
    values := bound.map Prod.fst }

def SolanaCommonContextSnapshot.account (snapshot : SolanaCommonContextSnapshot) (address : Pubkey) :
    Result AccountInfo :=
  ofOption ("Account was not bound to the Solana common context: " ++ formats.toBase58 address)
    (snapshot.values.lookup (formats.toBase58 address))

/-- The fields of the evidence that the production policy reads. -/
def SolanaCommonContextEvidence.toContext (evidence : SolanaCommonContextEvidence) : SolanaContext where
  model := evidence.model
  commitment := evidence.commitment
  contextSlot := evidence.contextSlot
  finalizedSlotBefore := evidence.finalizedSlotBefore
  finalizedSlotAfter := evidence.finalizedSlotAfter
  blockhash := evidence.blockhash
  accounts := evidence.accounts.map fun a => ⟨a.label, a.address, a.accountSha256⟩

end Source

section Envelope

variable {host : Host}

theorem isPositiveSafeInteger_iff {x : JsNumber} :
    isPositiveSafeInteger x = true ↔ ∃ n : Int, 0 < n ∧ n ≤ 2 ^ 53 - 1 ∧ x = .finite n := by
  cases x with
  | finite q =>
    simp only [isPositiveSafeInteger, JsNumber.isSafeNatural, JsNumber.lt, Bool.and_eq_true, decide_eq_true_eq,
      JsNumber.finite.injEq]
    constructor
    · rintro ⟨⟨hden, _, hmax⟩, hpos⟩
      exact ⟨q.num, Rat.num_pos.mpr hpos, hmax, (Rat.den_eq_one_iff q).mp hden |>.symm⟩
    · rintro ⟨n, hpos, hmax, rfl⟩
      exact ⟨⟨Rat.den_intCast n, by rw [Rat.num_intCast]; omega, by rwa [Rat.num_intCast]⟩,
        Int.cast_pos.mpr hpos⟩
  | infinite _ | nan => simp [isPositiveSafeInteger, JsNumber.isSafeNatural]

theorem lt_int {n m : Int} : JsNumber.lt (.finite n) (.finite m) = true ↔ n < m := by
  simp only [JsNumber.lt, decide_eq_true_eq, Int.cast_lt]

theorem bigInt_eq {x : JsNumber} {n m : Int} (hx : x = .finite n) (h : bigInt host (some (.num x)) = .ok m) :
    n = m := by
  subst hx
  simpa only [bigInt, Rat.den_intCast, Rat.num_intCast, if_true, Except.ok.injEq] using h

structure Enveloped (value : CommonContextEnvelope) (before context after : Int) (blockhash : String) : Prop where
  before_eq : value.finalizedSlotBefore = .finite before
  context_eq : value.contextSlot = .finite context
  after_eq : value.finalizedSlotAfter = .finite after
  blockhash_eq : value.blockhash = some blockhash
  returned : value.returnedAccounts = value.requestedAccounts
  positive : 0 < before
  ordered : before ≤ context ∧ context ≤ after
  base58 : isBase58 blockhash = true

theorem enveloped_of_ok {value : CommonContextEnvelope} (h : validateCommonContextEnvelope value = .ok ()) :
    ∃ before context after blockhash, Enveloped value before context after blockhash := by
  simp only [validateCommonContextEnvelope, bind_eq_ok, forM_eq_ok, List.forall_mem_cons, require_eq_ok,
    isPositiveSafeInteger_iff, decide_eq_true_eq, Bool.and_eq_true, Option.any_eq_true] at h
  obtain ⟨_, ⟨⟨b, hb, _, hbefore⟩, ⟨c, _, _, hcontext⟩, ⟨a, _, _, hafter⟩, _⟩, _, ⟨_, hreturned⟩, _, hold, _, hnew, _,
    blockhash, hblockhash, hbase⟩ := h
  rw [hcontext, hbefore, Bool.not_eq_true', ← Bool.not_eq_true, lt_int] at hold
  rw [hcontext, hafter, Bool.not_eq_true', ← Bool.not_eq_true, lt_int] at hnew
  exact ⟨b, c, a, blockhash, hbefore, hcontext, hafter, hblockhash, hreturned, hb, ⟨by omega, by omega⟩, hbase⟩

end Envelope

section Accounts

variable {host : Host} {formats : AddressFormats} {sha256 : List UInt8 → Vector UInt8 32}
variable {requested : List SolanaContextAccountRequest}

theorem toBase58_injective : Function.Injective formats.toBase58 := by
  intro a b h
  have ha := formats.publicKey_toBase58 a
  rw [h, formats.publicKey_toBase58] at ha
  exact (Option.some.inj ha).symm

theorem registerRequest_eq_ok {byAddress byAddress' : List (String × SolanaContextAccountRequest)}
    {item : SolanaContextAccountRequest} :
    registerRequest formats byAddress item = .ok byAddress' ↔
      formats.toBase58 item.address ∉ byAddress.map Prod.fst ∧
      byAddress' = byAddress ++ [(formats.toBase58 item.address, item)] := by
  simp only [registerRequest, bind_eq_ok, require_eq_ok, Option.isNone_iff_eq_none, Library.Matching.lookup_eq_none,
    Except.ok.injEq]
  constructor
  · rintro ⟨_, hnew, rfl⟩
    exact ⟨hnew, rfl⟩
  · rintro ⟨hnew, rfl⟩
    exact ⟨(), hnew, rfl⟩

theorem registered {byAddress byAddress' : List (String × SolanaContextAccountRequest)}
    (h : requested.foldlM (registerRequest formats) byAddress = .ok byAddress')
    (hn : (byAddress.map Prod.fst).Nodup) :
    byAddress' = byAddress ++ requested.map (fun item => (formats.toBase58 item.address, item)) ∧
      (byAddress'.map Prod.fst).Nodup := by
  induction requested generalizing byAddress with
  | nil =>
    cases h
    exact ⟨(List.append_nil _).symm, hn⟩
  | cons item requested ih =>
    obtain ⟨next, hnext, h⟩ := bind_eq_ok.mp h
    obtain ⟨hnew, rfl⟩ := registerRequest_eq_ok.mp hnext
    obtain ⟨heq, hnodup⟩ := ih h (by
      rw [List.map_append, List.map_singleton]
      exact List.nodup_append.mpr ⟨hn, List.nodup_singleton _, by
        intro a ha b hb
        rw [List.mem_singleton.mp hb]
        rintro rfl
        exact hnew ha⟩)
    exact ⟨by rw [heq, List.map_cons, List.append_assoc, List.singleton_append], hnodup⟩

def boundAccount (host : Host) (formats : AddressFormats) (sha256 : List UInt8 → Vector UInt8 32)
    (pair : SolanaContextAccountRequest × AccountInfo) : (String × AccountInfo) × SolanaContextAccountEvidence :=
  ((formats.toBase58 pair.1.address, pair.2), accountEvidence host formats sha256 pair.1 pair.2)

theorem bound_accounts {value : List (Option AccountInfo)} {k : Nat}
    {bound : List ((String × AccountInfo) × SolanaContextAccountEvidence)}
    (h : (requested.zipIdx k).mapM (bindAccount host formats sha256 value) = .ok bound) :
    ∃ infos : List AccountInfo, infos.length = requested.length ∧
      (value.drop k).take requested.length = infos.map some ∧
      bound = (requested.zip infos).map (boundAccount host formats sha256) := by
  induction requested generalizing k bound with
  | nil =>
    cases h
    exact ⟨[], rfl, rfl, rfl⟩
  | cons item requested ih =>
    rw [List.zipIdx_cons, List.mapM_cons] at h
    obtain ⟨b, hb, h⟩ := bind_eq_ok.mp h
    obtain ⟨rest, hrest, h⟩ := bind_eq_ok.mp h
    cases h
    obtain ⟨info, hinfo, hb⟩ := bind_eq_ok.mp hb
    rw [ofOption_eq_ok, Option.join_eq_some_iff] at hinfo
    cases hb
    obtain ⟨infos, hlength, htake, rfl⟩ := ih hrest
    obtain ⟨hk, hget⟩ := List.getElem?_eq_some_iff.mp hinfo
    refine ⟨info :: infos, by rw [List.length_cons, hlength, List.length_cons], ?_, rfl⟩
    rw [List.drop_eq_getElem_cons hk, hget, List.length_cons, List.take_succ_cons, htake, List.map_cons]

/-- What a collected snapshot comes from. -/
structure Collected (host : Host) (formats : AddressFormats) (sha256 : List UInt8 → Vector UInt8 32)
    (connection : Connection) (requested : List SolanaContextAccountRequest) (response : AccountsResponse)
    (infos : List AccountInfo) (snapshot : SolanaCommonContextSnapshot) : Prop where
  answered : ∃ before, connection.getSlotBefore = .ok before ∧
    connection.getMultipleAccountsInfoAndContext (requested.map (·.address)) before = .ok response
  present : response.value = infos.map some
  length_eq : infos.length = requested.length
  nodup : (requested.map fun item => formats.toBase58 item.address).Nodup
  values_eq : snapshot.values = (requested.zip infos).map fun pair => (formats.toBase58 pair.1.address, pair.2)
  accounts_eq : snapshot.evidence.accounts =
    (requested.zip infos).map fun pair => accountEvidence host formats sha256 pair.1 pair.2
  model_eq : snapshot.evidence.model = "COMMON_CONTEXT_STRONG"
  commitment_eq : snapshot.evidence.commitment = "finalized"
  positive : 0 < snapshot.evidence.finalizedSlotBefore
  ordered : snapshot.evidence.finalizedSlotBefore ≤ snapshot.evidence.contextSlot ∧
    snapshot.evidence.contextSlot ≤ snapshot.evidence.finalizedSlotAfter
  base58 : isBase58 snapshot.evidence.blockhash = true

theorem collected_of_ok {connection : Connection} {snapshot : SolanaCommonContextSnapshot}
    (h : collectSolanaCommonContext host formats sha256 connection requested = .ok snapshot) :
    ∃ response infos, Collected host formats sha256 connection requested response infos snapshot := by
  simp only [collectSolanaCommonContext, bind_eq_ok] at h
  obtain ⟨byAddress, hregister, _, _, slotBefore, hbefore, response, hresponse, slotAfter, _, block?, _, _, hvalid,
    block, hblock, bound, hbound, context, hcontext, before, hbefore', after, hafter', _, _, h⟩ := h
  cases h
  obtain ⟨rfl, hnodup⟩ := registered hregister List.nodup_nil
  simp only [List.nil_append, List.map_map, Function.comp_def, List.map_id_fun', id_eq]
    at hnodup hresponse hvalid hbound
  obtain ⟨b, c, a, blockhash, he⟩ := enveloped_of_ok hvalid
  obtain ⟨infos, hlength, htake, rfl⟩ := bound_accounts hbound
  have hcount : response.value.length = requested.length := he.returned
  rw [List.drop_zero, List.take_of_length_le (le_of_eq hcount)] at htake
  obtain rfl : b = before := bigInt_eq he.before_eq hbefore'
  obtain rfl : c = context := bigInt_eq he.context_eq hcontext
  obtain rfl : a = after := bigInt_eq he.after_eq hafter'
  obtain rfl : block.blockhash = blockhash := by
    have hhash := he.blockhash_eq
    simp only [ofOption_eq_ok.mp hblock, Option.map_some, Option.some.injEq] at hhash
    exact hhash
  refine ⟨response, infos, ⟨⟨slotBefore, hbefore, hresponse⟩, htake, hlength, hnodup, ?_, ?_, rfl, rfl, he.positive,
    he.ordered, he.base58⟩⟩
  · exact List.map_map
  · exact List.map_map

variable {connection : Connection} {response : AccountsResponse} {infos : List AccountInfo}
variable {snapshot : SolanaCommonContextSnapshot}

theorem Collected.keys (h : Collected host formats sha256 connection requested response infos snapshot) :
    (snapshot.values.map Prod.fst).Nodup := by
  have hzip : (requested.zip infos).map Prod.fst = requested := List.map_fst_zip h.length_eq.ge
  have hkeys : snapshot.values.map Prod.fst = requested.map fun item => formats.toBase58 item.address := by
    conv_rhs => rw [← hzip]
    rw [h.values_eq, List.map_map, List.map_map]
    rfl
  rw [hkeys]
  exact h.nodup

theorem Collected.account_iff (h : Collected host formats sha256 connection requested response infos snapshot)
    {address : Pubkey} {info : AccountInfo} :
    snapshot.account formats address = .ok info ↔ ∃ i : Nat, (requested.map (·.address))[i]? = some address ∧
      response.value[i]? = some (some info) := by
  rw [SolanaCommonContextSnapshot.account, ofOption_eq_ok, Library.Matching.lookup_eq_some h.keys, h.values_eq,
    h.present, List.mem_map]
  constructor
  · rintro ⟨⟨item, info'⟩, hmem, heq⟩
    obtain ⟨haddress, rfl⟩ := Prod.mk.inj heq
    obtain ⟨i, hi⟩ := List.mem_iff_getElem?.mp hmem
    obtain ⟨hitem, hinfo⟩ := List.getElem?_zip_eq_some.mp hi
    refine ⟨i, ?_, ?_⟩
    · rw [List.getElem?_map, hitem, Option.map_some, toBase58_injective haddress]
    · rw [List.getElem?_map, hinfo, Option.map_some]
  · rintro ⟨i, haddress, hinfo⟩
    rw [List.getElem?_map, Option.map_eq_some_iff] at haddress hinfo
    obtain ⟨item, hitem, rfl⟩ := haddress
    obtain ⟨info', hinfo, heq⟩ := hinfo
    cases heq
    exact ⟨(item, info), List.mem_iff_getElem?.mpr ⟨i, List.getElem?_zip_eq_some.mpr ⟨hitem, hinfo⟩⟩, rfl⟩

theorem Collected.answers_iff (h : Collected host formats sha256 connection requested response infos snapshot)
    {address : Pubkey} :
    (∃ info, snapshot.account formats address = .ok info) ↔ address ∈ requested.map (·.address) := by
  rw [List.mem_iff_getElem?]
  constructor
  · rintro ⟨info, ha⟩
    obtain ⟨i, haddress, _⟩ := h.account_iff.mp ha
    exact ⟨i, haddress⟩
  · rintro ⟨i, haddress⟩
    obtain ⟨hi, _⟩ := List.getElem?_eq_some_iff.mp haddress
    rw [List.length_map, ← h.length_eq] at hi
    refine ⟨infos[i], h.account_iff.mpr ⟨i, haddress, ?_⟩⟩
    rw [h.present, List.getElem?_map, List.getElem?_eq_getElem hi, Option.map_some]

theorem Collected.shown (h : Collected host formats sha256 connection requested response infos snapshot)
    {address : Pubkey} {info : AccountInfo} (ha : snapshot.account formats address = .ok info) :
    ∃ label, ⟨label, address⟩ ∈ requested ∧
      accountEvidence host formats sha256 ⟨label, address⟩ info ∈ snapshot.evidence.accounts := by
  obtain ⟨i, haddress, hinfo⟩ := h.account_iff.mp ha
  rw [h.present] at hinfo
  rw [List.getElem?_map, Option.map_eq_some_iff] at haddress hinfo
  obtain ⟨item, hitem, rfl⟩ := haddress
  obtain ⟨info', hinfo, heq⟩ := hinfo
  cases heq
  refine ⟨item.label, List.mem_of_getElem? hitem, ?_⟩
  rw [h.accounts_eq]
  exact List.mem_map.mpr ⟨(item, info),
    List.mem_iff_getElem?.mpr ⟨i, List.getElem?_zip_eq_some.mpr ⟨hitem, hinfo⟩⟩, rfl⟩

theorem Collected.listed (h : Collected host formats sha256 connection requested response infos snapshot) {β : Type}
    (f : SolanaContextAccountEvidence → β) (g : SolanaContextAccountRequest → β)
    (hf : ∀ item info, f (accountEvidence host formats sha256 item info) = g item) :
    snapshot.evidence.accounts.map f = requested.map g := by
  have hzip : (requested.zip infos).map Prod.fst = requested := List.map_fst_zip h.length_eq.ge
  calc snapshot.evidence.accounts.map f
      = (requested.zip infos).map fun pair => f (accountEvidence host formats sha256 pair.1 pair.2) := by
        rw [h.accounts_eq, List.map_map]
        rfl
    _ = (requested.zip infos).map fun pair => g pair.1 := by simp only [hf]
    _ = ((requested.zip infos).map Prod.fst).map g := by rw [List.map_map]; rfl
    _ = requested.map g := by rw [hzip]

theorem Collected.addresses_nodup
    (h : Collected host formats sha256 connection requested response infos snapshot) :
    (snapshot.evidence.accounts.map (·.address)).Nodup := by
  rw [h.listed _ (fun item => formats.toBase58 item.address) fun _ _ => rfl]
  exact h.nodup

theorem Collected.validated_iff (h : Collected host formats sha256 connection requested response infos snapshot) :
    validateSolanaContextEvidence snapshot.evidence.toContext = .ok () ↔
      requiredAccounts ⊆ requested.map (·.label) := by
  have haddresses : snapshot.evidence.toContext.accounts.map ContextAccount.address =
      snapshot.evidence.accounts.map (·.address) := List.map_map
  have hlabels : snapshot.evidence.toContext.accounts.map ContextAccount.label = requested.map (·.label) := by
    rw [← h.listed (·.label) (·.label) fun _ _ => rfl]
    exact List.map_map
  have hhash : ∀ a ∈ snapshot.evidence.toContext.accounts, isHash32 a.accountSha256 = true := by
    intro a ha
    rw [SolanaCommonContextEvidence.toContext, h.accounts_eq, List.map_map, List.mem_map] at ha
    obtain ⟨pair, _, rfl⟩ := ha
    exact isHash32_of_lower (hexDigest_lower _)
  have hvisit := foldlM_visitAccount ([], requiredAccounts) hhash (fun _ _ => List.not_mem_nil)
    (haddresses ▸ h.addresses_nodup)
  have hrequired : requiredAccounts.Nodup := by decide
  rw [hlabels] at hvisit
  have hempty : (requiredAccounts.diff (requested.map (·.label))).length = 0 ↔
      requiredAccounts ⊆ requested.map (·.label) := by
    rw [List.length_eq_zero_iff, List.eq_nil_iff_forall_not_mem]
    simp only [hrequired.mem_sdiff_iff, not_and, not_not]
    rfl
  obtain ⟨hle, hle'⟩ := h.ordered
  have hpositive := h.positive
  rw [← hempty]
  simp only [validateSolanaContextEvidence, hvisit, bind_eq_ok, require_eq_ok, decide_eq_true_eq]
  constructor
  · rintro ⟨_, _, _, _, _, _, visited, hvisited, hlength⟩
    cases hvisited
    exact hlength
  · intro hlength
    have hcontext := lt_of_lt_of_le hpositive hle
    exact ⟨(), ⟨h.model_eq, h.commitment_eq⟩, (), ⟨hcontext, hpositive, lt_of_lt_of_le hcontext hle', hle, hle'⟩,
      (), h.base58, _, rfl, hlength⟩

end Accounts

section Production

variable {host : Host} {formats : AddressFormats} {sha256 : List UInt8 → Vector UInt8 32}

/-- The addresses that are derived for a store, and the pinned message library. -/
structure LayerZeroAddresses where
  peer : Pubkey
  oappRegistry : Pubkey
  sendLibraryConfig : Pubkey
  defaultSendLibraryConfig : Pubkey
  receiveLibraryConfig : Pubkey
  defaultReceiveLibraryConfig : Pubkey
  messageLib : Pubkey
  sendConfig : Pubkey
  receiveConfig : Pubkey

def solanaLayerZeroContextAccounts (derived : LayerZeroAddresses) : List SolanaContextAccountRequest :=
  [⟨"OFT peer config", derived.peer⟩, ⟨"Endpoint OApp registry", derived.oappRegistry⟩,
    ⟨"Endpoint app send-library config", derived.sendLibraryConfig⟩,
    ⟨"Endpoint default send-library config", derived.defaultSendLibraryConfig⟩,
    ⟨"Endpoint app receive-library config", derived.receiveLibraryConfig⟩,
    ⟨"Endpoint default receive-library config", derived.defaultReceiveLibraryConfig⟩,
    ⟨"ULN message-library PDA", derived.messageLib⟩, ⟨"ULN custom send config", derived.sendConfig⟩,
    ⟨"ULN custom receive config", derived.receiveConfig⟩]

structure ProductionAddresses where
  store : Pubkey
  mint : Pubkey
  escrow : Pubkey
  program : Pubkey
  programData : Pubkey
  endpointProgram : Pubkey
  endpointProgramData : Pubkey
  ulnProgram : Pubkey
  ulnProgramData : Pubkey

/-- The accounts that the production observation asks for. -/
def productionContextAccounts (addresses : ProductionAddresses) (derived : LayerZeroAddresses) :
    List SolanaContextAccountRequest :=
  [⟨"OFT Store", addresses.store⟩, ⟨"canonical SAN mint", addresses.mint⟩,
    ⟨"SAN escrow token account", addresses.escrow⟩, ⟨"production OFT program", addresses.program⟩,
    ⟨"production OFT ProgramData", addresses.programData⟩, ⟨"LayerZero Endpoint program", addresses.endpointProgram⟩,
    ⟨"LayerZero Endpoint ProgramData", addresses.endpointProgramData⟩,
    ⟨"LayerZero ULN302 program", addresses.ulnProgram⟩,
    ⟨"LayerZero ULN302 ProgramData", addresses.ulnProgramData⟩] ++ solanaLayerZeroContextAccounts derived

theorem productionContextAccounts_cover (addresses : ProductionAddresses) (derived : LayerZeroAddresses) :
    requiredAccounts ⊆ (productionContextAccounts addresses derived).map (·.label) := by
  intro label h
  simp only [requiredAccounts, List.mem_cons, List.not_mem_nil, or_false] at h
  simp only [productionContextAccounts, solanaLayerZeroContextAccounts, List.cons_append, List.nil_append,
    List.map_cons, List.map_nil, List.mem_cons, List.not_mem_nil, or_false]
  tauto

/-- The evidence that the production requests collect passes the production policy,
whatever the node answers. -/
theorem production_snapshot_validated {connection : Connection} {snapshot : SolanaCommonContextSnapshot}
    {addresses : ProductionAddresses} {derived : LayerZeroAddresses}
    (h : collectSolanaCommonContext host formats sha256 connection (productionContextAccounts addresses derived) =
      .ok snapshot) : validateSolanaContextEvidence snapshot.evidence.toContext = .ok () := by
  obtain ⟨_, _, hc⟩ := collected_of_ok h
  apply hc.validated_iff.mpr
  exact productionContextAccounts_cover addresses derived

/-- Whatever the node answers: the production policy accepts the evidence if and only
if every account it requires was requested, and the snapshot answers for exactly the
requested addresses, each with the account in its place, which the evidence shows. -/
theorem snapshot_binds {connection : Connection} {requested : List SolanaContextAccountRequest}
    {snapshot : SolanaCommonContextSnapshot}
    (h : collectSolanaCommonContext host formats sha256 connection requested = .ok snapshot) :
    (validateSolanaContextEvidence snapshot.evidence.toContext = .ok () ↔
      requiredAccounts ⊆ requested.map (·.label)) ∧
    (∃ before response, connection.getSlotBefore = .ok before ∧
      connection.getMultipleAccountsInfoAndContext (requested.map (·.address)) before = .ok response ∧
      ∀ address info, snapshot.account formats address = .ok info ↔
        ∃ i : Nat, (requested.map (·.address))[i]? = some address ∧ response.value[i]? = some (some info)) ∧
    (∀ address, (∃ info, snapshot.account formats address = .ok info) ↔ address ∈ requested.map (·.address)) ∧
    (snapshot.evidence.accounts.map (·.address)).Nodup ∧
    ∀ address info, snapshot.account formats address = .ok info →
      ∃ label, ⟨label, address⟩ ∈ requested ∧
        accountEvidence host formats sha256 ⟨label, address⟩ info ∈ snapshot.evidence.accounts := by
  obtain ⟨response, infos, hc⟩ := collected_of_ok h
  obtain ⟨before, hbefore, hresponse⟩ := hc.answered
  exact ⟨hc.validated_iff, ⟨before, response, hbefore, hresponse, fun _ _ => hc.account_iff⟩,
    fun _ => hc.answers_iff, hc.addresses_nodup, fun _ _ ha => hc.shown ha⟩

end Production

section Sample

def sampleAddresses : ProductionAddresses :=
  ⟨pubkey 1, pubkey 2, pubkey 3, pubkey 4, pubkey 5, pubkey 6, pubkey 7, pubkey 8, pubkey 9⟩

def sampleDerived : LayerZeroAddresses :=
  ⟨pubkey 11, pubkey 12, pubkey 13, pubkey 14, pubkey 15, pubkey 16, pubkey 17, pubkey 18, pubkey 19⟩

/-- A node on which every account is an empty one of its own. -/
def sampleConnection : Connection where
  getSlotBefore := .ok (.finite 100)
  getMultipleAccountsInfoAndContext keys _ :=
    .ok ⟨.finite 101, keys.map fun key => some ⟨key, false, .finite 1, none, []⟩⟩
  getSlotAfter := .ok (.finite 102)
  getBlock _ := .ok (some ⟨"9myHzfqs", .finite 100⟩)

def sampleDigest : List UInt8 → Vector UInt8 32 := fun _ => Vector.replicate 32 0

def sampleHost : Host := plainHost (Vector.replicate 32 0)

theorem snapshot_binds_sample : ∃ snapshot,
    collectSolanaCommonContext sampleHost sampleFormats sampleDigest sampleConnection
      (productionContextAccounts sampleAddresses sampleDerived) = .ok snapshot ∧
    validateSolanaContextEvidence snapshot.evidence.toContext = .ok () ∧
    ∃ info, snapshot.account sampleFormats (pubkey 3) = .ok info := by
  have hsome : (collectSolanaCommonContext sampleHost sampleFormats sampleDigest sampleConnection
      (productionContextAccounts sampleAddresses sampleDerived)).toOption.isSome = true := by decide +kernel
  obtain ⟨snapshot, h⟩ := Option.isSome_iff_exists.mp hsome
  rw [toOption_eq_some] at h
  obtain ⟨hvalid, _, hanswers, _⟩ := snapshot_binds h
  refine ⟨snapshot, h, hvalid.mpr (productionContextAccounts_cover _ _), (hanswers _).mpr ?_⟩
  simp [productionContextAccounts, sampleAddresses]

end Sample

end SanBridge.Tooling.CommonContext
