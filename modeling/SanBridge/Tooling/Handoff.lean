import SanBridge.Tooling.Checker

namespace SanBridge.Tooling.Handoff

open Library.Checked Tooling.Runtime Tooling.Policy Tooling.Checker
open Solana.Runtime (Pubkey)

structure AuthorityRoles where
  solanaUpgradeAuthority : String
  solanaStoreAdmin : String
  solanaDelegate : String
  robinhoodOwner : String
  robinhoodDelegate : String

structure AuthorityHandoffTargets extends AuthorityRoles where
  bootstrapSolanaAuthority : String
  bootstrapRobinhoodAuthority : String

structure HandoffStep where
  order : Nat
  action : String
  verify : String

structure Role where
  name : String
  read : AuthorityRoles → String

def solanaRoles : List Role :=
  [⟨"solanaUpgradeAuthority", (·.solanaUpgradeAuthority)⟩, ⟨"solanaStoreAdmin", (·.solanaStoreAdmin)⟩,
    ⟨"solanaDelegate", (·.solanaDelegate)⟩]

def robinhoodRoles : List Role :=
  [⟨"robinhoodOwner", (·.robinhoodOwner)⟩, ⟨"robinhoodDelegate", (·.robinhoodDelegate)⟩]

section Functions

variable (host : Host) (formats : AddressFormats)

/-- `Object.entries`, in the order of the interface. -/
def AuthorityHandoffTargets.entries (targets : AuthorityHandoffTargets) : List (String × String) :=
  [("bootstrapSolanaAuthority", targets.bootstrapSolanaAuthority),
    ("bootstrapRobinhoodAuthority", targets.bootstrapRobinhoodAuthority),
    ("solanaUpgradeAuthority", targets.solanaUpgradeAuthority), ("solanaStoreAdmin", targets.solanaStoreAdmin),
    ("solanaDelegate", targets.solanaDelegate), ("robinhoodOwner", targets.robinhoodOwner),
    ("robinhoodDelegate", targets.robinhoodDelegate)]

def buildAuthorityHandoffSimulation (targets : AuthorityHandoffTargets) : Result (List HandoffStep) := do
  (targets.entries.filter fun entry => startsWith entry.1 "solana").forM fun entry =>
    requireSolanaAddress formats entry.2 entry.1
  requireSolanaAddress formats targets.bootstrapSolanaAuthority "bootstrapSolanaAuthority"
  (targets.entries.filter fun entry => startsWith entry.1 "robinhood" ∨ entry.1 = "bootstrapRobinhoodAuthority").forM
    fun entry => requireEvmAddress formats entry.2 entry.1
  .ok [⟨1, "set Solana Endpoint delegate", "read Endpoint OApp delegate"⟩,
    ⟨2, "set Solana OFT Store admin", "read OFTStore.admin and reject bootstrap signer"⟩,
    ⟨3, "set Solana program upgrade authority", "read upgradeable-loader program data"⟩,
    ⟨4, "set Robinhood Endpoint delegate", "read EndpointV2.delegates(SanOFT)"⟩,
    ⟨5, "transfer Robinhood ownership", "read SanOFT.owner and reject bootstrap signer"⟩]

/-- One round of the loops that compare accounts; `parse` is `new PublicKey` or `getAddress`. -/
def readBack {α : Type} [DecidableEq α] (parse : Value → Result α) (actual expected : AuthorityRoles) (role : Role) :
    Result Unit := do
  let observed ← parse (some (.str (role.read actual)))
  let wanted ← parse (some (.str (role.read expected)))
  require (role.name ++ " read-back differs") (observed = wanted)

def publicKey (value : Value) : Result Pubkey := ofOption "Invalid public key input" (formats.publicKey value)

def verifyAuthorityHandoffReadback (actual : AuthorityRoles) (expected : AuthorityHandoffTargets) : Result Unit := do
  solanaRoles.forM (readBack (publicKey formats) actual expected.toAuthorityRoles)
  robinhoodRoles.forM (readBack (getAddress formats) actual expected.toAuthorityRoles)
  -- from here on it is the texts that are compared
  solanaRoles.forM fun role =>
    require (role.name ++ " unexpectedly remains deployer") (role.read actual ≠ expected.bootstrapSolanaAuthority)
  robinhoodRoles.forM fun role =>
    require (role.name ++ " unexpectedly remains deployer")
      (host.toLowerCase (role.read actual) ≠ host.toLowerCase expected.bootstrapRobinhoodAuthority)

end Functions

section Deployer

variable {host : Host} {formats : AddressFormats} {α : Type}

def SameAccount (parse : Value → Option α) (v w : String) : Prop :=
  ∃ account, parse (some (.str v)) = some account ∧ parse (some (.str w)) = some account

structure HandedOver (formats : AddressFormats) (actual expected : AuthorityRoles) : Prop where
  solana : ∀ role ∈ solanaRoles, SameAccount formats.publicKey (role.read actual) (role.read expected)
  robinhood : ∀ role ∈ robinhoodRoles, SameAccount formats.getAddress (role.read actual) (role.read expected)

structure DeployerGone (formats : AddressFormats) (actual : AuthorityRoles) (expected : AuthorityHandoffTargets) :
    Prop where
  solana : ∀ role ∈ solanaRoles,
    ¬ SameAccount formats.publicKey (role.read actual) expected.bootstrapSolanaAuthority
  robinhood : ∀ role ∈ robinhoodRoles,
    ¬ SameAccount formats.getAddress (role.read actual) expected.bootstrapRobinhoodAuthority

/-- No role is spelled like the deployer. -/
structure DeployerUnspelled (host : Host) (actual : AuthorityRoles) (expected : AuthorityHandoffTargets) : Prop where
  solana : ∀ role ∈ solanaRoles, role.read actual ≠ expected.bootstrapSolanaAuthority
  robinhood : ∀ role ∈ robinhoodRoles,
    host.toLowerCase (role.read actual) ≠ host.toLowerCase expected.bootstrapRobinhoodAuthority

variable {actual : AuthorityRoles} {expected : AuthorityHandoffTargets}

theorem readBack_eq_ok [DecidableEq α] {parse : Value → Option α} {e : String} {targets : AuthorityRoles}
    {role : Role} :
    readBack (fun value => ofOption e (parse value)) actual targets role = .ok () ↔
    SameAccount parse (role.read actual) (role.read targets) := by
  simp only [readBack, bind_eq_ok, ofOption_eq_ok, require_eq_ok, decide_eq_true_eq, SameAccount]
  constructor
  · rintro ⟨account, hv, wanted, hw, rfl⟩
    exact ⟨account, hv, hw⟩
  · rintro ⟨account, hv, hw⟩
    exact ⟨account, hv, account, hw, rfl⟩

theorem verifyAuthorityHandoffReadback_eq_ok : verifyAuthorityHandoffReadback host formats actual expected = .ok () ↔
    HandedOver formats actual expected.toAuthorityRoles ∧ DeployerUnspelled host actual expected := by
  have hsolana : ∀ role, readBack (publicKey formats) actual expected.toAuthorityRoles role = .ok () ↔
      SameAccount formats.publicKey (role.read actual) (role.read expected.toAuthorityRoles) :=
    fun _ => readBack_eq_ok
  have hrobinhood : ∀ role, readBack (getAddress formats) actual expected.toAuthorityRoles role = .ok () ↔
      SameAccount formats.getAddress (role.read actual) (role.read expected.toAuthorityRoles) :=
    fun _ => readBack_eq_ok
  simp only [verifyAuthorityHandoffReadback, bind_eq_ok, forM_eq_ok, hsolana, hrobinhood, require_eq_ok,
    decide_eq_true_eq, exists_const]
  constructor
  · rintro ⟨hs, hr, hs', hr'⟩
    exact ⟨⟨hs, hr⟩, hs', hr'⟩
  · rintro ⟨handed, unspelled⟩
    exact ⟨handed.solana, handed.robinhood, unspelled.solana, unspelled.robinhood⟩

/-- A Robinhood role is with the deployer, whose address is written in another way than in
another letter case. -/
def DeployerRespelled (host : Host) (formats : AddressFormats) (actual : AuthorityRoles)
    (expected : AuthorityHandoffTargets) : Prop :=
  ∃ role ∈ robinhoodRoles, SameAccount formats.getAddress (role.read actual) expected.bootstrapRobinhoodAuthority ∧
    host.toLowerCase (role.read actual) ≠ host.toLowerCase expected.bootstrapRobinhoodAuthority

theorem not_deployerGone (h : DeployerRespelled host formats actual expected) :
    ¬ DeployerGone formats actual expected := by
  obtain ⟨role, hrole, hsame, _⟩ := h
  exact fun gone => gone.robinhood role hrole hsame

/-- On Solana a key has one text, so the text tells the deployer. -/
theorem DeployerUnspelled.gone (unspelled : DeployerUnspelled host actual expected)
    (hunique : ∀ s key, formats.publicKey (some (.str s)) = some key → formats.toBase58 key = s)
    (h : ¬ DeployerRespelled host formats actual expected) : DeployerGone formats actual expected where
  solana := by
    rintro role hrole ⟨key, hv, hw⟩
    have htext : role.read actual = expected.bootstrapSolanaAuthority :=
      (hunique _ key hv).symm.trans (hunique _ key hw)
    exact unspelled.solana role hrole htext
  robinhood role hrole hsame := h ⟨role, hrole, hsame, unspelled.robinhood role hrole⟩

/-- Read-back refuses the deployer where no Robinhood role respells its address; of the
accepted records the others are those that keep it. -/
theorem deployer_gone_unless_respelled
    (hunique : ∀ s key, formats.publicKey (some (.str s)) = some key → formats.toBase58 key = s) :
    (¬ DeployerRespelled host formats actual expected →
      verifyAuthorityHandoffReadback host formats actual expected = .ok () →
        HandedOver formats actual expected.toAuthorityRoles ∧ DeployerGone formats actual expected) ∧
    (verifyAuthorityHandoffReadback host formats actual expected = .ok () →
      (DeployerGone formats actual expected ↔ ¬ DeployerRespelled host formats actual expected)) := by
  rw [verifyAuthorityHandoffReadback_eq_ok]
  constructor
  · rintro hrespelled ⟨handed, unspelled⟩
    exact ⟨handed, unspelled.gone hunique hrespelled⟩
  · rintro ⟨_, unspelled⟩
    exact ⟨fun gone hrespelled => not_deployerGone hrespelled gone, unspelled.gone hunique⟩

end Deployer

section Sample

/-- Everything goes to one account of each chain, on Robinhood the deployer's. -/
def sampleTargets : AuthorityHandoffTargets where
  solanaUpgradeAuthority := "11111111111111111111111111111112"
  solanaStoreAdmin := "11111111111111111111111111111112"
  solanaDelegate := "11111111111111111111111111111112"
  robinhoodOwner := "0x2222222222222222222222222222222222222222"
  robinhoodDelegate := "0x2222222222222222222222222222222222222222"
  bootstrapSolanaAuthority := "11111111111111111111111111111113"
  bootstrapRobinhoodAuthority := "2222222222222222222222222222222222222222"

def sampleFormats : AddressFormats :=
  plainFormats [("2222222222222222222222222222222222222222", "0x2222222222222222222222222222222222222222")]

def sampleHost : Host := plainHost (Vector.replicate 32 0)

/-- The sample is accepted, and the owner is the deployer. -/
theorem sampleTargets_known :
    (buildAuthorityHandoffSimulation sampleFormats sampleTargets).toOption.isSome = true ∧
    (verifyAuthorityHandoffReadback sampleHost sampleFormats sampleTargets.toAuthorityRoles sampleTargets).toOption =
      some () ∧
    sampleFormats.getAddress (some (.str sampleTargets.robinhoodOwner)) = some sampleTargets.robinhoodOwner ∧
    sampleFormats.getAddress (some (.str sampleTargets.bootstrapRobinhoodAuthority)) =
      some sampleTargets.robinhoodOwner := by
  decide +kernel

theorem deployer_remains :
    (buildAuthorityHandoffSimulation sampleFormats sampleTargets).toOption.isSome = true ∧
    ¬ (verifyAuthorityHandoffReadback sampleHost sampleFormats sampleTargets.toAuthorityRoles sampleTargets = .ok () →
      HandedOver sampleFormats sampleTargets.toAuthorityRoles sampleTargets.toAuthorityRoles ∧
        DeployerGone sampleFormats sampleTargets.toAuthorityRoles sampleTargets) := by
  obtain ⟨hbuild, hverify, howner, hbootstrap⟩ := sampleTargets_known
  refine ⟨hbuild, fun h => ?_⟩
  have hok := toOption_eq_some.mp hverify
  exact (h hok).2.robinhood ⟨"robinhoodOwner", (·.robinhoodOwner)⟩ List.mem_cons_self ⟨_, howner, hbootstrap⟩

/-- With another deployer on Robinhood, and the owner read without its prefix. -/
def handedTargets : AuthorityHandoffTargets :=
  { sampleTargets with bootstrapRobinhoodAuthority := "0x3333333333333333333333333333333333333333" }

def handedRoles : AuthorityRoles :=
  { sampleTargets.toAuthorityRoles with robinhoodOwner := "2222222222222222222222222222222222222222" }

theorem handedTargets_known :
    (buildAuthorityHandoffSimulation sampleFormats handedTargets).toOption.isSome = true ∧
    (verifyAuthorityHandoffReadback sampleHost sampleFormats handedRoles handedTargets).toOption = some () ∧
    (∀ role ∈ robinhoodRoles,
      sampleFormats.getAddress (some (.str (role.read handedRoles))) ≠
        sampleFormats.getAddress (some (.str handedTargets.bootstrapRobinhoodAuthority))) := by
  decide +kernel

theorem deployer_gone_handed :
    (buildAuthorityHandoffSimulation sampleFormats handedTargets).toOption.isSome = true ∧
    HandedOver sampleFormats handedRoles handedTargets.toAuthorityRoles ∧
    DeployerGone sampleFormats handedRoles handedTargets := by
  obtain ⟨hbuild, hverify, hother⟩ := handedTargets_known
  have hrespelled : ¬ DeployerRespelled sampleHost sampleFormats handedRoles handedTargets := by
    rintro ⟨role, hrole, ⟨account, hv, hw⟩, _⟩
    exact hother role hrole (hv.trans hw.symm)
  have hok := toOption_eq_some.mp hverify
  exact ⟨hbuild, (deployer_gone_unless_respelled fun _ _ => plainFormats_spelling).1 hrespelled hok⟩

end Sample

end SanBridge.Tooling.Handoff
