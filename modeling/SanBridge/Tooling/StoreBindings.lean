import SanBridge.Solana.Isolation
import SanBridge.Tooling.Backing

namespace SanBridge.Tooling.StoreBindings

open Library.Checked Library.Runs Tooling.Runtime Tooling.Policy Tooling.Checker Tooling.Backing
open Solana.Runtime Solana.State Solana.Instructions
open Solana.Custody (donatedStore)
open Solana.Endpoint (EscrowSpared reachable_spared sameIdentity_run)
open Solana.Isolation (OpenAction OpenStep run_before run_of_store storeStep)
open Solana.Program (Initial Reachable pubkey sampleMint sampleOapp sampleSpace sampleStore)
open Solana.Tenants (Stores)

variable (formats : AddressFormats) (space : AddressSpace)

section Check

def publicKey (value : String) : Tooling.Runtime.Result Pubkey :=
  ofOption "Invalid public key input" (formats.publicKey (some (.str value)))

/-- `space` holds the addresses derived from the production program. -/
def requireOftStoreAssetBindings (oftStoreAddress storeTokenMint storeTokenEscrow approvedEscrow : String) :
    Tooling.Runtime.Result Unit := do
  let storeAddress ← publicKey formats oftStoreAddress
  let tokenMint ← publicKey formats storeTokenMint
  let tokenEscrow ← publicKey formats storeTokenEscrow
  let approvedEscrowAddress ← publicKey formats approvedEscrow
  let canonicalMint ← publicKey formats canonicalSanMint
  require "Solana OFT Store token mint is not canonical SAN" (tokenMint = canonicalMint)
  require "Solana OFT Store token escrow differs from the approved escrow" (tokenEscrow = approvedEscrowAddress)
  let derivedStore := (space.findProgramAddress [oftSeed, approvedEscrowAddress.toList]).1
  require "Solana OFT Store is not the production PDA derived from the approved escrow"
    (storeAddress = derivedStore)

def Accepts (approvedEscrow : String) (storeAddress : Pubkey) (store : OFTStore) : Prop :=
  requireOftStoreAssetBindings formats space (formats.toBase58 storeAddress) (formats.toBase58 store.tokenMint)
    (formats.toBase58 store.tokenEscrow) approvedEscrow = .ok ()

variable {formats space} {approvedEscrow : String} {storeAddress : Pubkey} {store : OFTStore}

theorem accepts_iff : Accepts formats space approvedEscrow storeAddress store ↔
    formats.publicKey (some (.str canonicalSanMint)) = some store.tokenMint ∧
    formats.publicKey (some (.str approvedEscrow)) = some store.tokenEscrow ∧
    storeAddress = (space.findProgramAddress [oftSeed, store.tokenEscrow.toList]).1 := by
  simp only [Accepts, requireOftStoreAssetBindings, publicKey, formats.publicKey_toBase58, bind_eq_ok,
    ofOption_eq_ok, require_eq_ok, decide_eq_true_eq, Option.some.injEq]
  constructor
  · rintro ⟨_, rfl, _, rfl, _, rfl, approved, happroved, mint, hmint, _, rfl, _, rfl, hkey⟩
    exact ⟨hmint, happroved, hkey⟩
  · rintro ⟨hmint, happroved, hkey⟩
    exact ⟨_, rfl, _, rfl, _, rfl, _, happroved, _, hmint, (), rfl, (), rfl, hkey⟩

end Check

section Stores

variable {formats space} {stores stores' : Stores} {key : Pubkey} {s : StoreState} {approvedEscrow : String}

theorem initial_derived (h : Initial space s) :
    s.key = (space.findProgramAddress [oftSeed, s.store.tokenEscrow.toList]).1 := by
  obtain ⟨oapp, tokenMint, tokenEscrow, m, t, clock, params, h⟩ := h
  obtain ⟨_, _, h⟩ := bind_eq_ok.mp h
  obtain ⟨_, _, h⟩ := bind_eq_ok.mp h
  obtain ⟨_, _, h⟩ := bind_eq_ok.mp h
  obtain ⟨_, _, h⟩ := bind_eq_ok.mp h
  obtain ⟨_, _, h⟩ := bind_eq_ok.mp h
  cases h
  rfl

/-- A store that the program keeps: its address is derived from its escrow, and it came from
`init_oft`, with an escrow that its endpoint program has spared or not. -/
structure Kept (space : AddressSpace) (key : Pubkey) (tr : List (Stores × OpenAction)) (s : StoreState) : Prop where
  reachable : EscrowSpared (tr.filterMap (storeStep key)) → Reachable space s
  derived : key = (space.findProgramAddress [oftSeed, s.store.tokenEscrow.toList]).1

theorem kept_run {tr : List (Stores × OpenAction)} (hr : Run (OpenStep space) Stores.empty tr stores)
    (hs : stores key = some s) : Kept space key tr s := by
  obtain ⟨s₀, hi, rfl, hrun⟩ := run_before hr rfl hs
  have hid := sameIdentity_run hrun
  constructor
  · exact reachable_spared hi hrun
  · rw [hid.tokenEscrow]
    exact initial_derived hi

/-- No instruction removes a store or changes what it is bound to. -/
theorem run_bound {tr : List (Stores × OpenAction)} (hr : Run (OpenStep space) stores tr stores')
    (hs : stores key = some s) :
    ∃ s', stores' key = some s' ∧ s'.store.tokenMint = s.store.tokenMint ∧
      s'.store.tokenEscrow = s.store.tokenEscrow := by
  obtain ⟨s', hs', hrun⟩ := run_of_store hr hs
  have hid := sameIdentity_run hrun
  exact ⟨s', hs', hid.tokenMint, hid.tokenEscrow⟩

/-- The store that the checker accepts stays the accepted one and is the only store of the
program over the approved escrow. The check does not read which endpoint program the store
names, so this has custody of what it holds only where that program spares the escrow. -/
theorem accepted_store_bound {tr : List (Stores × OpenAction)}
    (hr : Run (OpenStep space) Stores.empty tr stores) (hs : stores key = some s) :
    (Accepts formats space approvedEscrow key s.store ↔
      formats.publicKey (some (.str canonicalSanMint)) = some s.store.tokenMint ∧
      formats.publicKey (some (.str approvedEscrow)) = some s.store.tokenEscrow) ∧
    (Accepts formats space approvedEscrow key s.store → ∀ tr' stores',
      Run (OpenStep space) stores tr' stores' →
        (∃ s', stores' key = some s' ∧ Accepts formats space approvedEscrow key s'.store ∧
          (EscrowSpared ((tr ++ tr').filterMap (storeStep key)) → Solana.Custody.Invariant space s')) ∧
        ∀ key' t, stores' key' = some t → formats.publicKey (some (.str approvedEscrow)) = some t.store.tokenEscrow →
          key' = key) := by
  have hk := kept_run hr hs
  have hiff : Accepts formats space approvedEscrow key s.store ↔
      formats.publicKey (some (.str canonicalSanMint)) = some s.store.tokenMint ∧
      formats.publicKey (some (.str approvedEscrow)) = some s.store.tokenEscrow := by
    rw [accepts_iff]
    exact ⟨fun h => ⟨h.1, h.2.1⟩, fun h => ⟨h.1, h.2, hk.derived⟩⟩
  refine ⟨hiff, fun ha tr' stores' hr' => ?_⟩
  obtain ⟨hmint, hescrow⟩ := hiff.mp ha
  constructor
  · obtain ⟨s', hs', hmint', hescrow'⟩ := run_bound hr' hs
    have hkept := kept_run (hr.append hr') hs'
    refine ⟨s', hs', accepts_iff.mpr ⟨?_, ?_, hkept.derived⟩,
      fun hspared => Solana.Custody.invariant_reachable (hkept.reachable hspared)⟩
    · rw [hmint, hmint']
    · rw [hescrow, hescrow']
  · intro key' t ht hsame
    have hkept := kept_run (hr.append hr') ht
    have he : t.store.tokenEscrow = s.store.tokenEscrow := Option.some.inj (hsame.symm.trans hescrow)
    calc key' = (space.findProgramAddress [oftSeed, t.store.tokenEscrow.toList]).1 := hkept.derived
      _ = (space.findProgramAddress [oftSeed, s.store.tokenEscrow.toList]).1 := by rw [he]
      _ = key := hk.derived.symm

end Stores

section Sample

def canonicalMint : Pubkey := (sampleFormats.publicKey (some (.str canonicalSanMint))).getD (pubkey 0)

theorem sampleFormats_canonicalMint :
    sampleFormats.publicKey (some (.str canonicalSanMint)) = some canonicalMint := by
  obtain ⟨key, hkey⟩ := Option.isSome_iff_exists.mp (production_known _ List.mem_cons_self)
  rw [canonicalMint, hkey, Option.getD_some]

def boundStore : StoreState :=
  { sampleStore with store := { sampleStore.store with tokenMint := canonicalMint } }

theorem initial_boundStore : Initial sampleSpace boundStore :=
  ⟨sampleOapp, canonicalMint, pubkey 3, sampleMint,
    ⟨fun key => if key = pubkey 5 then 1000 else 0,
      fun key => if key = pubkey 5 then some (pubkey 6) else none⟩,
    ⟨0, 0⟩, ⟨.adapter, pubkey 4, 6, none⟩, rfl⟩

def boundStores : Stores := Function.update Stores.empty boundStore.key (some boundStore)

/-- The store is accepted, and it is accepted and backed after five tokens have been donated to it. -/
theorem accepted_store_bound_sample :
    Accepts sampleFormats sampleSpace (sampleFormats.toBase58 boundStore.store.tokenEscrow) boundStore.key
        boundStore.store ∧
      Solana.Custody.Invariant sampleSpace { boundStore with tokens := donatedStore.tokens } := by
  have hcreated : OpenStep sampleSpace Stores.empty (.program (.initOft boundStore.key)) boundStores :=
    .program (.initOft initial_boundStore rfl)
  have hdonated : OpenStep sampleSpace boundStores (.program (.store boundStore.key (.tokens donatedStore.tokens)))
      (Function.update boundStores boundStore.key (some { boundStore with tokens := donatedStore.tokens })) :=
    .program (.store (s := boundStore) rfl (.tokens _ (by decide) rfl))
  obtain ⟨hiff, hlater⟩ := @accepted_store_bound sampleFormats sampleSpace _ _ _
    (sampleFormats.toBase58 boundStore.store.tokenEscrow) _ (Run.single hcreated)
    (Function.update_self boundStore.key _ _)
  have haccepts := hiff.mpr ⟨sampleFormats_canonicalMint, sampleFormats.publicKey_toBase58 _⟩
  obtain ⟨⟨s, hs, _, hbacked⟩, _⟩ := hlater haccepts _ _ (Run.single hdonated)
  rw [Function.update_self, Option.some.injEq] at hs
  subst hs
  exact ⟨haccepts, hbacked (List.forall_mem_singleton.mpr trivial)⟩

end Sample

end SanBridge.Tooling.StoreBindings
