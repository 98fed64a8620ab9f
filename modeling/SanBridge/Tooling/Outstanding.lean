import SanBridge.System.Ledgers
import SanBridge.Tooling.Correspondence
import SanBridge.Tooling.Reconciliation

namespace SanBridge.Tooling.Outstanding

open Library.Matching Library.Runs System.Bridge System.Channels System.Ledgers Tooling.Runtime Tooling.Inventory
open Tooling.Manifest Tooling.Acceptance Tooling.Building Tooling.Evidence Tooling.SolanaScan Tooling.Reconciliation
open Tooling.Correspondence

variable {host : Host}

/-- What the accounting of a manifest reads of a record. -/
abbrev Entry := InFlightDirection × String × Nat

def entryOfRecord (host : Host) (m : InFlightMessageEvidence) : Entry :=
  (m.direction, host.toLowerCase m.guid, rawAmount m)

def entryOfNotice (direction : InFlightDirection) (n : Notice) : Entry := (direction, hexText n.1.toList, n.2)

/-- The records tell the notices of the two directions, one each. -/
def Recounts (ms : List InFlightMessageEvidence) (toRobinhood toSolana : Multiset Notice) : Prop :=
  Multiset.Rel (fun m x => ∃ receiver, Tells m x.2.1.toList x.1 x.2.2 receiver) (ms : Multiset _)
    (toRobinhood.map (Prod.mk .solanaToRobinhood) + toSolana.map (Prod.mk .robinhoodToSolana))

def entries (toRobinhood toSolana : Multiset Notice) : Multiset Entry :=
  toRobinhood.map (entryOfNotice .solanaToRobinhood) + toSolana.map (entryOfNotice .robinhoodToSolana)

theorem entryOfRecord_tells {m : InFlightMessageEvidence} {guid receiver : Library.BigEndian.Bytes}
    {direction : InFlightDirection} {amount : Nat} (h : Tells m guid direction amount receiver) :
    entryOfRecord host m = (direction, hexText guid, amount) := by
  rw [entryOfRecord, rawAmount, h.direction, h.guid, toLowerCase_hexText, h.amountRaw, decimalValue_toString]

theorem Recounts.entries_eq {ms : List InFlightMessageEvidence} {toRobinhood toSolana : Multiset Notice}
    (h : Recounts ms toRobinhood toSolana) :
    ((ms.map (entryOfRecord host) : List Entry) : Multiset Entry) = entries toRobinhood toSolana := by
  have hrel := h.mono (r := _) (p := fun m x => entryOfRecord host m = entryOfNotice x.1 x.2) fun m _ x _ hx => by
    obtain ⟨receiver, ht⟩ := hx
    exact entryOfRecord_tells ht
  have heq := Multiset.rel_eq.mp (Multiset.rel_map.mpr hrel)
  rw [← Multiset.map_coe, heq, Multiset.map_add, Multiset.map_map, Multiset.map_map]
  rfl

def amountOf (direction : InFlightDirection) (e : Entry) : Nat := if e.1 = direction then e.2.2 else 0

theorem total_eq_entries (host : Host) (direction : InFlightDirection) (ms : List InFlightMessageEvidence) :
    Building.total direction ms =
      (((ms.map (entryOfRecord host) : List Entry) : Multiset Entry).map (amountOf direction)).sum := by
  rw [total_eq_sum, Multiset.map_coe, Multiset.sum_coe, List.map_map]
  rfl

theorem value_entries {toRobinhood toSolana : Multiset Notice} :
    ((entries toRobinhood toSolana).map (amountOf .solanaToRobinhood)).sum = value toRobinhood ∧
    ((entries toRobinhood toSolana).map (amountOf .robinhoodToSolana)).sum = value toSolana := by
  simp [entries, amountOf, entryOfNotice, value, Function.comp_def]

theorem Recounts.totals {ms : List InFlightMessageEvidence} {toRobinhood toSolana : Multiset Notice}
    (h : Recounts ms toRobinhood toSolana) : Building.total .solanaToRobinhood ms = value toRobinhood ∧
      Building.total .robinhoodToSolana ms = value toSolana := by
  rw [total_eq_entries (plainHost default), total_eq_entries (plainHost default), h.entries_eq]
  exact value_entries

theorem sum_singletons {S : Type} (f : S → Entry) (l : List S) :
    (l.map fun x => ({f x} : Multiset Entry)).sum = (l.map f : List Entry) := by
  have h := Multiset.sum_map_singleton (l.map f : Multiset Entry)
  rw [Multiset.map_coe, Multiset.sum_coe, List.map_map] at h
  exact h

section Published

variable {input : BuildManifestInput} {manifest : InFlightManifest} {inventory : InFlightInventory}

/-- The records of the sources are those of the destinations and those a manifest leaves outstanding. -/
theorem accounted (h : Published host input manifest inventory) :
    ((input.primary.sourceMessages.map (entryOfRecord host) : List Entry) : Multiset Entry) =
      (input.primary.destinationMessages.map (entryOfRecord host) : List Entry) +
        ((unsettled manifest.messages).map (entryOfRecord host) : List Entry) := by
  obtain ⟨o, hb, rfl⟩ := buildInFlightManifest_eq_ok.mp h.1
  have hmatched : ∀ s d, (s, some d) ∈ pairing host input.primary →
      ({entryOfRecord host s} : Multiset Entry) = {entryOfRecord host d} := by
    intro s d hp
    have hagrees : Agrees host s d := (hb.compatible _ hp).1
    obtain ⟨d', _, he⟩ := List.mem_map.mp (mem_of_consume hp)
    obtain ⟨hkey, rfl⟩ := Prod.mk.inj he
    have hguid : host.toLowerCase d'.guid = host.toLowerCase s.guid := hkey
    rw [entryOfRecord, entryOfRecord, rawAmount, rawAmount, hguid, hagrees.direction, hagrees.amountRaw]
  have hbal := consume_balance (sourceKey host) input.primary.sourceMessages hb.keys_nodup hmatched
  have hunsettled := (unsettled_messagesOf host input).map (entryOfRecord host)
  have hsettled : entryOfRecord host ∘ settle host input.layerZeroStatuses = entryOfRecord host ∘ Prod.fst := by
    funext p
    simp only [Function.comp_apply, entryOfRecord, rawAmount, settle_direction, settle_guid, settle_amountRaw]
  rw [List.map_map, hsettled] at hunsettled
  have hdestinations : weight (fun d => ({entryOfRecord host d} : Multiset Entry))
      (input.primary.destinationMessages.map (entryOf host)) =
        (input.primary.destinationMessages.map (entryOfRecord host) : List Entry) := by
    rw [weight, List.map_map]
    exact sum_singletons (entryOfRecord host) input.primary.destinationMessages
  rw [hb.consumed, sum_singletons, sum_singletons, unmatched, List.map_map, hdestinations] at hbal
  rw [messages_manifestOf, Multiset.coe_eq_coe.mpr hunsettled]
  simpa [weight, pairing] using hbal

/-- Records of distinct GUIDs do not pair a transfer with anything else, so what is
outstanding is what the two histories leave open. -/
theorem open_entries {sentToRobinhood sentToSolana receivedOnRobinhood receivedOnSolana openToRobinhood
      openToSolana : Multiset Notice} (h : Published host input manifest inventory)
    (hsources : Recounts input.primary.sourceMessages sentToRobinhood sentToSolana)
    (hdestinations : Recounts input.primary.destinationMessages receivedOnRobinhood receivedOnSolana)
    (hrobinhood : sentToRobinhood = receivedOnRobinhood + openToRobinhood)
    (hsolana : sentToSolana = receivedOnSolana + openToSolana) :
    (((unsettled manifest.messages).map (entryOfRecord host) : List Entry) : Multiset Entry) =
      entries openToRobinhood openToSolana := by
  have hacc := accounted h
  rw [hsources.entries_eq, hdestinations.entries_eq, hrobinhood, hsolana] at hacc
  rw [← add_right_inj, ← hacc, entries, entries, entries, Multiset.map_add, Multiset.map_add]
  abel

theorem outstanding_eq {openToRobinhood openToSolana : Multiset Notice}
    (h : Published host input manifest inventory)
    (he : (((unsettled manifest.messages).map (entryOfRecord host) : List Entry) : Multiset Entry) =
      entries openToRobinhood openToSolana) :
    inventory.solanaToRobinhoodRaw = value openToRobinhood ∧ inventory.robinhoodToSolanaRaw = value openToSolana ∧
      inventory.unresolvedPacketCount = openToRobinhood.card + openToSolana.card := by
  obtain ⟨hrobinhood, hsolana⟩ := @value_entries openToRobinhood openToSolana
  obtain ⟨_, _, rfl⟩ := h.accepted
  have hcard := congrArg Multiset.card he
  rw [Multiset.coe_card, List.length_map, entries, Multiset.card_add, Multiset.card_map, Multiset.card_map] at hcard
  refine ⟨?_, ?_, ?_⟩
  · rw [← hrobinhood, ← he, ← total_eq_entries host, ← outstanding_toJson]
    rfl
  · rw [← hsolana, ← he, ← total_eq_entries host, ← outstanding_toJson]
    rfl
  · rw [← hcard]
    change (undelivered _).length = _
    rw [undelivered_toJson, List.length_map]

end Published

section Audit

variable {w : Wiring} {s₀ s : State} {tr : List (State × Label)} {e : Events} {input : BuildManifestInput}
  {manifest : InFlightManifest} {inventory : InFlightInventory}

/-- A manifest built from the events of the two chains lists as undelivered the very
packets in flight, and its totals are what they carry. -/
theorem manifest_in_flight (hi : Initial w s₀) (h : Run (Step w) s₀ tr s) (hrate : s.solana.store.ld2sdRate = 1)
    (he : eventsOf 1 tr = e) (hp : Published host input manifest inventory)
    (hsources : Recounts input.primary.sourceMessages e.sentFromSolana e.sentFromRobinhood)
    (hdestinations : Recounts input.primary.destinationMessages e.receivedOnRobinhood e.receivedOnSolana) :
    (((unsettled manifest.messages).map (entryOfRecord host) : List Entry) : Multiset Entry) =
      entries (s.toRobinhood.map (notice 1)) (s.toSolana.map (notice 1)) ∧
    inventory.solanaToRobinhoodRaw = inFlight s.toRobinhood ∧
    inventory.robinhoodToSolanaRaw = inFlight s.toSolana ∧
    inventory.unresolvedPacketCount = s.toRobinhood.card + s.toSolana.card ∧
    s.solana.store.tvlLd =
      s.evm.token.totalSupply + inventory.solanaToRobinhoodRaw + inventory.robinhoodToSolanaRaw := by
  subst he
  have hrate₀ : s₀.solana.store.ld2sdRate = 1 := (System.Delivery.rate_run h).symm.trans hrate
  obtain ⟨hrobinhood, hsolana⟩ := channels_run hi h
  rw [hrate₀] at hrobinhood hsolana
  have hopen := open_entries hp hsources hdestinations hrobinhood hsolana
  obtain ⟨hout, hback, hcount⟩ := outstanding_eq hp hopen
  rw [value_notice, one_mul] at hout hback
  rw [Multiset.card_map, Multiset.card_map] at hcount
  have hinvariant : System.Conservation.Invariant w s :=
    h.invariant (fun _ _ _ hi hs => System.Conservation.invariant_step hi hs) (System.Conservation.invariant_initial hi)
  have hbalanced := hinvariant.balanced
  simp only [Library.LockMint.Balanced, System.Conservation.books, hrate, one_mul] at hbalanced
  refine ⟨hopen, hout, hback, hcount, ?_⟩
  rw [hout, hback]
  exact hbalanced

/-- The accounting of the audit holds, however far apart the chains are read, exactly when
the sends the evidence misses weigh what the receipts it misses do. -/
theorem audit_balanced_iff {space : Solana.Runtime.AddressSpace} {x₀ x : Solana.Instructions.StoreState}
    {xs : List (Solana.Instructions.StoreState × Solana.Program.Event)} {y₀ y : Evm.Program.Chain}
    {ys : List (Evm.Program.Chain × Evm.Program.Event)} (hx₀ : Solana.Program.Initial space x₀)
    (ht : x₀.store.oftType = .adapter) (hx : Run (Solana.Program.Step space) x₀ xs x)
    (hy₀ : Evm.Program.Initial y₀) (hy : Run Evm.Program.Step y₀ ys y) (hp : Published host input manifest inventory)
    {seen missed : Events} (hsources : Recounts input.primary.sourceMessages seen.sentFromSolana seen.sentFromRobinhood)
    (hdestinations : Recounts input.primary.destinationMessages seen.receivedOnRobinhood seen.receivedOnSolana)
    (hall : ⟨total sentByStore xs, total receivedBySanOft ys, total sentBySanOft ys, total receivedByStore xs⟩ =
      seen.add missed) :
    x.store.tvlLd = y.token.totalSupply + inventory.solanaToRobinhoodRaw + inventory.robinhoodToSolanaRaw ↔
      value missed.sentFromSolana + value missed.sentFromRobinhood =
        value missed.receivedOnRobinhood + value missed.receivedOnSolana := by
  have htvl := tvl_run hx₀ ht hx
  have hsupply := supply_run hy₀ hy
  simp only [Events.add, Events.mk.injEq] at hall
  obtain ⟨h₁, h₂, h₃, h₄⟩ := hall
  rw [h₁, h₄, value_add, value_add] at htvl
  rw [h₂, h₃, value_add, value_add] at hsupply
  obtain ⟨hsent, hsent'⟩ := hsources.totals
  obtain ⟨hreceived, hreceived'⟩ := hdestinations.totals
  have hout : _ = _ + inventory.solanaToRobinhoodRaw := hp.conserved .solanaToRobinhood
  have hback : _ = _ + inventory.robinhoodToSolanaRaw := hp.conserved .robinhoodToSolana
  omega

end Audit

section Sample

open Solana.Program (pubkey)

/-- The first transfer, as the scanner of Solana reports it, with no receipt to settle it. -/
def pendingSource : InFlightMessageEvidence := { sampleSource 100 with guid := hexText (pubkey 7).toList }

def pendingInput : BuildManifestInput :=
  { sampleInput 100 with
    primary := ⟨sampleRanges, [pendingSource], []⟩
    secondary := ⟨sampleRanges, [pendingSource], []⟩
    layerZeroStatuses := some fun _ => some "INFLIGHT" }

/-- The SHA-256 digest of its manifest. -/
def pendingDigest : Vector UInt8 32 :=
  #v[94, 188, 36, 98, 60, 3, 47, 184, 33, 169, 152, 244, 24, 60, 199, 2, 179, 14, 228, 235, 37, 101, 118, 180, 0,
    208, 185, 140, 55, 255, 174, 108]

def pendingManifest : InFlightManifest :=
  ⟨unsignedManifest pendingInput
      [leaveUnresolved (plainHost pendingDigest) pendingSource (some "INFLIGHT")] ⟨100, 0, 1⟩,
    "0x" ++ hexDigest pendingDigest.toList⟩

def pendingHost : Host := readingHost pendingDigest pendingManifest.toJson pendingManifest.keysDistinct

theorem pendingInput_scanned : ScannedEvidence pendingInput fun _ => some "INFLIGHT" where
  inventoryId := (sampleInput_scanned 100).inventoryId
  scannerSourceCommit := (sampleInput_scanned 100).scannerSourceCommit
  generatedAt := (sampleInput_scanned 100).generatedAt
  solanaProviders := (sampleInput_scanned 100).solanaProviders
  robinhoodProviders := (sampleInput_scanned 100).robinhoodProviders
  identities := (sampleInput_scanned 100).identities
  secondary := rfl
  ranges := (sampleInput_scanned 100).ranges
  sources := by
    intro s hs
    obtain rfl := List.mem_singleton.mp hs
    have hsample := (sampleInput_scanned 100).sources _ List.mem_cons_self
    exact { hsample with guid := isLowerHash32_of_digits (by decide) (List.all_eq_true.mp (by decide)) }
  distinct := List.nodup_singleton _
  destinations := by
    intro d hd
    cases hd
  layerZeroStatuses := rfl
  known _ _ := rfl

theorem pendingInput_built : Built pendingHost pendingInput ⟨100, 0, 1⟩ where
  agreement := rfl
  distinct := List.nodup_nil
  compatible := by
    intro p hp
    obtain rfl := List.mem_singleton.mp hp
    change some ("INFLIGHT".toList.map Char.toUpper |> String.ofList) ≠ some "DELIVERED"
    decide
  consumed := rfl
  totals := rfl

theorem pending_published : ∃ inventory, Published pendingHost pendingInput pendingManifest inventory := by
  have hreads := readingHost_reads pendingDigest pendingManifest.toJson pendingManifest.keysDistinct
  have haccepted := pendingInput_scanned.accepted pendingInput_built
    (by
      intro s hs
      obtain rfl := List.mem_singleton.mp hs
      decide)
    (by
      intro s hs api hapi
      obtain rfl := Option.some.inj hapi
      decide)
  have hbuilt := buildInFlightManifest_eq_ok.mpr ⟨_, pendingInput_built, rfl⟩
  exact ⟨_, hbuilt, _, hreads, parseInFlightInventory_eq_ok.mpr ⟨_, _, _, hreads, haccepted, rfl⟩⟩

def pendingEvents : Events := ⟨{(pubkey 7, 100)}, 0, 0, 0⟩

theorem pending_sources :
    Recounts pendingInput.primary.sourceMessages pendingEvents.sentFromSolana pendingEvents.sentFromRobinhood := by
  have htells : Tells pendingSource (pubkey 7).toList .solanaToRobinhood 100 (pubkey 187).toList :=
    ⟨rfl, rfl, rfl, by decide +kernel⟩
  exact .cons ⟨_, htells⟩ .zero

theorem pending_destinations : Recounts pendingInput.primary.destinationMessages pendingEvents.receivedOnRobinhood
    pendingEvents.receivedOnSolana := .zero

/-- The first transfer is the one message outstanding. -/
theorem manifest_in_flight_sent : ∃ inventory,
    Published pendingHost pendingInput pendingManifest inventory ∧
    inventory.unresolvedPacketCount = sentState.toRobinhood.card + sentState.toSolana.card ∧
    inventory.solanaToRobinhoodRaw = inFlight sentState.toRobinhood := by
  obtain ⟨inventory, hp⟩ := pending_published
  obtain ⟨tr, h, he⟩ := events_sent
  obtain ⟨_, hout, _, hcount, _⟩ := manifest_in_flight initial_sampleState h rfl he hp pending_sources
    pending_destinations
  exact ⟨inventory, hp, hcount, hout⟩

theorem audit_balanced_sent : ∃ inventory,
    Published pendingHost pendingInput pendingManifest inventory ∧
    sentState.solana.store.tvlLd = sentState.evm.token.totalSupply + inventory.solanaToRobinhoodRaw +
      inventory.robinhoodToSolanaRaw := by
  obtain ⟨inventory, hp⟩ := pending_published
  obtain ⟨tr, h, he⟩ := events_sent
  obtain ⟨xs, ys, hx, hy, hprojected⟩ := run_projected h
  have hinitial : Initial sampleWiring _ := initial_sampleState
  have hall : _ = pendingEvents.add ⟨0, 0, 0, 0⟩ := hprojected.symm.trans he
  exact ⟨inventory, hp, (audit_balanced_iff hinitial.solana rfl hx hinitial.evm hy hp pending_sources
    pending_destinations hall).mpr rfl⟩

end Sample

end SanBridge.Tooling.Outstanding
