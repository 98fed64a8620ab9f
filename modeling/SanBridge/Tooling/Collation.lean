import Mathlib.Data.Prod.Lex
import SanBridge.Tooling.Arrangement

namespace SanBridge.Tooling.Collation

open Library.Checked Library.Matching Library.Sorting Tooling.Runtime Tooling.Inventory Tooling.Acceptance
open Tooling.Manifest Tooling.Building Tooling.Evidence Tooling.Canonical Tooling.Ordering Tooling.Arrangement

def withCollation (host other : Host) : Host :=
  { host with
    localeLe := other.localeLe
    localeLe_total := other.localeLe_total
    localeLe_trans := other.localeLe_trans }

variable {host other : Host} {input : BuildManifestInput} {o : Outstanding} {messages : List Json} {id : String}
  {ms ms' : List InFlightMessageEvidence}

section Transfer

theorem prints_withCollation (h : PrintsNumbers host) : PrintsNumbers (withCollation host other) :=
  ⟨h.injective, h.nonempty, h.chars⟩

theorem numbers_withCollation : (withCollation host other).numberToString = host.numberToString := rfl

theorem jsonParse_withCollation (contents : String) :
    (withCollation host other).jsonParse contents = host.jsonParse contents := rfl

theorem canonicalJson_withCollation (v : Json) : canonicalJson (withCollation host other) v = canonicalJson host v :=
  canonicalJson_congr numbers_withCollation v

theorem messageText_withCollation : messageText (withCollation host other) = messageText host :=
  funext fun _ => canonicalJson_withCollation _

theorem text_withCollation (v : Value) : text (withCollation host other) v = text host v := by
  cases v with
  | none => rfl
  | some v => exact text_congr numbers_withCollation v

theorem admitted_withCollation {manifest : Value} {message : Json} (h : Admitted host manifest message) :
    Admitted (withCollation host other) manifest message := by
  have htally : tallyMessage host manifest .empty message = .ok (countMessage host .empty message) :=
    tallyMessage_eq_ok.mpr ⟨h, List.not_mem_nil, rfl⟩
  have hsame : tallyMessage (withCollation host other) manifest .empty message =
      tallyMessage host manifest .empty message := rfl
  exact (tallyMessage_eq_ok.mp (hsame.trans htally)).1

theorem compatible_withCollation {statuses : Option (String → Option String)} {p : Match}
    (h : Compatible host statuses p) : Compatible (withCollation host other) statuses p := by
  obtain ⟨source, _ | destination⟩ := p
  · exact h
  · exact ⟨⟨h.1.direction, h.1.amountRaw, h.1.receiver⟩, h.2⟩

/-- Only the order of the messages is asked of a manifest in terms of the collation. -/
theorem accepted_withCollation {value : Json} (h : Accepted host value messages id)
    (ho : ∃ ordered, canonicalOrder (withCollation host other) messages = .ok ordered ∧
      canonicalJson (withCollation host other) (.arr ordered) =
        canonicalJson (withCollation host other) (.arr messages)) :
    Accepted (withCollation host other) value messages id where
  isObject := h.isObject
  keys := h.keys
  identity := by
    have hidentity := h.identity
    simp only [validateIdentity] at hidentity ⊢
    simp only [text_withCollation]
    exact hidentity
  range := by
    have hrange : validateRange host (some value) = .ok () := validateRange_eq_ok.mpr h.range
    have hsame : validateRange (withCollation host other) (some value) = validateRange host (some value) := rfl
    exact validateRange_eq_ok.mp (hsame.trans hrange)
  provenance := h.provenance
  readsMessages := h.readsMessages
  summaryKeys := h.summaryKeys
  ordered := ho
  admitted := fun m hm => admitted_withCollation (h.admitted m hm)
  distinct := h.distinct
  summary := h.summary
  checksum := by
    have hsum : manifestChecksum (withCollation host other) (unsignedPart value) =
        manifestChecksum host (unsignedPart value) := by
      rw [manifestChecksum, manifestChecksum, canonicalJson_withCollation]
      rfl
    rw [hsum]
    exact h.checksum

end Transfer

section Order

/-- Both collations compare the sort keys of every two sources alike, and the second
one compares the receipts of the two providers alike. -/
structure OrderedAlike (host other : Host) (input : BuildManifestInput) : Prop where
  sources : ∀ s ∈ input.primary.sourceMessages, ∀ t ∈ input.primary.sourceMessages,
    (collation host (sortKey host s) (sortKey host t) ↔ collation other (sortKey host s) (sortKey host t))
  receipts : ∀ d ∈ input.primary.destinationMessages, ∀ e ∈ input.primary.destinationMessages,
    ∀ d' ∈ input.secondary.destinationMessages, ∀ e' ∈ input.secondary.destinationMessages,
    d.guid = d'.guid → e.guid = e'.guid →
      (collation other (sortKey host d) (sortKey host e) ↔ collation other (sortKey host d') (sortKey host e'))

theorem sortMessages_of_length (h : ms.length < 2) : sortMessages host ms = ms := by
  cases ms with
  | nil => rfl
  | cons m ms =>
    cases ms with
    | nil => rfl
    | cons m' ms =>
      rw [List.length_cons, List.length_cons] at h
      omega

theorem canonicalOrder_toJson (h : ∀ m ∈ ms, FiniteIndex m) :
    canonicalOrder host (ms.map InFlightMessageEvidence.toJson) =
      .ok ((sortMessages host ms).map InFlightMessageEvidence.toJson) := by
  rw [canonicalOrder]
  split
  · rename_i hlength
    rw [List.length_map] at hlength
    rw [sortMessages_of_length hlength]
  · rw [mapM_withKey h, ok_bind, sortMessages_eq]
    have hsort : sortBy Prod.fst (collation host) (ms.map fun m => (sortKey host m, m.toJson)) =
        (sortBy (sortKey host) (collation host) ms).map fun m => (sortKey host m, m.toJson) :=
      sortBy_map _ fun _ _ => rfl
    have hmessages := congrArg (List.map Prod.snd) hsort
    rw [List.map_map] at hmessages
    exact congrArg Except.ok hmessages

variable (hl : TellsApart host) (hl' : TellsApart other)

include hl hl' in
/-- Two arrangements of identified messages are one exactly when the orders behind
them compare the keys alike. -/
theorem map_guid_sortMessages_iff (h : Identified ms) (h' : Identified ms')
    (hg : (ms.map InFlightMessageEvidence.guid).Perm (ms'.map InFlightMessageEvidence.guid)) :
    (sortMessages host ms).map InFlightMessageEvidence.guid =
        (sortMessages other ms').map InFlightMessageEvidence.guid ↔
      ∀ a ∈ ms, ∀ b ∈ ms, ∀ c ∈ ms', ∀ d ∈ ms', a.guid = c.guid → b.guid = d.guid →
        (collation host (sortKey host a) (sortKey host b) ↔ collation other (sortKey other c) (sortKey other d)) := by
  have hlinear : IsLinearOrder String (collation host) := hl.linear
  have hlinear' : IsLinearOrder String (collation other) := hl'.linear
  rw [sortMessages_eq, sortMessages_eq, map_sortBy_eq_iff (h.keys_nodup host) (h'.keys_nodup other) h.nodup]
  exact and_iff_right hg

theorem messageText_of_guid (hp : PrintsNumbers host) (h : Identified ms')
    (ht : (sortMessages host ms).map (messageText host) = (sortMessages host ms').map (messageText host))
    {a c : InFlightMessageEvidence} (ha : a ∈ ms) (hc : c ∈ ms') (hg : a.guid = c.guid) :
    messageText host a = messageText host c := by
  have hmem : messageText host a ∈ (sortMessages host ms').map (messageText host) := by
    rw [← ht]
    exact List.mem_map_of_mem ((sortMessages_perm host ms).mem_iff.mpr ha)
  obtain ⟨b, hb, hba⟩ := List.mem_map.mp hmem
  have hb' := (sortMessages_perm host ms').mem_iff.mp hb
  have hbc := List.inj_on_of_nodup_map h.nodup hb' hc ((guid_of_messageText hp hba).trans hg)
  rw [← hbc, hba]

theorem map_messageText_of_guids (hp : PrintsNumbers host) (h : Identified ms')
    (ht : (sortMessages host ms).map (messageText host) = (sortMessages host ms').map (messageText host))
    (hg : (sortMessages other ms).map InFlightMessageEvidence.guid =
      (sortMessages other ms').map InFlightMessageEvidence.guid) :
    (sortMessages other ms).map (messageText host) = (sortMessages other ms').map (messageText host) := by
  rw [map_eq_map_iff] at hg ⊢
  refine ⟨hg.1, fun p hmem => ?_⟩
  obtain ⟨h₁, h₂⟩ := List.of_mem_zip hmem
  exact messageText_of_guid hp h ht ((sortMessages_perm other ms).mem_iff.mp h₁)
    ((sortMessages_perm other ms').mem_iff.mp h₂) (hg.2 p hmem)

theorem guids_perm (hp : PrintsNumbers host)
    (ht : (sortMessages host ms).map (messageText host) = (sortMessages host ms').map (messageText host)) :
    (ms.map InFlightMessageEvidence.guid).Perm (ms'.map InFlightMessageEvidence.guid) := by
  have hg := map_guid_of_map_messageText hp ht
  have hms := (sortMessages_perm host ms).map InFlightMessageEvidence.guid
  have hms' := (sortMessages_perm host ms').map InFlightMessageEvidence.guid
  exact hms.symm.trans (hg ▸ hms')

end Order

section Reproduction

variable (hp : PrintsNumbers host) (hc : KeepsColon host) (hl : TellsApart host) (hl' : TellsApart other)
  (hb : Built host input o)

theorem sortKey_settle {statuses : Option (String → Option String)} {p : Match} :
    sortKey host (settle host statuses p) = sortKey host p.1 := by
  obtain ⟨source, _ | destination⟩ := p <;> rfl

/-- Receipts whose event index is a finite number are ordered alike whatever the collation. -/
theorem orderedAlike_iff_sources (hp : PrintsNumbers host) (ha : Agreed host input)
    (hf : ∀ d ∈ input.primary.destinationMessages, FiniteIndex d) :
    OrderedAlike host other input ↔
      ∀ s ∈ input.primary.sourceMessages, ∀ t ∈ input.primary.sourceMessages,
        (collation host (sortKey host s) (sortKey host t) ↔ collation other (sortKey host s) (sortKey host t)) := by
  refine ⟨OrderedAlike.sources, fun h => ⟨h, fun d hd e he d' hd' e' he' hdg heg => ?_⟩⟩
  have hkey {d d' : InFlightMessageEvidence} (hd : d ∈ input.primary.destinationMessages)
      (hd' : d' ∈ input.secondary.destinationMessages) (hg : d.guid = d'.guid) : sortKey host d = sortKey host d' :=
    sortKey_of_messageText hp (messageText_of_guid hp ha.secondaryReceipts ha.receiptTexts hd hd' hg) (hf d hd) host
  rw [hkey hd hd' hdg, hkey he he' heg]

include hp hc hl' hb in
theorem built_of_orderedAlike (hacc : Accepted host (manifestOf host input o).toJson messages id)
    (h : OrderedAlike host other input) :
    Built (withCollation host other) input o ∧
      messagesOf (withCollation host other) input = messagesOf host input := by
  have hlB : TellsApart (withCollation host other) := hl'
  have ha := agreed_of_accepted hp hc hb hacc
  have hmessages : messagesOf (withCollation host other) input = messagesOf host input := by
    have hsort : sortBy (sortKey host) (collation host)
        ((pairing host input.primary).map (settle host input.layerZeroStatuses)) =
        sortBy (sortKey host) (collation other)
          ((pairing host input.primary).map (settle host input.layerZeroStatuses)) := by
      refine sortBy_congr fun a hmem b hmem' => ?_
      obtain ⟨p, hp, rfl⟩ := List.mem_map.mp hmem
      obtain ⟨q, hq, rfl⟩ := List.mem_map.mp hmem'
      rw [sortKey_settle, sortKey_settle]
      exact h.sources _ (source_of_pairing hp).1 _ (source_of_pairing hq).1
    exact hsort.symm
  refine ⟨⟨?_, hb.distinct, fun p hp => compatible_withCollation (hb.compatible p hp), hb.consumed, ?_⟩, hmessages⟩
  · rw [providerComparable_eq_iff (prints_withCollation hp), messageText_withCollation, canonicalJson_withCollation,
      canonicalJson_withCollation]
    refine ⟨ha.ranges, map_messageText_of_guids hp ha.secondarySources ha.sourceTexts ?_,
      map_messageText_of_guids hp ha.secondaryReceipts ha.receiptTexts ?_⟩
    · refine (map_guid_sortMessages_iff hlB hlB ha.sources.identified ha.secondarySources
        (guids_perm hp ha.sourceTexts)).mpr fun a hma b hmb c hmc d hmd hac hbd => ?_
      have hkey {a c : InFlightMessageEvidence} (hma : a ∈ input.primary.sourceMessages)
          (hmc : c ∈ input.secondary.sourceMessages) (hg : a.guid = c.guid) :
          sortKey (withCollation host other) a = sortKey (withCollation host other) c :=
        sortKey_of_messageText hp (messageText_of_guid hp ha.secondarySources ha.sourceTexts hma hmc hg)
          (ha.sources.index a hma) _
      rw [hkey hma hmc hac, hkey hmb hmd hbd]
    · exact (map_guid_sortMessages_iff hlB hlB ha.receipts ha.secondaryReceipts
        (guids_perm hp ha.receiptTexts)).mpr h.receipts
  · rw [hmessages]
    exact hb.totals

theorem messages_finite (hs : SourcesAccepted host input.primary.sourceMessages) :
    ∀ m ∈ messagesOf host input, FiniteIndex m := by
  intro m hm
  obtain ⟨p, hp, rfl⟩ := List.mem_map.mp ((messagesOf_perm host input).mem_iff.mp hm)
  rw [FiniteIndex, settle_index]
  exact hs.index _ (source_of_pairing hp).1

include hl' in
/-- What the checking host would build it finds in order. -/
theorem ordered_of_messagesOf (hacc : Accepted host (manifestOf host input o).toJson messages id)
    (hmessages : messagesOf (withCollation host other) input = messagesOf host input) :
    canonicalOrder (withCollation host other) messages = .ok messages := by
  have hlB : TellsApart (withCollation host other) := hl'
  have hs := sources_accepted hacc
  have hsettled := settled_identified hs
  rw [accepted_messages hacc, messages_manifestOf, canonicalOrder_toJson (messages_finite hs)]
  have hsorted := hsettled.sortMessages_eq_of_perm hlB (messagesOf_perm host input).symm
  rw [← hsorted, ← hmessages]
  rfl

include hp hc hl hl' hb in
/-- Where the checking host accepts the manifest and builds one, the collations agree. -/
theorem orderedAlike_of_built {o' : Outstanding} {messages' : List Json} {id' : String}
    (hacc : Accepted host (manifestOf host input o).toJson messages id)
    (hb' : Built (withCollation host other) input o')
    (hacc' : Accepted (withCollation host other) (manifestOf host input o).toJson messages' id') :
    OrderedAlike host other input := by
  have hlB : TellsApart (withCollation host other) := hl'
  have hpB : PrintsNumbers (withCollation host other) := (prints_withCollation hp)
  have ha := agreed_of_accepted hp hc hb hacc
  have hsettled := settled_identified ha.sources
  have hlisted := hsettled.perm (messagesOf_perm host input)
  refine ⟨?_, ?_⟩
  · obtain ⟨ordered, hordered, hcanonical⟩ := hacc'.ordered
    rw [accepted_messages hacc', messages_manifestOf] at hordered hcanonical
    rw [canonicalOrder_toJson (messages_finite ha.sources), Except.ok.injEq] at hordered
    subst hordered
    have hguids := map_guid_of_map_messageText hpB ((canonicalJson_messages hpB).mp hcanonical)
    have halike := (map_guid_sortMessages_iff hl hlB hsettled hlisted
      ((messagesOf_perm host input).symm.map _)).mp hguids.symm
    intro s hs t ht
    rw [← pairing_fst host, List.mem_map] at hs ht
    obtain ⟨p, hp, rfl⟩ := hs
    obtain ⟨q, hq, rfl⟩ := ht
    have hlist {p : Match} (hp : p ∈ pairing host input.primary) :
        settle host input.layerZeroStatuses p ∈ messagesOf host input :=
      (messagesOf_perm host input).mem_iff.mpr (List.mem_map_of_mem hp)
    have hpq := halike _ (List.mem_map_of_mem hp) _ (List.mem_map_of_mem hq) _ (hlist hp) _ (hlist hq) rfl rfl
    rw [sortKey_settle, sortKey_settle] at hpq
    change collation host _ _ ↔ collation other (sortKey host _) (sortKey host _) at hpq
    rw [sortKey_settle, sortKey_settle] at hpq
    exact hpq
  · obtain ⟨_, _, hreceipts⟩ := (providerComparable_eq_iff hpB).mp hb'.agreement
    exact (map_guid_sortMessages_iff hlB hlB ha.receipts ha.secondaryReceipts (guids_perm hp ha.receiptTexts)).mp
      (map_guid_of_map_messageText hpB hreceipts)

/-- A manifest that one host writes and reads is accepted and reproduced on another
exactly when the two collations order the evidence alike. -/
theorem manifest_reproduced_iff (hp : PrintsNumbers host) (hc : KeepsColon host) (hl : TellsApart host)
    (hl' : TellsApart other) {manifest : InFlightManifest} {inventory : InFlightInventory}
    (hread : host.jsonParse (manifestFile host manifest) = some manifest.toJson)
    (hbuild : buildInFlightManifest host input = .ok manifest)
    (hparse : parseInFlightInventory host (manifestFile host manifest) = .ok inventory) :
    ((∃ inventory', parseInFlightInventory (withCollation host other) (manifestFile host manifest) = .ok inventory') ∧
        ∃ manifest', buildInFlightManifest (withCollation host other) input = .ok manifest' ∧
          manifest'.manifestChecksum = manifest.manifestChecksum) ↔
      OrderedAlike host other input := by
  obtain ⟨o, hb, rfl⟩ := buildInFlightManifest_eq_ok.mp hbuild
  obtain ⟨value, messages, id, hv, hacc, rfl⟩ := parseInFlightInventory_eq_ok.mp hparse
  rw [hread, Option.some.injEq] at hv
  subst hv
  have hreadB : (withCollation host other).jsonParse (manifestFile host (manifestOf host input o)) =
      some (manifestOf host input o).toJson := hread
  constructor
  · rintro ⟨⟨_, hparse'⟩, _, hbuild', _⟩
    obtain ⟨value', messages', id', hv', hacc', _⟩ := parseInFlightInventory_eq_ok.mp hparse'
    rw [hreadB, Option.some.injEq] at hv'
    subst hv'
    obtain ⟨o', hb', _⟩ := buildInFlightManifest_eq_ok.mp hbuild'
    exact orderedAlike_of_built hp hc hl hl' hb hacc hb' hacc'
  · intro h
    obtain ⟨hb', hmessages⟩ := built_of_orderedAlike hp hc hl' hb hacc h
    have hsame : manifestOf (withCollation host other) input o = manifestOf host input o := by
      rw [manifestOf, manifestOf, hmessages, manifestChecksum, manifestChecksum, canonicalJson_withCollation]
      rfl
    refine ⟨?_, _, buildInFlightManifest_eq_ok.mpr ⟨o, hb', rfl⟩, by rw [hsame]⟩
    have hacc' := accepted_withCollation hacc ⟨_, ordered_of_messagesOf hl' hacc hmessages, rfl⟩
    exact ⟨_, parseInFlightInventory_eq_ok.mpr ⟨_, _, _, hreadB, hacc', rfl⟩⟩

end Reproduction

section Sample

/-- A string as it is compared where the case of a letter counts last. -/
def caseLast (s : String) : Lex (List Nat × List Nat) :=
  toLex (s.toList.map fun c => c.toLower.toNat, codeUnits s)

@[irreducible] def caseLe (s t : String) : Bool := caseLast s ≤ caseLast t

theorem caseLe_eq_true {s t : String} : caseLe s t = true ↔ caseLast s ≤ caseLast t := by
  rw [caseLe]
  exact decide_eq_true_iff

/-- A host whose collation puts a small letter before a later capital one. -/
def caseHost : Host :=
  { pairHost with
    localeLe := caseLe
    localeLe_total := by
      intro s t
      rw [caseLe_eq_true, caseLe_eq_true]
      exact le_total _ _
    localeLe_trans := by
      intro s t u hst htu
      rw [caseLe_eq_true] at hst htu ⊢
      exact le_trans hst htu }

theorem caseLe_antisymm {s t : String} (h : caseLe s t = true) (h' : caseLe t s = true) : s = t := by
  have hlex : caseLast s = caseLast t := le_antisymm (caseLe_eq_true.mp h) (caseLe_eq_true.mp h')
  exact codeUnits_injective (congrArg (fun p => (ofLex p).2) hlex)

theorem caseHost_tellsApart : TellsApart caseHost := fun _ _ h h' => caseLe_antisymm h h'

/-- A string as it is compared where a shorter one comes first. -/
def shortFirst (s : String) : Lex (Nat × List Nat) := toLex (s.length, codeUnits s)

/-- A host with another collation that lists the two transfers as the first one does. -/
def shortHost : Host :=
  { pairHost with
    localeLe := fun s t => shortFirst s ≤ shortFirst t
    localeLe_total := by
      intro s t
      rw [decide_eq_true_iff, decide_eq_true_iff]
      exact le_total _ _
    localeLe_trans := by
      intro s t u hst htu
      rw [decide_eq_true_iff] at hst htu ⊢
      exact le_trans hst htu }

theorem shortHost_tellsApart : TellsApart shortHost := by
  intro s t h h'
  have hlex : shortFirst s = shortFirst t := le_antisymm (of_decide_eq_true h) (of_decide_eq_true h')
  exact codeUnits_injective (congrArg (fun p => (ofLex p).2) hlex)

theorem orderedAlike_short : OrderedAlike pairHost shortHost pairInput where
  sources := by decide +kernel
  receipts := fun d hd => absurd hd List.not_mem_nil

theorem manifest_reproduced_short :
    (∃ inventory', parseInFlightInventory (withCollation pairHost shortHost) (manifestFile pairHost pairManifest) =
      .ok inventory') ∧
    ∃ manifest', buildInFlightManifest (withCollation pairHost shortHost) pairInput = .ok manifest' ∧
      manifest'.manifestChecksum = pairManifest.manifestChecksum :=
  (manifest_reproduced_iff pairHost_prints pairHost_keepsColon pairHost_tellsApart shortHost_tellsApart
    (reading_reads _ _ _) pairHost_builds pairHost_parses).mpr orderedAlike_short

/-- Two transfers of one slot whose transactions begin with a small and a capital
letter: what one host lists in order is out of order on the other. -/
theorem manifest_refused_elsewhere : TellsApart pairHost ∧ TellsApart caseHost ∧
    buildInFlightManifest pairHost pairInput = .ok pairManifest ∧
    parseInFlightInventory pairHost (manifestFile pairHost pairManifest) = .ok pairInventory ∧
    ∀ inventory, parseInFlightInventory (withCollation pairHost caseHost) (manifestFile pairHost pairManifest) ≠
      .ok inventory := by
  refine ⟨pairHost_tellsApart, caseHost_tellsApart, pairHost_builds, pairHost_parses, fun inventory h => ?_⟩
  obtain ⟨value, messages, id, hv, hacc, _⟩ := parseInFlightInventory_eq_ok.mp h
  have hread : pairHost.jsonParse (manifestFile pairHost pairManifest) = some pairManifest.toJson :=
    reading_reads _ _ _
  rw [jsonParse_withCollation, hread, Option.some.injEq] at hv
  subst hv
  rw [← pairHost_manifest] at hacc
  obtain ⟨ordered, hordered, hcanonical⟩ := hacc.ordered
  have hfinite := messages_finite (sources_accepted pairHost_accepted)
  rw [accepted_messages hacc, messages_manifestOf] at hordered hcanonical
  rw [pairHost_messages] at hordered hcanonical hfinite
  rw [canonicalOrder_toJson hfinite, Except.ok.injEq] at hordered
  subst hordered
  have hpB : PrintsNumbers (withCollation pairHost caseHost) := prints_withCollation pairHost_prints
  have hguids := map_guid_of_map_messageText hpB ((canonicalJson_messages hpB).mp hcanonical)
  have hne : (sortMessages (withCollation pairHost caseHost) pairMessages).map InFlightMessageEvidence.guid ≠
      pairMessages.map InFlightMessageEvidence.guid := by decide +kernel
  exact hne hguids

end Sample

end SanBridge.Tooling.Collation
