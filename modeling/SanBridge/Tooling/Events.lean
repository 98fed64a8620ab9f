import SanBridge.Tooling.Settlement

namespace SanBridge.Tooling.Events

open Library.BigEndian Library.Checked Tooling.Runtime Tooling.Checker Tooling.Policy Tooling.SolanaScan
open Tooling.Extraction
open Solana.Tenants
open Solana.Runtime (Pubkey)

variable {formats : ScanFormats} {program : Pubkey}

section Instructions

def eventDiscriminator : EventName → String
  | .oftSent => oftSentDiscriminator
  | .oftReceived => oftReceivedDiscriminator

def eventWidth : EventName → Nat
  | .oftSent => 84
  | .oftReceived => 76

/-- An instruction that emits no event: one of another program or without data, or one whose
data is too short, has another tag or an unknown discriminator, or ends within the event. -/
inductive Quiet (formats : ScanFormats) (program : Pubkey) : ParsedInstruction → Prop
  | otherProgram {i : ParsedInstruction} (h : i.programId ≠ some program) : Quiet formats program i
  | noData {i : ParsedInstruction} (h : i.data.getD "" = "") : Quiet formats program i
  | short {p : Option Pubkey} {bytes : Bytes} (h : bytes.length < 16) :
      Quiet formats program ⟨p, some (formats.bs58Encode bytes)⟩
  | otherTag {p : Option Pubkey} {bytes : Bytes} (h : bytes.take 8 ≠ eventTag) :
      Quiet formats program ⟨p, some (formats.bs58Encode bytes)⟩
  | unknown {p : Option Pubkey} {bytes : Bytes}
      (h : ∀ name : EventName, hexDigest ((bytes.drop 8).take 8) ≠ eventDiscriminator name) :
      Quiet formats program ⟨p, some (formats.bs58Encode bytes)⟩
  | truncated {p : Option Pubkey} {bytes : Bytes} (name : EventName)
      (hname : hexDigest ((bytes.drop 8).take 8) = eventDiscriminator name)
      (h : (bytes.drop 16).length < eventWidth name) :
      Quiet formats program ⟨p, some (formats.bs58Encode bytes)⟩

/-- The amount of a liability; the amount sent is another field. -/
def amountReceivedLd : ProgramEvent → Nat
  | .sent e => e.amountReceivedLd
  | .received e => e.amountReceivedLd

/-- An instruction in the answer of a node: an event of the program, or one that emits none. -/
inductive Reported (formats : ScanFormats) (program : Pubkey)
  | event (e : ProgramEvent) (fits : amountReceivedLd e < 2 ^ 64)
  | other (i : ParsedInstruction) (quiet : Quiet formats program i)

def Reported.parsed : Reported formats program → ParsedInstruction
  | .event e _ => ⟨some program, some (formats.bs58Encode e.data)⟩
  | .other i _ => i

def Reported.emitted : Reported formats program → Option ProgramEvent
  | .event e _ => some e
  | .other _ _ => none

/-- What the scanner has to make of an event. -/
structure Decodes (formats : ScanFormats) (event : SolanaOftEvent) (e : ProgramEvent) : Prop where
  name_eq : event.name = match e with
    | .sent _ => .oftSent
    | .received _ => .oftReceived
  guid_eq : event.guid = hexText (match e with
    | .sent e => e.guid.toList
    | .received e => e.guid.toList)
  eid_eq : event.eid = match e with
    | .sent e => e.dstEid.val
    | .received e => e.srcEid.val
  address_eq : event.address = formats.toBase58 (match e with
    | .sent e => e.source
    | .received e => e.dest)
  amount_eq : event.amountRaw = toString (amountReceivedLd e)

theorem decodes_observed {e : ProgramEvent} (h : amountReceivedLd e < 2 ^ 64) (index : Nat) :
    Decodes formats (observed formats e index) e := by
  have hfit : amountReceivedLd e % 256 ^ 8 = amountReceivedLd e := Nat.mod_eq_of_lt h
  cases e with
  | sent e => exact ⟨rfl, rfl, rfl, rfl, congrArg toString hfit⟩
  | received e => exact ⟨rfl, rfl, rfl, rfl, congrArg toString hfit⟩

end Instructions

section Decode

theorem decodeEvent_unknown {bytes : Bytes} (index : Nat)
    (h : ∀ name : EventName, hexDigest ((bytes.drop 8).take 8) ≠ eventDiscriminator name) :
    decodeEvent formats bytes index = none := by
  have hsent : hexDigest ((bytes.drop 8).take 8) ≠ oftSentDiscriminator := h .oftSent
  have hreceived : hexDigest ((bytes.drop 8).take 8) ≠ oftReceivedDiscriminator := h .oftReceived
  simp [decodeEvent, hsent, hreceived]

theorem decodeEvent_truncated {bytes : Bytes} (index : Nat) {name : EventName}
    (hname : hexDigest ((bytes.drop 8).take 8) = eventDiscriminator name)
    (h : (bytes.drop 16).length < eventWidth name) : decodeEvent formats bytes index = none := by
  have hdistinct : oftReceivedDiscriminator ≠ oftSentDiscriminator := by decide
  cases name with
  | oftSent =>
    have hshort : ¬ 84 ≤ (bytes.drop 16).length := Nat.not_le.mpr h
    simp only [decodeEvent, hname, eventDiscriminator, hshort, and_false, if_false, hdistinct.symm, false_and]
    rfl
  | oftReceived =>
    have hshort : ¬ 76 ≤ (bytes.drop 16).length := Nat.not_le.mpr h
    simp only [decodeEvent, hname, eventDiscriminator, hshort, and_false, if_false, hdistinct, false_and]
    rfl

variable (hp : formats.publicKey (some (.str productionSolanaOftProgram)) = some program)

include hp

theorem taggedData_noData {i : ParsedInstruction} (h : i.programId ≠ some program ∨ i.data.getD "" = "") :
    taggedData formats i = .ok none := by
  simp only [taggedData, hp, ofOption, ok_bind, ne_eq]
  rw [if_pos h]

theorem visitInstruction_quiet {i : ParsedInstruction} (h : Quiet formats program i) (events : List SolanaOftEvent)
    (index : Nat) : ∃ index', index ≤ index' ∧ visitInstruction formats (events, index) i = .ok (events, index') := by
  have hskipped (hdata : taggedData formats i = .ok none) :
      ∃ index', index ≤ index' ∧ visitInstruction formats (events, index) i = .ok (events, index') := by
    refine ⟨index, le_rfl, ?_⟩
    rw [visitInstruction, hdata, ok_bind]
  have hundecoded {bytes : Bytes} (hdata : taggedData formats i = .ok (some bytes))
      (hnone : decodeEvent formats bytes index = none) :
      ∃ index', index ≤ index' ∧ visitInstruction formats (events, index) i = .ok (events, index') := by
    refine ⟨index + 1, Nat.le_succ index, ?_⟩
    rw [visitInstruction, hdata, ok_bind]
    simp only [hnone, Option.toList_none, List.append_nil]
  cases h with
  | otherProgram h => exact hskipped (taggedData_noData hp (.inl h))
  | noData h => exact hskipped (taggedData_noData hp (.inr h))
  | @short p bytes h =>
    apply hskipped
    rw [taggedData_encoded hp, if_neg fun hin => absurd hin.2.1 (Nat.not_le.mpr h)]
  | @otherTag p bytes h =>
    apply hskipped
    rw [taggedData_encoded hp, if_neg fun hin => h hin.2.2]
  | @unknown p bytes h =>
    by_cases hin : p = some program ∧ 16 ≤ bytes.length ∧ bytes.take 8 = eventTag
    · exact hundecoded (by rw [taggedData_encoded hp, if_pos hin]) (decodeEvent_unknown index h)
    · exact hskipped (by rw [taggedData_encoded hp, if_neg hin])
  | @truncated p bytes name hname h =>
    by_cases hin : p = some program ∧ 16 ≤ bytes.length ∧ bytes.take 8 = eventTag
    · exact hundecoded (by rw [taggedData_encoded hp, if_pos hin]) (decodeEvent_truncated index hname h)
    · exact hskipped (by rw [taggedData_encoded hp, if_neg hin])

end Decode

section Extract

variable (hp : formats.publicKey (some (.str productionSolanaOftProgram)) = some program)

/-- The events found, in order, and their indices between two bounds. -/
structure Extracts (formats : ScanFormats) (events : List SolanaOftEvent) (es : List ProgramEvent)
    (first next : Nat) : Prop where
  decodes : List.Forall₂ (Decodes formats) events es
  bounds : ∀ event ∈ events, first ≤ event.index ∧ event.index < next
  increasing : events.Pairwise fun a b => a.index < b.index

theorem Extracts.cons {event : SolanaOftEvent} {e : ProgramEvent} {events : List SolanaOftEvent}
    {es : List ProgramEvent} {index next : Nat} (he : Decodes formats event e) (hi : event.index = index)
    (h : Extracts formats events es (index + 1) next) (hle : index + 1 ≤ next) :
    Extracts formats (event :: events) (e :: es) index next where
  decodes := .cons he h.decodes
  bounds := by
    intro event' h'
    cases List.mem_cons.mp h' with
    | inl h' =>
      rw [h', hi]
      omega
    | inr h' =>
      have hb := h.bounds event' h'
      omega
  increasing := by
    refine List.pairwise_cons.mpr ⟨fun event' h' => ?_, h.increasing⟩
    have hb := h.bounds event' h'
    omega

theorem Extracts.weaken {events : List SolanaOftEvent} {es : List ProgramEvent} {first first' next : Nat}
    (hle : first ≤ first') (h : Extracts formats events es first' next) : Extracts formats events es first next :=
  ⟨h.decodes, fun event he => ⟨hle.trans (h.bounds event he).1, (h.bounds event he).2⟩, h.increasing⟩

include hp

/-- One loop over all instructions, whatever groups they come in. -/
theorem visitInstructions_reported (is : List (Reported formats program)) (found : List SolanaOftEvent) (index : Nat) :
    ∃ events next, index ≤ next ∧ Extracts formats events (is.filterMap Reported.emitted) index next ∧
      (is.map Reported.parsed).foldlM (visitInstruction formats) (found, index) = .ok (found ++ events, next) := by
  induction is generalizing found index with
  | nil => exact ⟨[], index, le_rfl, ⟨.nil, by simp, .nil⟩, by rw [List.append_nil]; rfl⟩
  | cons i is ih =>
    cases i with
    | event e fits =>
      have hvisit : visitInstruction formats (found, index) (Reported.event e fits : Reported formats program).parsed =
          .ok (found ++ [observed formats e index], index + 1) := by
        rw [visitInstruction, Reported.parsed, taggedData_event hp, ok_bind]
        simp only [decodeEvent_data, Option.toList_some]
      obtain ⟨events, next, hle, hextracts, hrun⟩ := ih (found ++ [observed formats e index]) (index + 1)
      have hindex : (observed formats e index).index = index := by cases e <;> rfl
      refine ⟨observed formats e index :: events, next, Nat.le_of_succ_le hle,
        hextracts.cons (decodes_observed fits index) hindex hle, ?_⟩
      rw [List.map_cons, List.foldlM_cons, hvisit, ok_bind, hrun, List.append_assoc, List.singleton_append]
    | other i quiet =>
      obtain ⟨index', hle', hvisit⟩ := visitInstruction_quiet hp quiet found index
      obtain ⟨events, next, hle, hextracts, hrun⟩ := ih found index'
      refine ⟨events, next, hle'.trans hle, hextracts.weaken hle', ?_⟩
      rw [List.map_cons, List.foldlM_cons]
      change (visitInstruction formats (found, index) i >>= _) = _
      rw [hvisit, ok_bind, hrun]

omit hp in
theorem foldlM_groups {groups : List (List ParsedInstruction)} {found : List SolanaOftEvent × Nat} :
    groups.foldlM (fun found group => group.foldlM (visitInstruction formats) found) found =
      groups.flatten.foldlM (visitInstruction formats) found := by
  induction groups generalizing found with
  | nil => rfl
  | cons group groups ih =>
    rw [List.foldlM_cons, List.flatten_cons, List.foldlM_append]
    exact bind_congr fun found => ih

/-- The events of a successful transaction are those the program emitted, in order and
under increasing indices; a failed one has none. -/
theorem extractSolanaOftEvents_emitted :
    (∀ groups : List (List (Reported formats program)), ∃ events,
      extractSolanaOftEvents formats ⟨some ⟨false, some (groups.map fun group => group.map Reported.parsed)⟩⟩ =
        .ok events ∧
      List.Forall₂ (Decodes formats) events (groups.flatten.filterMap Reported.emitted) ∧
      events.Pairwise fun a b => a.index < b.index) ∧
    ∀ groups, extractSolanaOftEvents formats ⟨some ⟨true, groups⟩⟩ = .ok [] := by
  refine ⟨fun groups => ?_, fun groups => rfl⟩
  obtain ⟨events, next, _, hextracts, hrun⟩ := visitInstructions_reported hp groups.flatten [] 0
  refine ⟨events, ?_, hextracts.decodes, hextracts.increasing⟩
  rw [List.map_flatten, ← foldlM_groups] at hrun
  simp only [extractSolanaOftEvents, Option.any_some, Bool.false_eq_true, if_false, Option.bind_some, Option.getD_some]
  rw [hrun, ok_bind, List.nil_append]

end Extract

section Sample

open Settlement

/-- A receipt among instructions that emit nothing. -/
def sampleGroups : List (List (Reported sampleScanFormats sampleProgram)) :=
  [[.other ⟨none, some "x"⟩ (.otherProgram (Option.some_ne_none _).symm), .event (.received forgedEvent) (by decide)],
    [.other ⟨some sampleProgram, some (sampleScanFormats.bs58Encode eventTag)⟩ (.short (by decide))]]

theorem extractSolanaOftEvents_sample : ∃ events,
    extractSolanaOftEvents sampleScanFormats
      ⟨some ⟨false, some (sampleGroups.map fun group => group.map Reported.parsed)⟩⟩ = .ok events ∧
    List.Forall₂ (Decodes sampleScanFormats) events [.received forgedEvent] := by
  obtain ⟨events, hevents, hdecodes, _⟩ := (extractSolanaOftEvents_emitted sampleProgram_known).1 sampleGroups
  exact ⟨events, hevents, hdecodes⟩

end Sample

end SanBridge.Tooling.Events
