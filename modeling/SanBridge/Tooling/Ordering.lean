import SanBridge.Tooling.Binding

namespace SanBridge.Tooling.Ordering

open Library.Checked Library.Matching Library.Readability Library.Sorting Tooling.Runtime Tooling.Inventory
open Tooling.Acceptance Tooling.Manifest Tooling.Building Tooling.Evidence Tooling.Canonical Tooling.Binding

variable {host : Host} {a b : InFlightMessageEvidence} {ms : List InFlightMessageEvidence}

section Keys

def collation (host : Host) (s t : String) : Prop := host.localeLe s t = true

instance : DecidableRel (collation host) := fun s t => inferInstanceAs (Decidable (host.localeLe s t = true))

def TellsApart (host : Host) : Prop := ∀ s t, collation host s t → collation host t s → s = t

theorem TellsApart.linear (h : TellsApart host) : IsLinearOrder String (collation host) where
  refl s := (host.localeLe_total s s).elim id id
  trans s t u := host.localeLe_trans s t u
  antisymm s t := h s t
  total s t := host.localeLe_total s t

theorem sortMessages_eq (host : Host) (ms : List InFlightMessageEvidence) :
    sortMessages host ms = sortBy (sortKey host) (collation host) ms := rfl

theorem sortMessages_perm (host : Host) (ms : List InFlightMessageEvidence) : (sortMessages host ms).Perm ms :=
  List.perm_insertionSort _ ms

/-- A GUID the sort key ends with. -/
def Plain (m : InFlightMessageEvidence) : Prop := ':' ∉ m.guid.toList

theorem plain_of_isHash32 {s : String} (h : isHash32 s = true) : ':' ∉ s.toList := by
  simp only [isHash32, startsWith, decide_eq_true_eq, List.isPrefixOf_iff_prefix] at h
  obtain ⟨⟨digits, hs⟩, _, hall⟩ := h
  rw [← hs] at hall ⊢
  intro hc
  rw [List.mem_append] at hc
  cases hc with
  | inl hc => exact absurd hc (by decide)
  | inr hc =>
    have hhex := List.all_eq_true.mp hall ':' hc
    exact absurd hhex (by decide)

theorem guid_of_sortKey (ha : Plain a) (hb : Plain b) (h : sortKey host a = sortKey host b) : a.guid = b.guid := by
  have hreverse (s t : String) : (s ++ ":" ++ t).toList.reverse = t.toList.reverse ++ ':' :: s.toList.reverse := by
    simp
  have hsplit (m : InFlightMessageEvidence) : ∃ start, (sortKey host m).toList.reverse =
      m.guid.toList.reverse ++ ':' :: start := ⟨_, hreverse _ m.guid⟩
  obtain ⟨start, hs⟩ := hsplit a
  obtain ⟨start', hs'⟩ := hsplit b
  rw [h, hs'] at hs
  have hend (u : List Char) : ∀ c ∈ (':' :: u).head?, ¬ c ≠ ':' := by
    intro c hc
    cases hc
    exact fun hne => hne rfl
  have hplain {m : InFlightMessageEvidence} (hm : Plain m) : ∀ c ∈ m.guid.toList.reverse, c ≠ ':' := by
    rintro c hc rfl
    exact hm (List.mem_reverse.mp hc)
  obtain ⟨hguid, _⟩ := append_inj_of_all (hplain hb) (hplain ha) (hend start') (hend start) hs
  exact (String.toList_injective (List.reverse_injective hguid)).symm

/-- Messages told apart by their GUIDs. -/
structure Identified (ms : List InFlightMessageEvidence) : Prop where
  nodup : (ms.map InFlightMessageEvidence.guid).Nodup
  plain : ∀ m ∈ ms, Plain m

theorem Identified.keys_nodup (h : Identified ms) (host : Host) : (ms.map (sortKey host)).Nodup := by
  refine h.nodup.of_map.map_on fun a ha b hb hkey => ?_
  exact List.inj_on_of_nodup_map h.nodup ha hb (guid_of_sortKey (h.plain a ha) (h.plain b hb) hkey)

theorem Identified.perm {ms' : List InFlightMessageEvidence} (h : Identified ms) (hp : ms'.Perm ms) :
    Identified ms' :=
  ⟨(hp.map _).nodup_iff.mpr h.nodup, fun m hm => h.plain m (hp.mem_iff.mp hm)⟩

theorem Identified.of_guids {ms ms' : List InFlightMessageEvidence} (h : Identified ms)
    (hg : ms.map InFlightMessageEvidence.guid = ms'.map InFlightMessageEvidence.guid) : Identified ms' := by
  refine ⟨hg ▸ h.nodup, fun m hm => ?_⟩
  have hmem : m.guid ∈ ms.map InFlightMessageEvidence.guid := hg ▸ List.mem_map_of_mem hm
  obtain ⟨m', hm', he⟩ := List.mem_map.mp hmem
  have hplain := h.plain m' hm'
  rw [Plain, he] at hplain
  exact hplain

/-- Identified messages sort the same way from any arrangement. -/
theorem Identified.sortMessages_eq_of_perm {ms' : List InFlightMessageEvidence} (h : Identified ms)
    (hl : TellsApart host) (hp : ms.Perm ms') : sortMessages host ms = sortMessages host ms' := by
  have hlinear : IsLinearOrder String (collation host) := hl.linear
  rw [sortMessages_eq, sortMessages_eq]
  exact (sortBy_eq_iff_perm (h.keys_nodup host)).mpr hp

end Keys

section Comparable

variable {r r' : ScannerProviderResult}

def messageText (host : Host) (m : InFlightMessageEvidence) : String := canonicalJson host m.toJson

theorem messageText_field (hp : PrintsNumbers host) (h : messageText host a = messageText host b) (key : String) :
    SameField (get (some a.toJson) key) (get (some b.toJson) key) := by
  have hsame : SameField (some a.toJson) (some b.toJson) :=
    .some ((canonicalJson_eq_iff hp (message_keysDistinct a) (message_keysDistinct b)).mp h)
  exact hsame.get key

theorem guid_of_messageText (hp : PrintsNumbers host) (h : messageText host a = messageText host b) :
    a.guid = b.guid := by
  have hguid := (messageText_field hp h "guid").eq_str rfl
  exact (Json.str.inj (Option.some.inj hguid)).symm

theorem map_guid_of_map_messageText (hp : PrintsNumbers host) {ms ms' : List InFlightMessageEvidence}
    (h : ms.map (messageText host) = ms'.map (messageText host)) :
    ms.map InFlightMessageEvidence.guid = ms'.map InFlightMessageEvidence.guid := by
  rw [map_eq_map_iff] at h ⊢
  exact ⟨h.1, fun p hmem => guid_of_messageText hp (h.2 p hmem)⟩

/-- Messages with one text have one sort key, where the index of the event is a finite number. -/
theorem sortKey_of_messageText (hp : PrintsNumbers host) (h : messageText host a = messageText host b)
    (hf : FiniteIndex a) (host' : Host) : sortKey host' a = sortKey host' b := by
  have htext {s t : String} (key : String) (hs : get (some a.toJson) key = some (.str s))
      (ht : get (some b.toJson) key = some (.str t)) : s = t := by
    have hkey := (messageText_field hp h key).eq_str hs
    rw [ht, Option.some.injEq, Json.str.injEq] at hkey
    exact hkey.symm
  have hindex : a.sourceEventIndex = b.sourceEventIndex := by
    obtain ⟨q, hq⟩ := hf
    have ha : get (some a.toJson) "sourceEventIndex" = some (.num (.finite q)) := by
      change some (ofNumber a.sourceEventIndex) = _
      rw [hq]
      rfl
    have hb : some (ofNumber b.sourceEventIndex) = some (.num (.finite q)) :=
      (messageText_field hp h "sourceEventIndex").eq_num ha
    cases hbi : b.sourceEventIndex with
    | finite p =>
      rw [hbi, Option.some.injEq] at hb
      rw [hq, Json.num.inj hb]
    | infinite _ | nan =>
      rw [hbi] at hb
      cases hb
  have hdirection : a.direction.text = b.direction.text := htext "direction" rfl rfl
  have hheight : a.sourceHeight = b.sourceHeight := htext "sourceHeight" rfl rfl
  have htransaction : a.sourceTransaction = b.sourceTransaction := htext "sourceTransaction" rfl rfl
  have hguid : a.guid = b.guid := htext "guid" rfl rfl
  rw [sortKey, sortKey, hdirection, hheight, htransaction, hindex, hguid]

theorem canonicalJson_messages (hp : PrintsNumbers host) {ms ms' : List InFlightMessageEvidence} :
    canonicalJson host (.arr (ms.map InFlightMessageEvidence.toJson)) =
        canonicalJson host (.arr (ms'.map InFlightMessageEvidence.toJson)) ↔
      ms.map (messageText host) = ms'.map (messageText host) := by
  have hkeys (ms : List InFlightMessageEvidence) :
      ∀ v ∈ ms.map InFlightMessageEvidence.toJson, v.KeysDistinct := by
    intro v hv
    obtain ⟨m, _, rfl⟩ := List.mem_map.mp hv
    exact message_keysDistinct m
  rw [canonicalJson_arr_iff hp (hkeys ms) (hkeys ms'), List.map_map, List.map_map]
  rfl

def comparable (host : Host) (r : ScannerProviderResult) : Json :=
  .obj [("ranges", r.ranges.toJson),
    ("sourceMessages", .arr ((sortMessages host r.sourceMessages).map InFlightMessageEvidence.toJson)),
    ("destinationMessages", .arr ((sortMessages host r.destinationMessages).map InFlightMessageEvidence.toJson))]

theorem range_keysDistinct (r : ScanRangeEvidence) : r.toJson.KeysDistinct := by
  refine ⟨?_, ?_⟩
  · simp only [List.map_cons, List.map_nil]
    decide
  · simp only [List.map_cons, List.map_nil, KeysDistinctFields, Json.KeysDistinct, and_true]
    decide

theorem comparable_keysDistinct (r : ScannerProviderResult) : (comparable host r).KeysDistinct := by
  refine ⟨?_, range_keysDistinct r.ranges, keysDistinctItems_map _ message_keysDistinct _,
    keysDistinctItems_map _ message_keysDistinct _, trivial⟩
  simp only [List.map_cons, List.map_nil]
  decide

/-- Two providers agree when their ranges do and their sorted messages, one by one. -/
theorem providerComparable_eq_iff (hp : PrintsNumbers host) :
    providerComparable host r = providerComparable host r' ↔
      canonicalJson host r.ranges.toJson = canonicalJson host r'.ranges.toJson ∧
      (sortMessages host r.sourceMessages).map (messageText host) =
        (sortMessages host r'.sourceMessages).map (messageText host) ∧
      (sortMessages host r.destinationMessages).map (messageText host) =
        (sortMessages host r'.destinationMessages).map (messageText host) := by
  rw [← canonicalJson_messages hp, ← canonicalJson_messages hp]
  constructor
  · intro h
    have hsame : SameField (some (comparable host r)) (some (comparable host r')) :=
      .some ((canonicalJson_eq_iff hp (comparable_keysDistinct r) (comparable_keysDistinct r')).mp h)
    have hfield {v w : Json} (key : String) (hv : v.KeysDistinct) (hw : w.KeysDistinct)
        (hgv : get (some (comparable host r)) key = some v) (hgw : get (some (comparable host r')) key = some w) :
        canonicalJson host v = canonicalJson host w := by
      have hget := hsame.get key
      rw [hgv, hgw] at hget
      cases hget with
      | some hget => exact (canonicalJson_eq_iff hp hv hw).mpr hget
    exact ⟨hfield "ranges" (range_keysDistinct _) (range_keysDistinct _) rfl rfl,
      hfield "sourceMessages" (keysDistinctItems_map _ message_keysDistinct _)
        (keysDistinctItems_map _ message_keysDistinct _) rfl rfl,
      hfield "destinationMessages" (keysDistinctItems_map _ message_keysDistinct _)
        (keysDistinctItems_map _ message_keysDistinct _) rfl rfl⟩
  · rintro ⟨hranges, hsources, hdestinations⟩
    simp only [providerComparable, canonicalJson, canonicalFields] at hranges hsources hdestinations ⊢
    rw [hranges, hsources, hdestinations]

/-- Messages are identified where the messages they were found equal to are. -/
theorem Identified.of_texts (hp : PrintsNumbers host) {ms ms' : List InFlightMessageEvidence} (h : Identified ms)
    (ht : (sortMessages host ms).map (messageText host) = (sortMessages host ms').map (messageText host)) :
    Identified ms' := by
  have hsorted := h.perm (sortMessages_perm host ms)
  exact (Identified.of_guids hsorted (map_guid_of_map_messageText hp ht)).perm (sortMessages_perm host ms').symm

end Comparable

end SanBridge.Tooling.Ordering
