import SanBridge.Tooling.SolanaScan

namespace SanBridge.Tooling.Pagination

open Library.Checked Tooling.Runtime Tooling.SolanaScan

variable {rpc : SolanaRpc} {entries page older : List SignatureInfo} {fromSlot toSlot : Int}

section Entries

def entriesBefore (entries : List SignatureInfo) : Option String → List SignatureInfo
  | none => entries
  | some signature => (entries.dropWhile fun item => item.signature ≠ signature).tail

theorem entriesBefore_last {last : SignatureInfo}
    (hd : ((page ++ last :: older).map SignatureInfo.signature).Nodup) :
    entriesBefore (page ++ last :: older) (some last.signature) = older := by
  have hpage : ∀ item ∈ page, item.signature ≠ last.signature := by
    intro item hitem he
    rw [List.map_append, List.map_cons] at hd
    exact (List.disjoint_of_nodup_append hd) (List.mem_map_of_mem hitem) (he ▸ List.mem_cons_self)
  rw [entriesBefore, List.dropWhile_append_of_pos fun item hitem => decide_eq_true (hpage item hitem),
    List.dropWhile_cons_of_neg (by simp), List.tail_cons]

def Wanted (fromSlot toSlot : Int) (item : SignatureInfo) : Prop :=
  fromSlot ≤ item.slot ∧ item.slot ≤ toSlot ∧ item.failed = false

instance (item : SignatureInfo) : Decidable (Wanted fromSlot toSlot item) := inferInstanceAs (Decidable (_ ∧ _))

def wanted (fromSlot toSlot : Int) (entries : List SignatureInfo) : List SignatureInfo :=
  entries.filter fun item => Wanted fromSlot toSlot item

theorem wanted_append : wanted fromSlot toSlot (page ++ older) =
    wanted fromSlot toSlot page ++ wanted fromSlot toSlot older :=
  List.filter_append ..

theorem wanted_eq_nil (h : ∀ item ∈ entries, (item.slot : Int) < fromSlot) : wanted fromSlot toSlot entries = [] := by
  rw [wanted, List.filter_eq_nil_iff]
  intro item hitem hw
  have hlt := h item hitem
  have hle := (of_decide_eq_true hw).1
  omega

variable (fromSlot toSlot) in
/-- The loop over a page keeps what is wanted of it, and stops where nothing older is wanted. -/
theorem visitPage_ordered (ho : (page ++ older).Pairwise fun a b => b.slot ≤ a.slot) :
    (visitPage fromSlot toSlot page).1 = wanted fromSlot toSlot page ∧
      ((visitPage fromSlot toSlot page).2 = true → wanted fromSlot toSlot older = []) := by
  induction page with
  | nil => exact ⟨rfl, fun h => by cases h⟩
  | cons item page ih =>
    rw [List.cons_append, List.pairwise_cons] at ho
    obtain ⟨hle, ho⟩ := ho
    obtain ⟨hkept, hcomplete⟩ := ih ho
    rw [visitPage]
    by_cases hslot : (item.slot : Int) < fromSlot
    · -- everything from here on is older than the range
      have hold : ∀ item' ∈ item :: (page ++ older), (item'.slot : Int) < fromSlot := by
        intro item' h'
        cases List.mem_cons.mp h' with
        | inl h' => exact h' ▸ hslot
        | inr h' =>
          have hle' := hle item' h'
          omega
      rw [if_pos hslot, wanted_eq_nil fun item' h' => hold item' (List.mem_append_left older h')]
      exact ⟨rfl, fun _ => wanted_eq_nil fun item' h' => hold item' (List.mem_append_right (item :: page) h')⟩
    · rw [if_neg hslot]
      refine ⟨?_, hcomplete⟩
      have hfrom : fromSlot ≤ item.slot := Int.not_lt.mp hslot
      simp only [hkept, wanted, List.filter_cons, Wanted, hfrom, true_and, decide_eq_true_eq]

end Entries

section Pages

/-- A page that continues the history before a signature. It ends where the node likes,
but is not empty while anything older remains. -/
structure IsPage (entries : List SignatureInfo) (before : Option String) (page : List SignatureInfo) : Prop where
  isPrefix : page <+: entriesBefore entries before
  complete : page = [] → entriesBefore entries before = []

theorem isPage_take (entries : List SignatureInfo) (before : Option String) {size : Nat} (h : 0 < size) :
    IsPage entries before ((entriesBefore entries before).take size) where
  isPrefix := List.take_prefix size _
  complete := by
    intro hnil
    exact (List.take_eq_nil_iff.mp hnil).resolve_left h.ne'

theorem IsPage.split {before : Option String} (hd : (entries.map SignatureInfo.signature).Nodup)
    (hb : entriesBefore entries before <:+ entries) (h : IsPage entries before page) {last : SignatureInfo}
    (hlast : page.getLast? = some last) :
    entriesBefore entries before = page ++ entriesBefore entries (some last.signature) ∧
      entriesBefore entries (some last.signature) <:+ entries := by
  obtain ⟨older, hpage⟩ := h.isPrefix
  obtain ⟨newer, hnewer⟩ := hb
  obtain ⟨init, rfl⟩ := List.getLast?_eq_some_iff.mp hlast
  have hentries : entries = (newer ++ init) ++ last :: older := by
    rw [← hnewer, ← hpage]
    simp
  have hnext : entriesBefore entries (some last.signature) = older := by
    rw [hentries] at hd ⊢
    exact entriesBefore_last hd
  rw [hnext]
  exact ⟨hpage.symm, ⟨newer ++ (init ++ [last]), by rw [hentries]; simp⟩⟩

variable (hpages : ∀ before page, rpc.getSignaturesForAddress before = .ok page → IsPage entries before page)
  (ho : entries.Pairwise fun a b => b.slot ≤ a.slot) (hd : (entries.map SignatureInfo.signature).Nodup)

include hpages ho hd

/-- The loop collects what is wanted, each entry once, newest first. -/
theorem collectSignatures_eq {fuel : Nat} {before : Option String} {signatures : List SignatureInfo} {complete : Bool}
    (hb : entriesBefore entries before <:+ entries)
    (h : collectSignatures rpc fromSlot toSlot fuel before = .ok (signatures, complete)) :
    signatures = wanted fromSlot toSlot (entriesBefore entries before) ∧ complete = true := by
  induction fuel generalizing before signatures complete with
  | zero => cases h
  | succ fuel ih =>
    obtain ⟨page, hpage, h⟩ := bind_eq_ok.mp h
    have hpage := hpages before page hpage
    cases hlast : page.getLast? with
    | none =>
      rw [hlast] at h
      cases h
      rw [hpage.complete (List.getLast?_eq_none_iff.mp hlast)]
      exact ⟨rfl, rfl⟩
    | some last =>
      rw [hlast] at h
      obtain ⟨hsplit, hsuffix⟩ := hpage.split hd hb hlast
      have hordered := ho.sublist hb.sublist
      rw [hsplit] at hordered
      obtain ⟨hkept, hcomplete⟩ := visitPage_ordered fromSlot toSlot hordered
      rw [hsplit, wanted_append]
      change (if (visitPage fromSlot toSlot page).2 = true then _ else _) = _ at h
      by_cases hc : (visitPage fromSlot toSlot page).2 = true
      · rw [if_pos hc, Except.ok.injEq, Prod.mk.injEq] at h
        obtain ⟨rfl, rfl⟩ := h
        rw [hcomplete hc, List.append_nil]
        exact ⟨hkept, rfl⟩
      · rw [if_neg hc] at h
        obtain ⟨⟨rest, c⟩, hrest, h⟩ := bind_eq_ok.mp h
        obtain ⟨rfl, rfl⟩ := ih hsuffix hrest
        cases h
        rw [hkept]
        exact ⟨rfl, rfl⟩

omit ho in
/-- Every page makes the rest of the history shorter, so the loop ends when all requests are answered. -/
theorem collectSignatures_returns (hanswers : ∀ before, ∃ page, rpc.getSignaturesForAddress before = .ok page)
    {fuel : Nat} {before : Option String} (hb : entriesBefore entries before <:+ entries)
    (hfuel : (entriesBefore entries before).length < fuel) :
    ∃ result, collectSignatures rpc fromSlot toSlot fuel before = .ok result := by
  induction fuel generalizing before with
  | zero => omega
  | succ fuel ih =>
    obtain ⟨page, hpage⟩ := hanswers before
    rw [collectSignatures, hpage, ok_bind]
    cases hlast : page.getLast? with
    | none => exact ⟨_, rfl⟩
    | some last =>
      obtain ⟨hsplit, hsuffix⟩ := (hpages before page hpage).split hd hb hlast
      have hshorter : (entriesBefore entries (some last.signature)).length < fuel := by
        have hpos : page ≠ [] := by
          rintro rfl
          cases hlast
        have hlength := List.length_pos_iff.mpr hpos
        rw [hsplit, List.length_append] at hfuel
        omega
      obtain ⟨rest, hrest⟩ := ih hsuffix hshorter
      change ∃ result, (if (visitPage fromSlot toSlot page).2 = true then _ else _) = Except.ok result
      by_cases hc : (visitPage fromSlot toSlot page).2 = true
      · rw [if_pos hc]
        exact ⟨_, rfl⟩
      · rw [if_neg hc, hrest]
        exact ⟨_, rfl⟩

end Pages

end SanBridge.Tooling.Pagination
