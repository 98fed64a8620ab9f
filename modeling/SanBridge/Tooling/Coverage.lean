import Mathlib.Data.List.Perm.Basic
import SanBridge.Tooling.Pagination
import SanBridge.Tooling.RobinhoodScan

namespace SanBridge.Tooling.Coverage

open Library.Checked Tooling.Runtime Tooling.SolanaScan Tooling.RobinhoodScan Tooling.Pagination

section Blocks

variable {first mid last height : Int} {ws : List (Int × Int)} {chain : List Log}

def blocks (first last : Int) : List Int := (List.range (last + 1 - first).toNat).map fun i : Nat => first + i

theorem mem_blocks : height ∈ blocks first last ↔ first ≤ height ∧ height ≤ last := by
  rw [blocks, List.mem_map]
  constructor
  · rintro ⟨i, hi, rfl⟩
    have hlt := List.mem_range.mp hi
    omega
  · rintro ⟨hfirst, hlast⟩
    exact ⟨(height - first).toNat, List.mem_range.mpr (by omega), by omega⟩

theorem nodup_blocks : (blocks first last).Nodup := by
  apply List.Nodup.map _ List.nodup_range
  intro i j h
  exact Int.ofNat.inj (Int.add_left_cancel h)

theorem blocks_append (hfirst : first ≤ mid + 1) (hlast : mid ≤ last) :
    blocks first mid ++ blocks (mid + 1) last = blocks first last := by
  have hcount : (last + 1 - first).toNat = (mid + 1 - first).toNat + (last + 1 - (mid + 1)).toNat := by omega
  rw [blocks, blocks, blocks, hcount, List.range_add, List.map_append, List.map_map]
  congr 1
  apply List.map_congr_left
  intro i _
  simp only [Function.comp_apply, Nat.cast_add]
  omega

theorem blocks_eq_nil (h : last < first) : blocks first last = [] := by
  have hcount : (last + 1 - first).toNat = 0 := by omega
  rw [blocks, hcount]
  rfl

def logsIn (chain : List Log) (first last : Int) : List Log :=
  chain.filter fun log => first ≤ log.blockNumber ∧ log.blockNumber ≤ last

theorem filter_heights {heights : List Int} (hd : heights.Nodup) :
    (heights.flatMap fun height => chain.filter fun log => (log.blockNumber : Int) = height).Perm
      (chain.filter fun log => (log.blockNumber : Int) ∈ heights) := by
  induction heights with
  | nil => simp
  | cons height heights ih =>
    obtain ⟨hnew, hd⟩ := List.nodup_cons.mp hd
    have hsplit := List.filter_append_perm (fun log : Log => decide ((log.blockNumber : Int) = height))
      (chain.filter fun log => (log.blockNumber : Int) ∈ height :: heights)
    rw [List.filter_filter, List.filter_filter] at hsplit
    refine .trans ?_ hsplit
    rw [List.flatMap_cons]
    apply List.Perm.append
    · apply List.Perm.of_eq
      apply List.filter_congr
      intro log _
      by_cases h : (log.blockNumber : Int) = height <;> simp [h]
    · refine (ih hd).trans (.of_eq ?_)
      apply List.filter_congr
      intro log _
      by_cases h : (log.blockNumber : Int) = height
      · simp [h, hnew]
      · simp [h]

theorem logsIn_blocks : ((blocks first last).flatMap fun height =>
    chain.filter fun log => (log.blockNumber : Int) = height).Perm (logsIn chain first last) := by
  refine (filter_heights nodup_blocks).trans (.of_eq ?_)
  apply List.filter_congr
  intro log _
  rw [decide_eq_decide]
  exact mem_blocks

/-- The windows one after another are the range, height by height. -/
structure Partition (ws : List (Int × Int)) (first last : Int) : Prop where
  nonempty : ∀ w ∈ ws, w.1 ≤ w.2
  blocks_eq : (ws.flatMap fun w => blocks w.1 w.2) = blocks first last

theorem Partition.nil (h : last < first) : Partition [] first last := ⟨by simp, (blocks_eq_nil h).symm⟩

theorem Partition.cons {size : Int} (hsize : 1 ≤ size) (hfirst : first ≤ last)
    (h : Partition ws (first + size) last) :
    Partition ((first, min (first + size - 1) last) :: ws) first last where
  nonempty := by
    intro w hw
    cases List.mem_cons.mp hw with
    | inl hw =>
      rw [hw]
      exact le_min (by omega) hfirst
    | inr hw => exact h.nonempty w hw
  blocks_eq := by
    rw [List.flatMap_cons, h.blocks_eq]
    by_cases hlast : first + size - 1 ≤ last
    · have hjoin := @blocks_append first (first + size - 1) last (by omega) hlast
      rw [Int.sub_add_cancel] at hjoin
      rw [min_eq_left hlast, hjoin]
    · have hempty : blocks (first + size) last = [] := blocks_eq_nil (by omega)
      rw [min_eq_right (by omega), hempty, List.append_nil]

/-- Whatever the logs, the windows show each of the range once. -/
theorem Partition.logs (h : Partition ws first last) (chain : List Log) :
    (ws.flatMap fun w => logsIn chain w.1 w.2).Perm (logsIn chain first last) := by
  have hwindows : (ws.flatMap fun w => logsIn chain w.1 w.2).Perm (ws.flatMap fun w =>
      (blocks w.1 w.2).flatMap fun height => chain.filter fun log => (log.blockNumber : Int) = height) :=
    List.Perm.flatMap_left ws fun w _ => logsIn_blocks.symm
  rw [← List.flatMap_assoc, h.blocks_eq] at hwindows
  exact hwindows.trans logsIn_blocks

end Blocks

section Windows

variable {host : Host} {formats : EvmFormats} {rpc : RobinhoodRpc} {robinhoodOft solanaStore : String} {found : Found}
  {toBlock pageSize : Int}

def visitWindow (host : Host) (formats : EvmFormats) (rpc : RobinhoodRpc) (robinhoodOft solanaStore : String)
    (found : Found) (w : Int × Int) : Result Found := do
  let logs ← rpc.getLogs robinhoodOft w.1 w.2
  logs.foldlM (visitLog host formats rpc robinhoodOft solanaStore) found

/-- The loop goes through windows that partition the range, the same whatever the node answers. -/
theorem scanWindows_eq (hsize : 1 ≤ pageSize) (n : Nat) (start : Int) (hn : (toBlock + 1 - start).toNat ≤ n) :
    ∃ ws, Partition ws start toBlock ∧
      ∀ (host : Host) (formats : EvmFormats) (rpc : RobinhoodRpc) (robinhoodOft solanaStore : String) (found : Found)
        (fuel : Nat), n < fuel →
          scanWindows host formats rpc robinhoodOft solanaStore toBlock pageSize fuel start found =
          ws.foldlM (visitWindow host formats rpc robinhoodOft solanaStore) found := by
  induction n using Nat.strong_induction_on generalizing start with
  | h n ih =>
    by_cases hend : toBlock < start
    · refine ⟨[], Partition.nil hend, ?_⟩
      intro host formats rpc robinhoodOft solanaStore found fuel hf
      obtain ⟨fuel, rfl⟩ := Nat.exists_eq_add_of_lt hf
      rw [scanWindows, if_pos hend]
      rfl
    · obtain ⟨ws, hws, hrun⟩ := ih (n - 1) (by omega) (start + pageSize) (by omega)
      refine ⟨(start, min (start + pageSize - 1) toBlock) :: ws, Partition.cons hsize (by omega) hws, ?_⟩
      intro host formats rpc robinhoodOft solanaStore found fuel hf
      obtain ⟨fuel, rfl⟩ : ∃ rest, fuel = rest + 1 := ⟨fuel - 1, by omega⟩
      rw [scanWindows, if_neg hend, List.foldlM_cons, visitWindow, bind_assoc]
      apply bind_congr
      intro logs
      apply bind_congr
      intro found
      exact hrun _ _ _ _ _ _ _ (by omega)

theorem visitWindows_logs {ws : List (Int × Int)} {chain : List Log}
    (h : ∀ w ∈ ws, rpc.getLogs robinhoodOft w.1 w.2 = .ok (logsIn chain w.1 w.2)) :
    ws.foldlM (visitWindow host formats rpc robinhoodOft solanaStore) found =
      (ws.flatMap fun w => logsIn chain w.1 w.2).foldlM (visitLog host formats rpc robinhoodOft solanaStore)
        found := by
  induction ws generalizing found with
  | nil => rfl
  | cons w ws ih =>
    rw [List.foldlM_cons, visitWindow, h w List.mem_cons_self, ok_bind, List.flatMap_cons, List.foldlM_append]
    apply bind_congr
    intro found
    exact ih fun w' hw' => h w' (List.mem_cons_of_mem w hw')

end Windows

section Histories

/-- What a program did, as a node keeps it: newest first, each transaction once. -/
structure SignatureHistory where
  entries : List SignatureInfo
  ordered : entries.Pairwise fun a b => b.slot ≤ a.slot
  distinct : (entries.map SignatureInfo.signature).Nodup

/-- Both scanners end. The one keeps the successful entries of its slots and no other,
each once, however the node cuts the history; the other shows every log of its blocks once. -/
theorem scanners_cover :
    (∀ (rpc : SolanaRpc) (history : SignatureHistory) (fromSlot toSlot : Int),
      (∀ before, ∃ page, rpc.getSignaturesForAddress before = .ok page ∧ IsPage history.entries before page) →
      (wanted fromSlot toSlot history.entries).Nodup ∧
      ∃ bound, ∀ fuel, bound ≤ fuel → collectSignatures rpc fromSlot toSlot fuel none =
        .ok (wanted fromSlot toSlot history.entries, true)) ∧
    ∀ fromBlock toBlock pageSize : Int, 1 ≤ pageSize → ∃ ws bound, Partition ws fromBlock toBlock ∧
      (∀ (host : Host) (formats : EvmFormats) (rpc : RobinhoodRpc) (robinhoodOft solanaStore : String) (found : Found)
        (fuel : Nat), bound ≤ fuel →
        scanWindows host formats rpc robinhoodOft solanaStore toBlock pageSize fuel fromBlock found =
          ws.foldlM (visitWindow host formats rpc robinhoodOft solanaStore) found) ∧
      ∀ chain : List Log, ∃ examined : List Log, examined.Perm (logsIn chain fromBlock toBlock) ∧
        ∀ (host : Host) (formats : EvmFormats) (rpc : RobinhoodRpc) (robinhoodOft solanaStore : String)
          (found : Found) (fuel : Nat), bound ≤ fuel →
          (∀ w ∈ ws, rpc.getLogs robinhoodOft w.1 w.2 = .ok (logsIn chain w.1 w.2)) →
          scanWindows host formats rpc robinhoodOft solanaStore toBlock pageSize fuel fromBlock found =
            examined.foldlM (visitLog host formats rpc robinhoodOft solanaStore) found := by
  constructor
  · intro rpc history fromSlot toSlot hnode
    have hpages : ∀ before page, rpc.getSignaturesForAddress before = .ok page →
        IsPage history.entries before page := by
      intro before page hpage
      obtain ⟨page', hpage', hispage⟩ := hnode before
      rw [hpage, Except.ok.injEq] at hpage'
      exact hpage' ▸ hispage
    have hanswers (before : Option String) : ∃ page, rpc.getSignaturesForAddress before = .ok page := by
      obtain ⟨page, hpage, _⟩ := hnode before
      exact ⟨page, hpage⟩
    have hall : entriesBefore history.entries none <:+ history.entries := List.suffix_refl _
    refine ⟨(List.Nodup.of_map _ history.distinct).filter _, history.entries.length + 1, fun fuel hfuel => ?_⟩
    obtain ⟨⟨signatures, complete⟩, hresult⟩ := @collectSignatures_returns rpc history.entries fromSlot toSlot hpages
      history.distinct hanswers fuel none hall (Nat.lt_of_succ_le hfuel)
    obtain ⟨rfl, rfl⟩ := collectSignatures_eq hpages history.ordered history.distinct hall hresult
    exact hresult
  · intro fromBlock toBlock pageSize hsize
    obtain ⟨ws, hws, hrun⟩ := scanWindows_eq hsize _ fromBlock le_rfl
    refine ⟨ws, (toBlock + 1 - fromBlock).toNat + 1, hws, ?_, fun chain => ⟨_, hws.logs chain, ?_⟩⟩
    · intro host formats rpc robinhoodOft solanaStore found fuel hfuel
      exact hrun _ _ _ _ _ _ _ (Nat.lt_of_succ_le hfuel)
    · intro host formats rpc robinhoodOft solanaStore found fuel hfuel hlogs
      rw [hrun _ _ _ _ _ _ _ (Nat.lt_of_succ_le hfuel), visitWindows_logs hlogs]

end Histories

section Sample

/-- An entry newer than the range of slots from 3 to 7, two within, one of them failed, and one older. -/
def sampleHistory : SignatureHistory where
  entries := [⟨"d", 9, false⟩, ⟨"c", 5, true⟩, ⟨"b", 5, false⟩, ⟨"a", 1, false⟩]
  ordered := by decide
  distinct := by decide

def singleNode : SolanaRpc where
  getSlot := .ok 9
  getFirstAvailableBlock := .ok 0
  getBlock slot := .ok (some (toString slot))
  getGenesisHash := .ok Inventory.solanaMainnetGenesisHash
  getSignaturesForAddress before := .ok ((entriesBefore sampleHistory.entries before).take 1)
  getParsedTransaction _ := .ok none
  extractSentPacketEventByTxHash _ := .ok none

theorem scanners_cover_sample :
    (∃ bound, ∀ fuel, bound ≤ fuel →
      collectSignatures singleNode 3 7 fuel none = .ok ([⟨"b", 5, false⟩], true)) ∧
    ∃ ws, Partition ws 10 14 := by
  have hpages : ∀ before, ∃ page, singleNode.getSignaturesForAddress before = .ok page ∧
      IsPage sampleHistory.entries before page :=
    fun before => ⟨_, rfl, isPage_take sampleHistory.entries before Nat.one_pos⟩
  obtain ⟨ws, _, hws, _⟩ := scanners_cover.2 10 14 2 (by decide)
  exact ⟨(scanners_cover.1 singleNode sampleHistory 3 7 hpages).2, ws, hws⟩

end Sample

end SanBridge.Tooling.Coverage
