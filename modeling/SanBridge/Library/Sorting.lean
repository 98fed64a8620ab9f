import Mathlib.Data.List.Sort

namespace SanBridge.Library.Sorting

variable {α κ : Type} {key : α → κ} {le : κ → κ → Prop} [DecidableRel le] {xs ys : List α}

def sortBy (key : α → κ) (le : κ → κ → Prop) [DecidableRel le] (xs : List α) : List α :=
  xs.insertionSort fun a b => le (key a) (key b)

theorem sortBy_perm (key : α → κ) (le : κ → κ → Prop) [DecidableRel le] (xs : List α) : (sortBy key le xs).Perm xs :=
  List.perm_insertionSort _ xs

theorem mem_sortBy {a : α} : a ∈ sortBy key le xs ↔ a ∈ xs := (sortBy_perm key le xs).mem_iff

theorem sortBy_map {β : Type} {key' : β → κ} (f : α → β) (h : ∀ a ∈ xs, key' (f a) = key a) :
    sortBy key' le (xs.map f) = (sortBy key le xs).map f := by
  refine (List.map_insertionSort _ _ f xs fun a ha b hb => ?_).symm
  rw [h a ha, h b hb]

theorem sortBy_congr {le' : κ → κ → Prop} [DecidableRel le']
    (h : ∀ a ∈ xs, ∀ b ∈ xs, le (key a) (key b) ↔ le' (key a) (key b)) : sortBy key le xs = sortBy key le' xs := by
  have hid := List.map_insertionSort (fun a b => le (key a) (key b)) (fun a b => le' (key a) (key b)) id xs h
  rw [List.map_id, List.map_id] at hid
  exact hid

/-- Lists whose keys differ are arrangements of one another when they have the same
elements under the same keys. -/
theorem perm_iff_of_keys (hx : (xs.map key).Nodup) :
    xs.Perm ys ↔ (xs.map key).Perm (ys.map key) ∧ ∀ x ∈ xs, ∀ y ∈ ys, key x = key y → x = y := by
  constructor
  · intro h
    exact ⟨h.map key, fun x hx' y hy => List.inj_on_of_nodup_map hx hx' (h.mem_iff.mpr hy)⟩
  · rintro ⟨hkeys, hsame⟩
    have hy : (ys.map key).Nodup := hkeys.nodup_iff.mp hx
    rw [List.perm_ext_iff_of_nodup hx.of_map hy.of_map]
    intro a
    constructor
    · intro ha
      obtain ⟨y, hmem, hk⟩ := List.mem_map.mp (hkeys.mem_iff.mp (List.mem_map_of_mem ha))
      exact hsame a ha y hmem hk.symm ▸ hmem
    · intro ha
      obtain ⟨x, hmem, hk⟩ := List.mem_map.mp (hkeys.mem_iff.mpr (List.mem_map_of_mem ha))
      exact hsame x hmem a ha hk ▸ hmem

section Linear

variable [IsLinearOrder κ le]

theorem sortBy_pairwise (key : α → κ) (xs : List α) : (sortBy key le xs).Pairwise fun a b => le (key a) (key b) := by
  have : Std.Total fun a b => le (key a) (key b) := ⟨fun a b => total_of le (key a) (key b)⟩
  have : IsTrans α fun a b => le (key a) (key b) := ⟨fun _ _ _ h h' => trans_of le h h'⟩
  exact List.pairwise_insertionSort _ xs

theorem sortBy_eq_iff_perm (hx : (xs.map key).Nodup) : sortBy key le xs = sortBy key le ys ↔ xs.Perm ys := by
  constructor
  · intro h
    exact (sortBy_perm key le xs).symm.trans (h ▸ sortBy_perm key le ys)
  · intro h
    have hperm := ((sortBy_perm key le xs).trans h).trans (sortBy_perm key le ys).symm
    refine List.Perm.eq_of_pairwise (fun a b ha hb hab hba => ?_) (sortBy_pairwise key xs) (sortBy_pairwise key ys)
      hperm
    exact List.inj_on_of_nodup_map hx (mem_sortBy.mp ha) (h.mem_iff.mpr (mem_sortBy.mp hb)) (antisymm_of le hab hba)

/-- Of two elements of a list whose keys differ, the one with the smaller key stands
first once the list is sorted. -/
theorem le_iff_getElem (hx : (xs.map key).Nodup) {i j : Nat} (hi : i < (sortBy key le xs).length)
    (hj : j < (sortBy key le xs).length) :
    le (key (sortBy key le xs)[i]) (key (sortBy key le xs)[j]) ↔ i ≤ j := by
  have hsorted : (sortBy key le xs).Pairwise fun a b => le (key a) (key b) := sortBy_pairwise key xs
  have hs := List.pairwise_iff_getElem.mp hsorted
  have hn : ((sortBy key le xs).map key).Nodup := ((sortBy_perm key le xs).map key).nodup_iff.mpr hx
  constructor
  · intro h
    by_contra hij
    have hlt : j < i := not_le.mp hij
    have hkey := antisymm_of le h (hs j i hj hi hlt)
    have hinj := List.inj_on_of_nodup_map hn (List.getElem_mem hi) (List.getElem_mem hj) hkey
    have hnodup : (sortBy key le xs).Nodup := hn.of_map
    exact absurd (hnodup.getElem_inj_iff.mp hinj) (by omega)
  · intro h
    cases Nat.lt_or_eq_of_le h with
    | inl h => exact hs i j hi hj h
    | inr h =>
      subst h
      exact refl_of le _

end Linear

section Aligned

variable {β κ' ι : Type} {key' : β → κ'} {le' : κ' → κ' → Prop} [DecidableRel le'] [IsLinearOrder κ le]
  [IsLinearOrder κ' le'] {ident : α → ι} {ident' : β → ι} {zs : List β}

/-- Two lists of the same items sort into the same order of items exactly when their
orders compare the keys of every two items alike. -/
theorem map_sortBy_eq_iff (hx : (xs.map key).Nodup) (hz : (zs.map key').Nodup) (hident : (xs.map ident).Nodup) :
    (sortBy key le xs).map ident = (sortBy key' le' zs).map ident' ↔
      (xs.map ident).Perm (zs.map ident') ∧
        ∀ a ∈ xs, ∀ b ∈ xs, ∀ c ∈ zs, ∀ d ∈ zs, ident a = ident' c → ident b = ident' d →
          (le (key a) (key b) ↔ le' (key' c) (key' d)) := by
  have hperm := (sortBy_perm key le xs).map ident
  have hperm' := (sortBy_perm key' le' zs).map ident'
  constructor
  · intro h
    refine ⟨hperm.symm.trans (h ▸ hperm'), fun a ha b hb c hc d hd hac hbd => ?_⟩
    have hn : ((sortBy key le xs).map ident).Nodup := hperm.nodup_iff.mpr hident
    have hplace {i k : Nat} (hi : i < (sortBy key le xs).length) (hk : k < (sortBy key' le' zs).length)
        (he : ident (sortBy key le xs)[i] = ident' (sortBy key' le' zs)[k]) : i = k := by
      have hx' : ((sortBy key le xs).map ident)[i]? = some (ident (sortBy key le xs)[i]) := by
        rw [List.getElem?_map, List.getElem?_eq_getElem hi, Option.map_some]
      have hz' : ((sortBy key le xs).map ident)[k]? = some (ident' (sortBy key' le' zs)[k]) := by
        rw [h, List.getElem?_map, List.getElem?_eq_getElem hk, Option.map_some]
      have hi' : i < ((sortBy key le xs).map ident).length := by rwa [List.length_map]
      exact (List.getElem?_inj hi' hn).mp (hx'.trans ((congrArg some he).trans hz'.symm))
    obtain ⟨i, hi, rfl⟩ := List.getElem_of_mem (mem_sortBy.mpr ha : a ∈ sortBy key le xs)
    obtain ⟨j, hj, rfl⟩ := List.getElem_of_mem (mem_sortBy.mpr hb : b ∈ sortBy key le xs)
    obtain ⟨k, hk, rfl⟩ := List.getElem_of_mem (mem_sortBy.mpr hc : c ∈ sortBy key' le' zs)
    obtain ⟨l, hl, rfl⟩ := List.getElem_of_mem (mem_sortBy.mpr hd : d ∈ sortBy key' le' zs)
    rw [le_iff_getElem hx hi hj, le_iff_getElem hz hk hl, hplace hi hk hac, hplace hj hl hbd]
  · rintro ⟨hsame, hle⟩
    have hinj := fun a ha b hb => List.inj_on_of_nodup_map hident (x := a) ha (y := b) hb
    -- the order of the items, as the first list has it
    let before (p q : ι) : Prop := ∃ a ∈ xs, ∃ b ∈ xs, ident a = p ∧ ident b = q ∧ le (key a) (key b)
    have hx' : ((sortBy key le xs).map ident).Pairwise before := by
      refine List.pairwise_map.mpr ((sortBy_pairwise key xs).imp_of_mem fun ha hb h => ?_)
      exact ⟨_, mem_sortBy.mp ha, _, mem_sortBy.mp hb, rfl, rfl, h⟩
    have hz' : ((sortBy key' le' zs).map ident').Pairwise before := by
      refine List.pairwise_map.mpr ((sortBy_pairwise key' zs).imp_of_mem fun {c d} hc hd h => ?_)
      have hc' := mem_sortBy.mp hc
      have hd' := mem_sortBy.mp hd
      obtain ⟨a, ha, hac⟩ := List.mem_map.mp (hsame.mem_iff.mpr (List.mem_map_of_mem hc'))
      obtain ⟨b, hb, hbd⟩ := List.mem_map.mp (hsame.mem_iff.mpr (List.mem_map_of_mem hd'))
      exact ⟨a, ha, b, hb, hac, hbd, (hle a ha b hb c hc' d hd' hac hbd).mpr h⟩
    refine List.Perm.eq_of_pairwise ?_ hx' hz' ((hperm.trans hsame).trans hperm'.symm)
    rintro p q _ _ ⟨a, ha, b, hb, rfl, rfl, hab⟩ ⟨b', hb', a', ha', hbb, haa, hba⟩
    obtain rfl := hinj _ hb' _ hb hbb
    obtain rfl := hinj _ ha' _ ha haa
    rw [List.inj_on_of_nodup_map hx ha hb (antisymm_of le hab hba)]

end Aligned

end SanBridge.Library.Sorting
