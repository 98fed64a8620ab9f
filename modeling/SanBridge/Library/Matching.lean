import Mathlib.Algebra.BigOperators.Group.List.Basic
import Mathlib.Data.List.Nodup
import Mathlib.Data.Multiset.Filter
import Mathlib.Data.Multiset.UnionInter
import Mathlib.Tactic.Abel

namespace SanBridge.Library.Matching

variable {K S D α : Type} [DecidableEq K] (key : S → K)

/-- Take the entry of every item's key out of a keyed list, item after item. -/
def consume : List (K × D) → List S → List (S × Option D) × List (K × D)
  | entries, [] => ([], entries)
  | entries, s :: items =>
    ((s, entries.lookup (key s)) :: (consume (entries.filter fun e => e.1 ≠ key s) items).1,
      (consume (entries.filter fun e => e.1 ≠ key s) items).2)

variable {key} {entries : List (K × D)} {items : List S}

theorem lookup_eq_none {k : K} : entries.lookup k = none ↔ k ∉ entries.map Prod.fst := by
  rw [List.lookup_eq_none_iff, List.mem_map]
  constructor
  · rintro h ⟨e, he, rfl⟩
    simpa using h e he
  · intro h e he
    simpa using fun hk : k = e.1 => h ⟨e, he, hk.symm⟩

theorem mem_of_lookup {k : K} {d : D} (h : entries.lookup k = some d) : (k, d) ∈ entries := by
  obtain ⟨l₁, l₂, rfl, _⟩ := List.lookup_eq_some_iff.mp h
  exact List.mem_append_right _ List.mem_cons_self

theorem lookup_eq_some {k : K} {d : D} (hn : (entries.map Prod.fst).Nodup) :
    entries.lookup k = some d ↔ (k, d) ∈ entries := by
  refine ⟨mem_of_lookup, fun h => ?_⟩
  cases hl : entries.lookup k with
  | none => exact absurd (List.mem_map_of_mem h) (lookup_eq_none.mp hl)
  | some d' =>
    have h' := mem_of_lookup hl
    have he := List.inj_on_of_nodup_map hn h' h rfl
    rw [Prod.mk.injEq] at he
    rw [he.2]

omit [DecidableEq K] in
theorem nodup_filter {p : K × D → Bool} (hn : (entries.map Prod.fst).Nodup) :
    ((entries.filter p).map Prod.fst).Nodup :=
  hn.sublist (List.filter_sublist.map _)

theorem lookup_cons_of_ne {k : K} {e : K × D} (h : k ≠ e.1) : (e :: entries).lookup k = entries.lookup k := by
  obtain ⟨k', d⟩ := e
  rw [List.lookup_cons, beq_false_of_ne h]

theorem lookup_filter_of_ne {k k' : K} (h : k ≠ k') :
    (entries.filter fun e => e.1 ≠ k').lookup k = entries.lookup k := by
  induction entries with
  | nil => rfl
  | cons e entries ih =>
    by_cases he : e.1 = k'
    · rw [List.filter_cons_of_neg (by simpa using he), ih, lookup_cons_of_ne (he ▸ h)]
    · rw [List.filter_cons_of_pos (by simpa using he)]
      by_cases hk : k = e.1
      · subst hk
        exact List.lookup_cons_self.trans List.lookup_cons_self.symm
      · rw [lookup_cons_of_ne hk, lookup_cons_of_ne hk, ih]

theorem filter_eq_self_of_lookup {k : K} (h : entries.lookup k = none) :
    entries.filter (fun e => e.1 ≠ k) = entries := by
  apply List.filter_eq_self.mpr
  intro e he
  have hne : e.1 ≠ k := fun hk => lookup_eq_none.mp h (hk ▸ List.mem_map_of_mem he)
  exact decide_eq_true hne

theorem consume_fst : ((consume key entries items).1.map Prod.fst) = items := by
  induction items generalizing entries with
  | nil => rfl
  | cons s items ih => simp only [consume, List.map_cons, ih]

theorem mem_of_consume {s : S} {d : D} (h : (s, some d) ∈ (consume key entries items).1) :
    (key s, d) ∈ entries := by
  induction items generalizing entries with
  | nil => cases h
  | cons t items ih =>
    rw [consume, List.mem_cons] at h
    cases h with
    | inl h =>
      rw [Prod.mk.injEq] at h
      exact h.1 ▸ mem_of_lookup h.2.symm
    | inr h => exact List.mem_of_mem_filter (ih h)

theorem consume_rest :
    (consume key entries items).2 = entries.filter fun e => e.1 ∉ items.map key := by
  induction items generalizing entries with
  | nil => simp [consume]
  | cons s items ih =>
    simp only [consume, ih, List.filter_filter]
    apply List.filter_congr
    intro e _
    by_cases he : e.1 = key s
    · simp [he]
    · simp only [List.map_cons, List.mem_cons, he, false_or, decide_not, decide_false, Bool.not_false,
        Bool.and_true]

theorem consume_of_nodup (hk : (items.map key).Nodup) :
    (consume key entries items).1 = items.map fun s => (s, entries.lookup (key s)) := by
  induction items generalizing entries with
  | nil => rfl
  | cons s items ih =>
    rw [List.map_cons, List.nodup_cons] at hk
    rw [consume, List.map_cons, ih hk.2, List.cons.injEq]
    refine ⟨rfl, List.map_congr_left fun t ht => ?_⟩
    have hne : key t ≠ key s := by
      intro he
      exact hk.1 (he ▸ List.mem_map_of_mem ht)
    rw [lookup_filter_of_ne hne]

section Arrangement

variable {entries' : List (K × D)} {items' : List S}

theorem lookup_perm (hn : (entries.map Prod.fst).Nodup) (h : entries.Perm entries') (k : K) :
    entries.lookup k = entries'.lookup k := by
  apply Option.ext
  intro d
  rw [lookup_eq_some hn, lookup_eq_some ((h.map Prod.fst).nodup_iff.mp hn)]
  exact h.mem_iff

/-- Of distinct keys, what every item is given and what remains do not depend on the
order of the items, nor on that of the entries. -/
theorem consume_perm (hk : (items.map key).Nodup) (hn : (entries.map Prod.fst).Nodup) (hi : items.Perm items')
    (he : entries.Perm entries') :
    (consume key entries items).1.Perm (consume key entries' items').1 ∧
      (consume key entries items).2.Perm (consume key entries' items').2 := by
  have hkeys : ∀ k, k ∈ items.map key ↔ k ∈ items'.map key := fun k => (hi.map key).mem_iff
  constructor
  · rw [consume_of_nodup hk, consume_of_nodup ((hi.map key).nodup_iff.mp hk)]
    simp only [lookup_perm hn he]
    exact hi.map _
  · rw [consume_rest, consume_rest]
    simp only [hkeys]
    exact he.filter _

end Arrangement

section Balance

variable [AddCommMonoid α] {f : S → α} {g : D → α}

def weight (g : D → α) (entries : List (K × D)) : α := (entries.map fun e => g e.2).sum

theorem weight_of_lookup {k : K} {d : D} (hn : (entries.map Prod.fst).Nodup)
    (h : entries.lookup k = some d) :
    weight g entries = g d + weight g (entries.filter fun e => e.1 ≠ k) := by
  induction entries with
  | nil => cases h
  | cons e entries ih =>
    rw [List.map_cons, List.nodup_cons] at hn
    by_cases hk : k = e.1
    · subst hk
      obtain rfl : e.2 = d := Option.some.inj (List.lookup_cons_self.symm.trans h)
      have hf := filter_eq_self_of_lookup (lookup_eq_none.mpr hn.1)
      rw [List.filter_cons_of_neg (by simp), hf, weight, List.map_cons, List.sum_cons]
      rfl
    · rw [lookup_cons_of_ne hk] at h
      have hi := ih hn.2 h
      rw [List.filter_cons_of_pos (by simpa using Ne.symm hk)]
      simp only [weight, List.map_cons, List.sum_cons] at hi ⊢
      rw [hi]
      abel

def unmatched (pairs : List (S × Option D)) : List S := (pairs.filter fun p => p.2.isNone).map Prod.fst

variable (key) (items) in
/-- Where every match agrees in weight, the items weigh what the entries taken out
do, and what the unmatched items do. -/
theorem consume_balance (hn : (entries.map Prod.fst).Nodup)
    (ha : ∀ s d, (s, some d) ∈ (consume key entries items).1 → f s = g d) :
    (items.map f).sum + weight g (consume key entries items).2 =
      weight g entries + ((unmatched (consume key entries items).1).map f).sum := by
  induction items generalizing entries with
  | nil => simp [consume, unmatched, weight]
  | cons s items ih =>
    have hi := ih (nodup_filter hn) fun s' d h => ha s' d (List.mem_cons_of_mem _ h)
    cases hl : entries.lookup (key s) with
    | none =>
      have hf := filter_eq_self_of_lookup hl
      simp only [hf] at hi
      simp only [consume, hl, hf, unmatched, Option.isNone_none, List.filter_cons_of_pos, List.map_cons,
        List.sum_cons]
      rw [add_assoc, hi, unmatched]
      abel
    | some d =>
      have hs : f s = g d := ha s d (by simp [consume, hl])
      have hw := weight_of_lookup (g := g) hn hl
      simp only [consume, hl, unmatched, List.map_cons, List.sum_cons]
      rw [List.filter_cons_of_neg (by simp), hw, hs, add_assoc, hi, unmatched, add_assoc]

end Balance

section Pending

variable {key : S → K} {opened closed pending : Multiset S}

/-- Of distinct keys, what was opened and not closed is what no key was closed for. -/
theorem pending_eq_filter (h : opened = closed + pending) (hn : (opened.map key).Nodup) :
    pending = opened.filter fun x => key x ∉ closed.map key := by
  rw [h, Multiset.map_add] at hn
  have hd := (Multiset.nodup_add.mp hn).2.2
  have hclosed : closed.filter (fun x => key x ∉ closed.map key) = 0 := by
    apply Multiset.filter_eq_nil.mpr
    intro x hx hk
    exact hk (Multiset.mem_map_of_mem key hx)
  have hpending : pending.filter (fun x => key x ∉ closed.map key) = pending := by
    apply Multiset.filter_eq_self.mpr
    intro x hx hk
    exact Multiset.disjoint_left.mp hd hk (Multiset.mem_map_of_mem key hx)
  rw [h, Multiset.filter_add, hclosed, hpending, Multiset.zero_add]

omit [DecidableEq K] in
theorem nodup_closed (h : opened = closed + pending) (hn : (opened.map key).Nodup) : (closed.map key).Nodup := by
  rw [h, Multiset.map_add] at hn
  exact (Multiset.nodup_add.mp hn).1

end Pending

end SanBridge.Library.Matching
