import Mathlib.Data.List.Perm.Basic

namespace SanBridge.Library.Permutation

variable {α β γ : Type} {R : α → β → Prop} {xs : List α} {ys : List β}

/-- One list is the other up to its order and, entry by entry, up to a relation. -/
def PermBy (R : α → β → Prop) (xs : List α) (ys : List β) : Prop := ∃ zs, xs.Perm zs ∧ List.Forall₂ R zs ys

namespace PermBy

theorem of_perm {xs' : List α} (h : xs.Perm xs') : PermBy (· = ·) xs xs' := ⟨xs', h, List.forall₂_refl xs'⟩

theorem of_forall₂ (h : List.Forall₂ R xs ys) : PermBy R xs ys := ⟨xs, List.Perm.refl xs, h⟩

theorem length_eq (h : PermBy R xs ys) : xs.length = ys.length := by
  obtain ⟨zs, hperm, hall⟩ := h
  rw [hperm.length_eq, hall.length_eq]

theorem flip (h : PermBy R xs ys) : PermBy (fun y x => R x y) ys xs := by
  obtain ⟨zs, hperm, hall⟩ := h
  obtain ⟨us, hus, hperm'⟩ := List.perm_comp_forall₂ hperm hall
  exact ⟨us, hperm'.symm, List.Forall₂.flip hus⟩

theorem covers (h : PermBy R xs ys) {y : β} (hy : y ∈ ys) : ∃ x ∈ xs, R x y := by
  obtain ⟨zs, hperm, hall⟩ := h
  suffices hz : ∃ x ∈ zs, R x y by
    obtain ⟨x, hx, hxy⟩ := hz
    exact ⟨x, hperm.mem_iff.mpr hx, hxy⟩
  clear hperm
  induction hall with
  | nil => cases hy
  | cons hr _ ih =>
    cases List.mem_cons.mp hy with
    | inl he => exact ⟨_, List.mem_cons_self, he ▸ hr⟩
    | inr hy =>
      obtain ⟨x, hx, hxy⟩ := ih hy
      exact ⟨x, List.mem_cons_of_mem _ hx, hxy⟩

theorem comp {S : β → γ → Prop} {T : α → γ → Prop} {zs : List γ} (h : PermBy R xs ys) (h' : PermBy S ys zs)
    (hcomp : ∀ a b c, R a b → S b c → T a c) : PermBy T xs zs := by
  obtain ⟨us, hus, hall⟩ := h
  obtain ⟨vs, hvs, hall'⟩ := h'
  obtain ⟨ws, hws, hboth⟩ : Relation.Comp List.Perm (List.Forall₂ R) us vs := by
    rw [← List.forall₂_comp_perm_eq_perm_comp_forall₂]
    exact ⟨ys, hall, hvs⟩
  refine ⟨ws, hus.trans hws, ?_⟩
  clear hus hvs hws hall
  induction hboth generalizing zs with
  | nil =>
    cases hall'
    exact .nil
  | cons hr _ ih =>
    cases hall' with
    | cons hs hall' => exact .cons (hcomp _ _ _ hr hs) (ih hall')

theorem symm {R : α → α → Prop} {xs ys : List α} (h : PermBy R xs ys) (hR : ∀ {a b}, R a b → R b a) :
    PermBy R ys xs :=
  h.flip.comp (of_perm (List.Perm.refl xs)) fun _ _ _ hab hbc => hbc ▸ hR hab

theorem pairwise {S : α → α → Prop} {T : β → β → Prop} (h : PermBy R xs ys) (hs : xs.Pairwise S)
    (hsymm : ∀ {a b}, S a b → S b a) (hT : ∀ {a b c d}, R a c → R b d → S a b → T c d) : ys.Pairwise T := by
  obtain ⟨zs, hperm, hall⟩ := h
  have hzs : zs.Pairwise S := (hperm.pairwise_iff hsymm).mp hs
  clear hperm hs
  induction hall with
  | nil => exact .nil
  | @cons z y zs ys hr hall ih =>
    obtain ⟨hz, hzs⟩ := List.pairwise_cons.mp hzs
    refine List.pairwise_cons.mpr ⟨?_, ih hzs⟩
    intro y' hy'
    obtain ⟨z', hz', hr'⟩ := (of_forall₂ hall).covers hy'
    exact hT hr hr' (hz z' hz')

end PermBy

/-- A list of the same length that covers entries no two of which are covered at once
is a permutation of them. -/
theorem permBy_of_covers (hlength : xs.length = ys.length) (hcovers : ∀ y ∈ ys, ∃ x ∈ xs, R x y)
    (hdistinct : ys.Pairwise fun y y' => ∀ x, R x y → ¬ R x y') : PermBy R xs ys := by
  induction ys generalizing xs with
  | nil => exact ⟨[], by rw [List.length_eq_zero_iff.mp hlength], .nil⟩
  | cons y ys ih =>
    obtain ⟨hy, hdistinct⟩ := List.pairwise_cons.mp hdistinct
    obtain ⟨x, hx, hxy⟩ := hcovers y List.mem_cons_self
    obtain ⟨before, after, rfl⟩ := List.append_of_mem hx
    have hmiddle := @List.perm_middle _ x before after
    have hrest : ∀ y' ∈ ys, ∃ x' ∈ before ++ after, R x' y' := by
      intro y' hy'
      obtain ⟨x', hx', hxy'⟩ := hcovers y' (List.mem_cons_of_mem y hy')
      have hne : x' ≠ x := by
        rintro rfl
        exact hy y' hy' x' hxy hxy'
      exact ⟨x', (List.mem_cons.mp (hmiddle.mem_iff.mp hx')).resolve_left hne, hxy'⟩
    have hshorter : (before ++ after).length = ys.length := by
      rw [hmiddle.length_eq, List.length_cons, List.length_cons] at hlength
      exact Nat.succ.inj hlength
    obtain ⟨zs, hperm, hall⟩ := ih hshorter hrest hdistinct
    exact ⟨x :: zs, hmiddle.trans (hperm.cons x), .cons hxy hall⟩

end SanBridge.Library.Permutation
