import Mathlib.Data.List.Nodup
import Mathlib.Data.List.Perm.Basic
import Mathlib.Logic.Function.Basic

namespace SanBridge.Library.Grouping

variable {α β κ : Type} [DecidableEq κ] (key : α → κ)

section Groups

/-- The group of its key takes the item at its end; an item of a new key opens a group at the end. -/
def insertItem : List (κ × List α) → α → List (κ × List α)
  | [], a => [(key a, [a])]
  | group :: groups, a =>
    if group.1 = key a then (group.1, group.2 ++ [a]) :: groups else group :: insertItem groups a

def groupBy (items : List α) : List (κ × List α) := items.foldl (insertItem key) []

/-- A group has items, and all of them are of its key. -/
def Keyed (group : κ × List α) : Prop := group.2 ≠ [] ∧ ∀ a ∈ group.2, key a = group.1

variable {key} {groups : List (κ × List α)} {a : α}

theorem keyed_insertItem (a : α) (h : ∀ group ∈ groups, Keyed key group) :
    ∀ group ∈ insertItem key groups a, Keyed key group := by
  induction groups with
  | nil =>
    intro group hg
    obtain rfl := List.mem_singleton.mp hg
    exact ⟨List.cons_ne_nil _ _, fun b hb => by rw [List.mem_singleton.mp hb]⟩
  | cons first groups ih =>
    obtain ⟨⟨hne, hkey⟩, hrest⟩ := List.forall_mem_cons.mp h
    rw [insertItem]
    split_ifs with hk
    · refine List.forall_mem_cons.mpr ⟨⟨by simp, fun b hb => ?_⟩, hrest⟩
      cases List.mem_append.mp hb with
      | inl hb => exact hkey b hb
      | inr hb => rw [List.mem_singleton.mp hb, hk]
    · exact List.forall_mem_cons.mpr ⟨⟨hne, hkey⟩, ih hrest⟩

variable (key) in
theorem insertItem_perm (groups : List (κ × List α)) (a : α) :
    ((insertItem key groups a).flatMap Prod.snd).Perm (groups.flatMap Prod.snd ++ [a]) := by
  induction groups with
  | nil => exact List.Perm.refl _
  | cons first groups ih =>
    rw [insertItem]
    split_ifs with hk
    · rw [List.flatMap_cons, List.flatMap_cons, List.append_assoc, List.append_assoc]
      exact List.perm_append_comm.append_left first.2
    · rw [List.flatMap_cons, List.flatMap_cons, List.append_assoc]
      exact ih.append_left first.2

/-- The groups hold items of their keys, and between them what was grouped. -/
theorem foldl_insertItem (items : List α) (groups : List (κ × List α)) (h : ∀ group ∈ groups, Keyed key group) :
    (∀ group ∈ items.foldl (insertItem key) groups, Keyed key group) ∧
      ((items.foldl (insertItem key) groups).flatMap Prod.snd).Perm (groups.flatMap Prod.snd ++ items) := by
  induction items generalizing groups with
  | nil => exact ⟨h, by simp⟩
  | cons a items ih =>
    obtain ⟨hkeyed, hperm⟩ := ih _ (keyed_insertItem a h)
    refine ⟨hkeyed, hperm.trans ?_⟩
    have hstep := (insertItem_perm key groups a).append_right items
    rwa [List.append_assoc, List.singleton_append] at hstep

theorem keyed_groupBy (items : List α) : ∀ group ∈ groupBy key items, Keyed key group :=
  (foldl_insertItem items [] nofun).1

theorem groupBy_perm (items : List α) : ((groupBy key items).flatMap Prod.snd).Perm items :=
  (foldl_insertItem items [] nofun).2

end Groups

section Tables

/-- The entry of an item replaces an earlier one of its key. -/
def record (value : α → β) (table : κ → β) (a : α) : κ → β := Function.update table (key a) (value a)

variable {key} {value : α → β} {table : κ → β} {items : List α} {a : α}

theorem foldl_record_of_not_mem {k : κ} (h : k ∉ items.map key) :
    items.foldl (record key value) table k = table k := by
  induction items generalizing table with
  | nil => rfl
  | cons a items ih =>
    rw [List.map_cons, List.mem_cons, not_or] at h
    rw [List.foldl_cons, ih h.2]
    exact Function.update_of_ne h.1 _ _

theorem foldl_record_of_mem (hn : (items.map key).Nodup) (ha : a ∈ items) :
    items.foldl (record key value) table (key a) = value a := by
  induction items generalizing table with
  | nil => cases ha
  | cons b items ih =>
    rw [List.map_cons, List.nodup_cons] at hn
    rw [List.foldl_cons]
    cases List.mem_cons.mp ha with
    | inl hab =>
      subst hab
      rw [foldl_record_of_not_mem hn.1]
      exact Function.update_self _ _ _
    | inr hb => exact ih hn.2 hb

end Tables

end SanBridge.Library.Grouping
