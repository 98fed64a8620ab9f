import Mathlib.Data.List.Nodup
import Mathlib.Logic.Function.Basic
import SanBridge.Library.Runs

namespace SanBridge.Library.OneTime

open Library.Runs

variable {S L K V : Type} [DecidableEq K]

/-- A table of one-time entries: a key is free, or it has an entry, open or closed. -/
abbrev Table (K V : Type) := K → Option (V × Bool)

/-- What a step may do to a table. A closed entry stays, so that its key is never free again. -/
inductive Move (opened closed : Option (K × V)) (table table' : Table K V) : Prop
  | idle (ho : opened = none) (hc : closed = none) (ht : table' = table)
  | opens (k : K) (v : V) (ho : opened = some (k, v)) (hc : closed = none) (free : table k = none)
      (ht : table' = Function.update table k (some (v, false)))
  | closes (k : K) (v : V) (ho : opened = none) (hc : closed = some (k, v)) (entry : table k = some (v, false))
      (ht : table' = Function.update table k (some (v, true)))

/-- A table and the history that led to it. -/
structure Recorded (opened closed : List (K × V)) (table : Table K V) : Prop where
  opened_nodup : (opened.map Prod.fst).Nodup
  closed_nodup : (closed.map Prod.fst).Nodup
  entry : ∀ k v, (k, v) ∈ opened ↔ ∃ c, table k = some (v, c)
  closed_entry : ∀ k v, (k, v) ∈ closed ↔ table k = some (v, true)

variable {opened closed : List (K × V)} {table table' : Table K V} {o c : Option (K × V)} {k : K} {v : V}

omit [DecidableEq K] in
theorem recorded_nil : Recorded [] [] (fun _ => none : Table K V) where
  opened_nodup := List.nodup_nil
  closed_nodup := List.nodup_nil
  entry := by simp
  closed_entry := by simp

namespace Recorded

omit [DecidableEq K] in
theorem free_iff (h : Recorded opened closed table) : table k = none ↔ k ∉ opened.map Prod.fst := by
  constructor
  · intro hfree hk
    obtain ⟨⟨_, v⟩, hv, rfl⟩ := List.mem_map.mp hk
    obtain ⟨c, hc⟩ := (h.entry _ v).mp hv
    rw [hfree] at hc
    cases hc
  · intro hk
    cases ht : table k with
    | none => rfl
    | some e => exact absurd (List.mem_map_of_mem ((h.entry k e.1).mpr ⟨e.2, ht⟩)) hk

omit [DecidableEq K] in
theorem open_iff (h : Recorded opened closed table) :
    table k = some (v, false) ↔ (k, v) ∈ opened ∧ k ∉ closed.map Prod.fst := by
  constructor
  · intro ht
    refine ⟨(h.entry k v).mpr ⟨false, ht⟩, fun hk => ?_⟩
    obtain ⟨⟨_, v'⟩, hv, rfl⟩ := List.mem_map.mp hk
    rw [(h.closed_entry _ v').mp hv] at ht
    cases ht
  · rintro ⟨ho, hk⟩
    obtain ⟨c, hc⟩ := (h.entry k v).mp ho
    cases c with
    | false => exact hc
    | true => exact absurd (List.mem_map_of_mem ((h.closed_entry k v).mpr hc)) hk

theorem opens (h : Recorded opened closed table) (free : table k = none) :
    Recorded (opened ++ [(k, v)]) closed (Function.update table k (some (v, false))) where
  opened_nodup := by
    rw [List.map_append, List.nodup_append_comm]
    exact List.nodup_cons.mpr ⟨h.free_iff.mp free, h.opened_nodup⟩
  closed_nodup := h.closed_nodup
  entry k' v' := by
    rw [List.mem_append, List.mem_singleton, Prod.mk.injEq, h.entry]
    by_cases hk : k' = k
    · subst hk
      simp [free, eq_comm]
    · simp [hk]
  closed_entry k' v' := by
    rw [h.closed_entry]
    by_cases hk : k' = k
    · subst hk
      simp [free]
    · rw [Function.update_of_ne hk]

theorem closes (h : Recorded opened closed table) (entry : table k = some (v, false)) :
    Recorded opened (closed ++ [(k, v)]) (Function.update table k (some (v, true))) where
  opened_nodup := h.opened_nodup
  closed_nodup := by
    rw [List.map_append, List.nodup_append_comm]
    exact List.nodup_cons.mpr ⟨(h.open_iff.mp entry).2, h.closed_nodup⟩
  entry k' v' := by
    rw [h.entry]
    by_cases hk : k' = k
    · subst hk
      simp [entry]
    · rw [Function.update_of_ne hk]
  closed_entry k' v' := by
    rw [List.mem_append, List.mem_singleton, Prod.mk.injEq, h.closed_entry]
    by_cases hk : k' = k
    · subst hk
      simp [entry, eq_comm]
    · simp [hk]

theorem move (h : Recorded opened closed table) (hm : Move o c table table') :
    Recorded (opened ++ o.toList) (closed ++ c.toList) table' := by
  cases hm with
  | idle ho hc ht =>
    subst ho hc ht
    simpa using h
  | opens k v ho hc free ht =>
    subst ho hc ht
    simpa using h.opens free
  | closes k v ho hc entry ht =>
    subst ho hc ht
    simpa using h.closes entry

end Recorded

variable {step : S → L → S → Prop} {view : S → Table K V} {opens closes : S × L → Option (K × V)}

/-- A run records in the table what its steps open and close. -/
theorem recorded_run (hm : ∀ s l t, step s l t → Move (opens (s, l)) (closes (s, l)) (view s) (view t))
    {s t : S} {tr : List (S × L)} (h : Run step s tr t) (hs : Recorded opened closed (view s)) :
    Recorded (opened ++ tr.filterMap opens) (closed ++ tr.filterMap closes) (view t) := by
  induction h generalizing opened closed with
  | nil s => simpa using hs
  | @cons s t u l tr hst _ ih =>
    have hcons : ∀ f : S × L → Option (K × V),
        ((s, l) :: tr).filterMap f = (f (s, l)).toList ++ tr.filterMap f := by
      intro f
      cases hf : f (s, l) with
      | none => rw [List.filterMap_cons_none hf, Option.toList_none, List.nil_append]
      | some e => rw [List.filterMap_cons_some hf, Option.toList_some, List.singleton_append]
    rw [hcons, hcons, ← List.append_assoc, ← List.append_assoc]
    exact ih (hs.move (hm s l t hst))

theorem recorded_from_empty (hm : ∀ s l t, step s l t → Move (opens (s, l)) (closes (s, l)) (view s) (view t))
    {s t : S} {tr : List (S × L)} (h : Run step s tr t) (hs : view s = fun _ => none) :
    Recorded (tr.filterMap opens) (tr.filterMap closes) (view t) :=
  recorded_run hm h (hs ▸ recorded_nil)

end SanBridge.Library.OneTime
