import Mathlib.Algebra.Order.BigOperators.Group.List
import Mathlib.Algebra.Order.Monoid.Defs

namespace SanBridge.Library.Runs

variable {S L M : Type} {step : S → L → S → Prop}

/-- A finite run of a labelled transition relation. The trace keeps, for every
step, the state it was taken in, so that a cost may depend on both. -/
inductive Run (step : S → L → S → Prop) : S → List (S × L) → S → Prop
  | nil (s : S) : Run step s [] s
  | cons {s t u : S} {l : L} {tr : List (S × L)} (h : step s l t) (r : Run step t tr u) :
      Run step s ((s, l) :: tr) u

def Reaches (step : S → L → S → Prop) (s t : S) : Prop := ∃ tr, Run step s tr t

theorem Run.append {s t u : S} {tr tr' : List (S × L)} (h : Run step s tr t)
    (h' : Run step t tr' u) : Run step s (tr ++ tr') u := by
  induction h with
  | nil s => exact h'
  | cons hs _ ih => exact Run.cons hs (ih h')

theorem Run.single {s t : S} {l : L} (h : step s l t) : Run step s [(s, l)] t :=
  Run.cons h (Run.nil t)

theorem Reaches.refl (s : S) : Reaches step s s := ⟨[], Run.nil s⟩

theorem Reaches.trans {s t u : S} (h : Reaches step s t) (h' : Reaches step t u) :
    Reaches step s u := by
  obtain ⟨tr, hr⟩ := h
  obtain ⟨tr', hr'⟩ := h'
  exact ⟨tr ++ tr', hr.append hr'⟩

theorem Reaches.tail {s t u : S} {l : L} (h : Reaches step s t) (hs : step t l u) :
    Reaches step s u :=
  h.trans ⟨_, Run.single hs⟩

/-- What one step preserves, a whole run preserves. -/
theorem Run.invariant {I : S → Prop} (hI : ∀ s l t, I s → step s l t → I t)
    {s t : S} {tr : List (S × L)} (h : Run step s tr t) (hs : I s) : I t := by
  induction h with
  | nil s => exact hs
  | cons hst _ ih => exact ih (hI _ _ _ hs hst)

theorem Reaches.invariant {I : S → Prop} (hI : ∀ s l t, I s → step s l t → I t)
    {s t : S} (h : Reaches step s t) (hs : I s) : I t := by
  obtain ⟨tr, hr⟩ := h
  exact hr.invariant hI hs

theorem Run.split {s u : S} {tr tr' : List (S × L)} {p : S × L} (h : Run step s (tr ++ p :: tr') u) :
    Run step s tr p.1 ∧ ∃ t, step p.1 p.2 t ∧ Run step t tr' u := by
  induction tr generalizing s with
  | nil =>
    cases h with
    | cons hst r => exact ⟨Run.nil _, _, hst, r⟩
  | cons q tr ih =>
    cases h with
    | cons hst r =>
      obtain ⟨hr, hrest⟩ := ih r
      exact ⟨Run.cons hst hr, hrest⟩

/-- A run all of whose steps satisfy a guard is a run of the guarded relation. -/
theorem Run.restrict {G : S × L → Prop} {s t : S} {tr : List (S × L)} (h : Run step s tr t)
    (hG : ∀ p ∈ tr, G p) : Run (fun s l t => G (s, l) ∧ step s l t) s tr t := by
  induction h with
  | nil s => exact Run.nil s
  | cons hst _ ih =>
    have hl := hG _ List.mem_cons_self
    exact Run.cons ⟨hl, hst⟩ (ih fun p hp => hG p (List.mem_cons_of_mem _ hp))

theorem Run.mono {step' : S → L → S → Prop} (hle : ∀ s l t, step s l t → step' s l t)
    {s t : S} {tr : List (S × L)} (h : Run step s tr t) : Run step' s tr t := by
  induction h with
  | nil s => exact Run.nil s
  | cons hst _ ih => exact Run.cons (hle _ _ _ hst) ih

/-- A guarded run is a run of another relation, under other labels. -/
theorem Run.relabel {N : Type} {step' : S → N → S → Prop} {G : S × L → Prop} (name : L → N)
    (hstep : ∀ s l t, G (s, l) → step s l t → step' s (name l) t) {s t : S} {tr : List (S × L)} (h : Run step s tr t)
    (hG : ∀ p ∈ tr, G p) : Run step' s (tr.map (Prod.map id name)) t := by
  induction h with
  | nil s => exact Run.nil s
  | cons hst _ ih =>
    have hl := hG _ List.mem_cons_self
    exact Run.cons (hstep _ _ _ hl hst) (ih fun p hp => hG p (List.mem_cons_of_mem _ hp))

theorem Run.forall_steps {I : S → Prop} {P : S × L → Prop}
    (hI : ∀ s l t, I s → step s l t → I t) (hP : ∀ s l t, I s → step s l t → P (s, l))
    {s t : S} {tr : List (S × L)} (h : Run step s tr t) (hs : I s) : ∀ p ∈ tr, P p := by
  induction h with
  | nil s => simp
  | cons hst _ ih =>
    intro p hp
    rcases List.mem_cons.mp hp with rfl | hp
    · exact hP _ _ _ hs hst
    · exact ih (hI _ _ _ hs hst) p hp

/-- A view of the state that every step changes as its label says is, after a
run, what the labels one after the other make of it. -/
theorem Run.replay {X : Type} {I : S → Prop} (view : S → X) (act : X → S × L → X)
    (hI : ∀ s l t, I s → step s l t → I t)
    (hv : ∀ s l t, I s → step s l t → view t = act (view s) (s, l))
    {s t : S} {tr : List (S × L)} (h : Run step s tr t) (hs : I s) :
    view t = tr.foldl act (view s) := by
  induction h with
  | nil s => rfl
  | cons hst _ ih =>
    rw [List.foldl_cons, ← hv _ _ _ hs hst]
    exact ih (hI _ _ _ hs hst)

/-- Where every step either shows as a step of another relation or leaves the view of the
state alone, a run shows as the run of its steps that show. -/
theorem Run.project {T N : Type} {step' : T → N → T → Prop} {I : S → Prop} (view : S → T)
    (label : S × L → Option (T × N)) (hI : ∀ s l t, I s → step s l t → I t)
    (hp : ∀ s l t, I s → step s l t → (label (s, l) = none ∧ view t = view s) ∨
      ∃ n, label (s, l) = some (view s, n) ∧ step' (view s) n (view t))
    {s t : S} {tr : List (S × L)} (h : Run step s tr t) (hs : I s) :
    Run step' (view s) (tr.filterMap label) (view t) := by
  induction h with
  | nil s => exact Run.nil _
  | @cons s t u l tr hst _ ih =>
    have hrest := ih (hI _ _ _ hs hst)
    rcases hp s l t hs hst with ⟨hl, hv⟩ | ⟨n, hl, hn⟩
    · rw [List.filterMap_cons_none hl, ← hv]
      exact hrest
    · rw [List.filterMap_cons_some hl]
      exact Run.cons hn hrest

section Budget

variable [AddCommMonoid M]

def total (cost : S × L → M) (tr : List (S × L)) : M := (tr.map cost).sum

@[simp] theorem total_nil (cost : S × L → M) : total cost [] = 0 := rfl

@[simp] theorem total_cons (cost : S × L → M) (p : S × L) (tr : List (S × L)) :
    total cost (p :: tr) = cost p + total cost tr := by
  simp [total]

theorem total_append (cost : S × L → M) (tr tr' : List (S × L)) :
    total cost (tr ++ tr') = total cost tr + total cost tr' := by
  simp [total]

theorem total_eq_zero {cost : S × L → M} {tr : List (S × L)} (h : ∀ p ∈ tr, cost p = 0) : total cost tr = 0 := by
  apply List.sum_eq_zero
  intro x hx
  obtain ⟨p, hp, rfl⟩ := List.mem_map.mp hx
  exact h p hp

/-- Double entry: if what a step puts in and what it takes out account for the
change of the balance, they do so for a whole run. -/
theorem Run.account {I : S → Prop} (balance : S → M) (put taken : S × L → M)
    (hI : ∀ s l t, I s → step s l t → I t)
    (hb : ∀ s l t, I s → step s l t → balance s + put (s, l) = balance t + taken (s, l))
    {s t : S} {tr : List (S × L)} (h : Run step s tr t) (hs : I s) :
    balance s + total put tr = balance t + total taken tr := by
  induction h with
  | nil s => rfl
  | @cons s t u l tr hst _ ih =>
    have hstep := hb s l t hs hst
    have hrest := ih (hI _ _ _ hs hst)
    calc balance s + total put ((s, l) :: tr)
        = balance s + put (s, l) + total put tr := by rw [total_cons, add_assoc]
      _ = balance t + total put tr + taken (s, l) := by rw [hstep, add_right_comm]
      _ = balance u + total taken tr + taken (s, l) := by rw [hrest]
      _ = balance u + total taken ((s, l) :: tr) := by rw [total_cons, add_assoc, add_comm (total taken tr)]

variable [PartialOrder M] [IsOrderedAddMonoid M]

/-- The potential argument: if no step spends more than the potential it
destroys and the amount it is granted, neither does a whole run. -/
theorem Run.budget {I : S → Prop} (level : S → M) (spent granted : S × L → M)
    (hI : ∀ s l t, I s → step s l t → I t)
    (hb : ∀ s l t, I s → step s l t → spent (s, l) + level t ≤ level s + granted (s, l))
    {s t : S} {tr : List (S × L)} (h : Run step s tr t) (hs : I s) :
    total spent tr + level t ≤ level s + total granted tr := by
  induction h with
  | nil s => simp
  | @cons s t u l tr hst _ ih =>
    have hstep := hb s l t hs hst
    have hrest := ih (hI _ _ _ hs hst)
    calc total spent ((s, l) :: tr) + level u
        = spent (s, l) + (total spent tr + level u) := by rw [total_cons, add_assoc]
      _ ≤ spent (s, l) + (level t + total granted tr) := add_le_add_right hrest _
      _ = (spent (s, l) + level t) + total granted tr := by rw [add_assoc]
      _ ≤ (level s + granted (s, l)) + total granted tr := add_le_add_left hstep _
      _ = level s + total granted ((s, l) :: tr) := by rw [total_cons, add_assoc]

end Budget

end SanBridge.Library.Runs
