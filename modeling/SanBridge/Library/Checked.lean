import Mathlib.Data.List.Forall2
import Mathlib.Data.Nat.Basic
import Mathlib.Tactic.Common

namespace SanBridge.Library.Checked

variable {ε α β : Type}

theorem ok_bind (a : α) (f : α → Except ε β) : (Except.ok a >>= f) = f a := rfl

theorem error_bind (e : ε) (f : α → Except ε β) : ((.error e : Except ε α) >>= f) = .error e := rfl

/-- A sequence succeeds exactly when its first part does and the rest succeeds after it. -/
theorem bind_eq_ok {m : Except ε α} {k : α → Except ε β} {r : β} :
    m >>= k = .ok r ↔ ∃ v, m = .ok v ∧ k v = .ok r := by
  cases m with
  | ok v => simp only [ok_bind, Except.ok.injEq, exists_eq_left']
  | error e => simp only [error_bind, reduceCtorEq, false_and, exists_false]

theorem bind_eq_error {m : Except ε α} {k : α → Except ε β} {e : ε} :
    m >>= k = .error e ↔ m = .error e ∨ ∃ v, m = .ok v ∧ k v = .error e := by
  cases m with
  | ok v => simp only [ok_bind, reduceCtorEq, Except.ok.injEq, exists_eq_left', false_or]
  | error e' => simp only [error_bind, Except.error.injEq, reduceCtorEq, false_and, exists_false, or_false]

theorem pure_eq_ok {v w : α} : (pure v : Except ε α) = .ok w ↔ v = w := by
  change Except.ok v = Except.ok w ↔ v = w
  rw [Except.ok.injEq]

def require (e : ε) (c : Bool) : Except ε Unit := if c then .ok () else .error e

@[simp] theorem require_eq_ok {e : ε} {c : Bool} {u : Unit} : require e c = .ok u ↔ c = true := by
  cases c <;> simp [require]

@[simp] theorem require_eq_error {e e' : ε} {c : Bool} : require e c = .error e' ↔ c = false ∧ e = e' := by
  cases c <;> simp [require]

def ofOption (e : ε) : Option α → Except ε α
  | some a => .ok a
  | none => .error e

@[simp] theorem ofOption_eq_ok {e : ε} {o : Option α} {a : α} : ofOption e o = .ok a ↔ o = some a := by
  cases o <;> simp [ofOption]

theorem toOption_eq_some {m : Except ε α} {a : α} : m.toOption = some a ↔ m = .ok a := by
  cases m with
  | ok b => simp only [Except.toOption, Option.some.injEq, Except.ok.injEq]
  | error e => simp only [Except.toOption, reduceCtorEq]

theorem forM_eq_ok {f : α → Except ε Unit} {xs : List α} {u : Unit} :
    xs.forM f = .ok u ↔ ∀ x ∈ xs, f x = .ok u := by
  induction xs with
  | nil =>
    have hnil : List.forM [] f = .ok u := rfl
    simp only [hnil, List.not_mem_nil, false_imp_iff, implies_true]
  | cons x xs ih =>
    change (f x >>= fun _ => xs.forM f) = .ok u ↔ _
    rw [bind_eq_ok, List.forall_mem_cons]
    constructor
    · rintro ⟨_, hx, hxs⟩
      exact ⟨hx, ih.mp hxs⟩
    · rintro ⟨hx, hxs⟩
      exact ⟨u, hx, ih.mpr hxs⟩

theorem mapM_of_forall {f : α → Except ε β} {g : α → β} {xs : List α} (h : ∀ x ∈ xs, f x = .ok (g x)) :
    xs.mapM f = .ok (xs.map g) := by
  induction xs with
  | nil => rfl
  | cons x xs ih =>
    rw [List.mapM_cons, h x List.mem_cons_self, ok_bind, ih fun y hy => h y (List.mem_cons_of_mem _ hy)]
    rfl

theorem mapM_eq_ok {f : α → Except ε β} {xs : List α} {ys : List β} :
    xs.mapM f = .ok ys ↔ List.Forall₂ (fun x y => f x = .ok y) xs ys := by
  induction xs generalizing ys with
  | nil =>
    rw [List.mapM_nil, pure_eq_ok, List.forall₂_nil_left_iff]
    exact eq_comm
  | cons x xs ih =>
    simp only [List.mapM_cons, bind_eq_ok, pure_eq_ok, List.forall₂_cons_left_iff, ih]
    constructor
    · rintro ⟨y, hy, ys, hys, rfl⟩
      exact ⟨y, ys, hy, hys, rfl⟩
    · rintro ⟨y, ys, hy, hys, rfl⟩
      exact ⟨y, hy, ys, hys, rfl⟩

/-- A loop each of whose rounds appends to a list appends, in order, what its rounds append. -/
theorem foldlM_collects {σ : Type} {f : σ → α → Except ε σ} (proj : σ → List β) {R : α → List β → Prop}
    {xs : List α} (hf : ∀ x ∈ xs, ∀ s t, f s x = .ok t → ∃ new, proj t = proj s ++ new ∧ R x new) {s t : σ}
    (h : xs.foldlM f s = .ok t) :
    ∃ rounds : List (α × List β), rounds.map Prod.fst = xs ∧ (∀ r ∈ rounds, R r.1 r.2) ∧
      proj t = proj s ++ rounds.flatMap Prod.snd := by
  induction xs generalizing s with
  | nil =>
    rw [List.foldlM_nil, pure_eq_ok] at h
    subst h
    exact ⟨[], rfl, by simp, by simp⟩
  | cons x xs ih =>
    obtain ⟨u, hu, h⟩ := bind_eq_ok.mp h
    obtain ⟨new, hnew, hR⟩ := hf x List.mem_cons_self s u hu
    obtain ⟨rounds, hfst, hall, hproj⟩ := ih (fun y hy => hf y (List.mem_cons_of_mem _ hy)) h
    refine ⟨(x, new) :: rounds, by rw [List.map_cons, hfst], ?_, ?_⟩
    · exact List.forall_mem_cons.mpr ⟨hR, hall⟩
    · rw [hproj, hnew, List.flatMap_cons, List.append_assoc]

/-- A loop whose rounds check an item and update a state succeeds exactly when each check does. -/
theorem foldlM_eq_ok {σ : Type} {f : σ → α → Except ε σ} {good : α → Prop} {next : σ → α → σ} {xs : List α}
    (hf : ∀ x ∈ xs, ∀ s t, f s x = .ok t ↔ good x ∧ t = next s x) {s t : σ} :
    xs.foldlM f s = .ok t ↔ (∀ x ∈ xs, good x) ∧ t = xs.foldl next s := by
  induction xs generalizing s with
  | nil =>
    rw [List.foldlM_nil, pure_eq_ok]
    simp only [List.not_mem_nil, false_imp_iff, implies_true, true_and, List.foldl_nil, eq_comm]
  | cons x xs ih =>
    have hrest : ∀ u, xs.foldlM f u = .ok t ↔ (∀ y ∈ xs, good y) ∧ t = xs.foldl next u :=
      fun u => ih fun y hy => hf y (List.mem_cons_of_mem _ hy)
    rw [List.foldlM_cons, bind_eq_ok, List.forall_mem_cons, List.foldl_cons]
    constructor
    · rintro ⟨u, hu, hxs⟩
      obtain ⟨hx, rfl⟩ := (hf x List.mem_cons_self s u).mp hu
      obtain ⟨hall, ht⟩ := (hrest _).mp hxs
      exact ⟨⟨hx, hall⟩, ht⟩
    · rintro ⟨⟨hx, hall⟩, ht⟩
      exact ⟨_, (hf x List.mem_cons_self s _).mpr ⟨hx, rfl⟩, (hrest _).mpr ⟨hall, ht⟩⟩

/-- Run a fallible update on the value of an option, when there is one. -/
def onSome (f : α → Except ε α) : Option α → Except ε (Option α)
  | some a => some <$> f a
  | none => .ok none

@[simp] theorem onSome_none {f : α → Except ε α} {r : Option α} : onSome f none = .ok r ↔ r = none := by
  simp [onSome, eq_comm]

@[simp] theorem onSome_some {f : α → Except ε α} {a : α} {r : Option α} :
    onSome f (some a) = .ok r ↔ ∃ b, f a = .ok b ∧ r = some b := by
  cases hf : f a with
  | error e => simp [onSome, hf, Functor.map, Except.map]
  | ok b => simp [onSome, hf, Functor.map, Except.map, eq_comm]

/-- Addition that aborts at the bound instead of wrapping. -/
def add (bound : Nat) (e : ε) (a b : Nat) : Except ε Nat :=
  if a + b < bound then .ok (a + b) else .error e

def sub (e : ε) (a b : Nat) : Except ε Nat := if b ≤ a then .ok (a - b) else .error e

def mul (bound : Nat) (e : ε) (a b : Nat) : Except ε Nat :=
  if a * b < bound then .ok (a * b) else .error e

variable {bound a b c : Nat} {e : ε}

theorem add_eq_ok : add bound e a b = .ok c ↔ a + b < bound ∧ c = a + b := by
  by_cases h : a + b < bound
  · simp [add, h, eq_comm]
  · simp [add, h]

theorem sub_eq_ok : sub e a b = .ok c ↔ b ≤ a ∧ c = a - b := by
  by_cases h : b ≤ a
  · simp [sub, h, eq_comm]
  · simp [sub, h]

theorem mul_eq_ok : mul bound e a b = .ok c ↔ a * b < bound ∧ c = a * b := by
  by_cases h : a * b < bound
  · simp [mul, h, eq_comm]
  · simp [mul, h]

def saturatingAdd (max a b : Nat) : Nat := min max (a + b)

def saturatingMul (max a b : Nat) : Nat := min max (a * b)

end SanBridge.Library.Checked
