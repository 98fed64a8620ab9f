import Mathlib.Data.Set.Function

namespace SanBridge.Library.Readability

variable {α β γ : Type}

/-- The code of `a` is read off the front of a text in one way only, among the
codes of a domain, whatever allowed text follows. -/
def ReadsOff (tail : Set (List β)) (code : α → List β) (domain : Set α) (a : α) : Prop :=
  ∀ b ∈ domain, ∀ u ∈ tail, ∀ w ∈ tail, code a ++ u = code b ++ w → a = b ∧ u = w

variable {tail : Set (List β)} {code : α → List β} {domain : Set α} {a : α}

theorem ReadsOff.mono {tail' : Set (List β)} (h : ReadsOff tail code domain a) (ht : tail' ⊆ tail) :
    ReadsOff tail' code domain a :=
  fun b hb u hu w hw he => h b hb u (ht hu) w (ht hw) he

theorem injOn_of_readsOff (ht : [] ∈ tail) (h : ∀ a ∈ domain, ReadsOff tail code domain a) : domain.InjOn code := by
  intro a ha b hb he
  exact (h a ha b hb [] ht [] ht (congrArg (· ++ []) he)).1

/-- Codes that follow one another are read off one after the other. -/
theorem ReadsOff.pair {code' : γ → List β} {domain' : Set γ} {c : γ} (h : ReadsOff Set.univ code domain a)
    (h' : ReadsOff tail code' domain' c) :
    ReadsOff tail (fun p : α × γ => code p.1 ++ code' p.2) (domain ×ˢ domain') (a, c) := by
  rintro ⟨b, d⟩ ⟨hb, hd⟩ u hu w hw he
  dsimp only at he
  rw [List.append_assoc, List.append_assoc] at he
  obtain ⟨rfl, hrest⟩ := h b hb _ trivial _ trivial he
  obtain ⟨rfl, hw⟩ := h' d hd u hu w hw hrest
  exact ⟨rfl, hw⟩

theorem ReadsOff.cons (b : β) (h : ReadsOff tail code domain a) :
    ReadsOff tail (fun a => b :: code a) domain a := by
  intro c hc u hu w hw he
  exact h c hc u hu w hw (List.cons.inj he).2

/-- A run of symbols of one kind ends where the first other symbol stands. -/
theorem append_inj_of_all {p : β → Prop} {xs ys u w : List β} (hx : ∀ x ∈ xs, p x) (hy : ∀ y ∈ ys, p y)
    (hu : ∀ x ∈ u.head?, ¬ p x) (hw : ∀ y ∈ w.head?, ¬ p y) (h : xs ++ u = ys ++ w) : xs = ys ∧ u = w := by
  induction xs generalizing ys with
  | nil =>
    cases ys with
    | nil => exact ⟨rfl, h⟩
    | cons y ys =>
      rw [List.nil_append, List.cons_append] at h
      subst h
      exact absurd (hy y List.mem_cons_self) (hu y rfl)
  | cons x xs ih =>
    cases ys with
    | nil =>
      rw [List.nil_append, List.cons_append] at h
      subst h
      exact absurd (hx x List.mem_cons_self) (hw x rfl)
    | cons y ys =>
      rw [List.cons_append, List.cons_append, List.cons.injEq] at h
      obtain ⟨hxs, hrest⟩ := ih (fun z hz => hx z (List.mem_cons_of_mem _ hz))
        (fun z hz => hy z (List.mem_cons_of_mem _ hz)) h.2
      exact ⟨by rw [h.1, hxs], hrest⟩

section Sequences

variable {close sep : β}

/-- The codes of a list on end, up to a symbol that closes the list. -/
def closed (code : α → List β) (close : β) : List α → List β
  | [] => [close]
  | a :: as => code a ++ closed code close as

theorem closed_eq (as : List α) : closed code close as = as.flatMap code ++ [close] := by
  induction as with
  | nil => rfl
  | cons a as ih => rw [closed, ih, List.flatMap_cons, List.append_assoc]

/-- No code begins with the symbol, and none is empty. -/
def Starts (code : α → List β) (domain : Set α) (symbol : β) : Prop :=
  ∀ a ∈ domain, ∃ b rest, code a = b :: rest ∧ b ≠ symbol

theorem Starts.append_ne (h : Starts code domain close) (ha : a ∈ domain) (u w : List β) :
    code a ++ u ≠ close :: w := by
  obtain ⟨b, rest, hc, hb⟩ := h a ha
  rw [hc, List.cons_append]
  intro he
  exact hb (List.cons.inj he).1

theorem readsOff_closed {as : List α} (hs : Starts code domain close) (hd : ∀ a ∈ as, a ∈ domain)
    (h : ∀ a ∈ as, ReadsOff Set.univ code domain a) :
    ReadsOff Set.univ (closed code close) {bs | ∀ b ∈ bs, b ∈ domain} as := by
  intro bs hbs u _ w _ he
  induction as generalizing bs with
  | nil =>
    cases bs with
    | nil => exact ⟨rfl, (List.cons.inj he).2⟩
    | cons b bs =>
      rw [closed, closed, List.append_assoc] at he
      exact absurd he.symm (hs.append_ne (hbs b List.mem_cons_self) _ _)
  | cons a as ih =>
    cases bs with
    | nil =>
      rw [closed, closed, List.append_assoc] at he
      exact absurd he (hs.append_ne (hd a List.mem_cons_self) _ _)
    | cons b bs =>
      rw [closed, closed, List.append_assoc, List.append_assoc] at he
      obtain ⟨rfl, hrest⟩ := h a List.mem_cons_self b (hbs b List.mem_cons_self) _ trivial _ trivial he
      obtain ⟨rfl, hw⟩ := ih (fun c hc => hd c (List.mem_cons_of_mem _ hc))
        (fun c hc => h c (List.mem_cons_of_mem _ hc)) bs (fun c hc => hbs c (List.mem_cons_of_mem _ hc)) hrest
      exact ⟨rfl, hw⟩

/-- The codes of a list with a symbol between them, up to a symbol that closes the list. -/
def separated (code : α → List β) (sep close : β) : List α → List β
  | [] => [close]
  | a :: as => code a ++ closed (fun a => sep :: code a) close as

theorem separated_eq (as : List α) : separated code sep close as = [sep].intercalate (as.map code) ++ [close] := by
  have hrun (a : α) (as : List α) : code a ++ closed (fun a => sep :: code a) close as =
      [sep].intercalate ((a :: as).map code) ++ [close] := by
    induction as generalizing a with
    | nil => rw [closed, List.map_singleton, List.intercalate_singleton]
    | cons b as ih =>
      rw [closed, List.cons_append, ih b]
      simp only [List.map_cons, List.intercalate_cons_cons, List.append_assoc, List.cons_append, List.nil_append]
  cases as with
  | nil => rfl
  | cons a as => exact hrun a as

/-- Items may be followed by the separator and by the closing symbol only. -/
theorem readsOff_separated {as : List α} (hne : sep ≠ close) (hs : Starts code domain close)
    (hsep : ∀ u, sep :: u ∈ tail) (hclose : ∀ u, close :: u ∈ tail) (hd : ∀ a ∈ as, a ∈ domain)
    (h : ∀ a ∈ as, ReadsOff tail code domain a) :
    ReadsOff Set.univ (separated code sep close) {bs | ∀ b ∈ bs, b ∈ domain} as := by
  -- what follows an item opens with one of the two symbols
  have htail (as : List α) (u : List β) : closed (fun a => sep :: code a) close as ++ u ∈ tail := by
    cases as with
    | nil => exact hclose u
    | cons a as => exact hsep _
  have hrun (as bs : List α) (hd : ∀ a ∈ as, a ∈ domain) (h : ∀ a ∈ as, ReadsOff tail code domain a)
      (hbs : ∀ b ∈ bs, b ∈ domain) (u w : List β)
      (he : closed (fun a => sep :: code a) close as ++ u = closed (fun a => sep :: code a) close bs ++ w) :
      as = bs ∧ u = w := by
    induction as generalizing bs with
    | nil =>
      cases bs with
      | nil => exact ⟨rfl, (List.cons.inj he).2⟩
      | cons b bs => exact absurd (List.cons.inj he).1.symm hne
    | cons a as ih =>
      cases bs with
      | nil => exact absurd (List.cons.inj he).1 hne
      | cons b bs =>
        simp only [closed, List.cons_append, List.append_assoc, List.cons.injEq, true_and] at he
        obtain ⟨rfl, hrest⟩ := h a List.mem_cons_self b (hbs b List.mem_cons_self) _ (htail as u) _ (htail bs w) he
        obtain ⟨rfl, hw⟩ := ih bs (fun c hc => hd c (List.mem_cons_of_mem _ hc))
          (fun c hc => h c (List.mem_cons_of_mem _ hc)) (fun c hc => hbs c (List.mem_cons_of_mem _ hc)) hrest
        exact ⟨rfl, hw⟩
  intro bs hbs u _ w _ he
  cases as with
  | nil =>
    cases bs with
    | nil => exact ⟨rfl, (List.cons.inj he).2⟩
    | cons b bs =>
      rw [separated, separated, List.append_assoc] at he
      exact absurd he.symm (hs.append_ne (hbs b List.mem_cons_self) _ _)
  | cons a as =>
    cases bs with
    | nil =>
      rw [separated, separated, List.append_assoc] at he
      exact absurd he (hs.append_ne (hd a List.mem_cons_self) _ _)
    | cons b bs =>
      rw [separated, separated, List.append_assoc, List.append_assoc] at he
      obtain ⟨rfl, hrest⟩ := h a List.mem_cons_self b (hbs b List.mem_cons_self) _ (htail as u) _ (htail bs w) he
      obtain ⟨rfl, hw⟩ := hrun as bs (fun c hc => hd c (List.mem_cons_of_mem _ hc))
        (fun c hc => h c (List.mem_cons_of_mem _ hc)) (fun c hc => hbs c (List.mem_cons_of_mem _ hc)) u w hrest
      exact ⟨rfl, hw⟩

end Sequences

end SanBridge.Library.Readability
