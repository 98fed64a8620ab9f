import SanBridge.Library.Runs
import SanBridge.Solana.Buckets

namespace SanBridge.Solana.Replay

open Library.Checked Library.Runs Library.TokenBucket Solana.Runtime Solana.State Solana.Buckets

inductive LimiterCall
  | refill (extraTokens : U64)
  | tryConsume (amount : U64)

def LimiterCall.exec (clock : Clock) (r : RateLimiter) : LimiterCall → Result RateLimiter
  | .refill extraTokens => r.refill clock extraTokens
  | .tryConsume amount => r.tryConsume clock amount

/-- A call at a point in time. The answer is what is left, or none for a refusal. -/
structure LimiterEvent where
  clock : Clock
  call : LimiterCall
  answer : Option Nat

/-- A refusal aborts the instruction and takes back the refill before it; a caller
that goes on keeps the refill. -/
inductive LimiterStep : RateLimiter → LimiterEvent → RateLimiter → Prop
  | done {r r' : RateLimiter} {clock : Clock} {call : LimiterCall} (h : call.exec clock r = .ok r') :
      LimiterStep r ⟨clock, call, some r'.tokens⟩ r'
  | refused {r r' : RateLimiter} {clock : Clock} {call : LimiterCall} {e : ProgramError}
      (h : call.exec clock r = .error e) (hr : r' = r ∨ r.refill clock 0 = .ok r') :
      LimiterStep r ⟨clock, call, none⟩ r'

def exactTokens (r : RateLimiter) (clock : Clock) (extraTokens : Nat) : Nat :=
  min r.capacity (r.tokens + extraTokens +
    (clock.unixTimestamp.toNat - r.lastRefillTime) * r.refillPerSecond)

def exactAnswer (r : RateLimiter) (clock : Clock) : LimiterCall → Option Nat
  | .refill extraTokens => some (exactTokens r clock extraTokens)
  | .tryConsume amount =>
    if amount ≤ exactTokens r clock 0 then some (exactTokens r clock 0 - amount) else none

/-- The clocks of a run never go back, and not before the given time. -/
def ClocksFrom (time : Nat) (tr : List (RateLimiter × LimiterEvent)) : Prop :=
  ((time : Int) :: tr.map fun p => p.2.clock.unixTimestamp).Pairwise (· ≤ ·)

variable {r r' : RateLimiter} {clock : Clock} {call : LimiterCall} {l : LimiterEvent} {n time : Nat}
  {tr : List (RateLimiter × LimiterEvent)}

section Meter

def meter (hv : Valid r) : Meter ℕ :=
  ⟨⟨r.capacity, r.tokens, hv.tokens_le⟩, r.refillPerSecond, r.lastRefillTime⟩

theorem level_meter (hv : Valid r) : (meter hv).level clock.unixTimestamp.toNat = exactTokens r clock 0 := rfl

theorem refill_exact (hv : Valid r) (hc : 0 ≤ clock.unixTimestamp) : r.refill clock n = .ok
    { r with tokens := exactTokens r clock n, lastRefillTime := clock.unixTimestamp.toNat } := by
  rw [refill_eq_ok hv, accrued, ← Nat.add_assoc]
  exact ⟨hc, rfl⟩

theorem tryConsume_exact (hv : Valid r) (hc : 0 ≤ clock.unixTimestamp) : r.tryConsume clock n =
    if n ≤ exactTokens r clock 0 then .ok
      { r with tokens := exactTokens r clock 0 - n, lastRefillTime := clock.unixTimestamp.toNat }
    else .error (.oft .rateLimitExceeded) := by
  rw [RateLimiter.tryConsume, refill_exact hv hc, ok_bind]

def request : LimiterCall → Request ℕ
  | .refill extraTokens => .pour extraTokens
  | .tryConsume amount => .draw amount

theorem serve_eq_some (hv : Valid r) (hc : 0 ≤ clock.unixTimestamp) (h : call.exec clock r = .ok r') :
    ∃ hv' : Valid r', (meter hv).serve clock.unixTimestamp.toNat (request call) = some (meter hv') := by
  cases call with
  | refill extraTokens =>
    rw [LimiterCall.exec, refill_exact hv hc] at h
    obtain rfl := Except.ok.inj h
    refine ⟨⟨min_le_left _ _, hv.capacity_le⟩, ?_⟩
    rw [request, Meter.serve, Option.some.injEq]
    apply Meter.ext
    · apply Bucket.ext
      · rfl
      · change min r.capacity ((meter hv).level clock.unixTimestamp.toNat + extraTokens) =
          exactTokens r clock extraTokens
        rw [level_meter, exactTokens, exactTokens]
        omega
    · rfl
    · rfl
  | tryConsume amount =>
    rw [LimiterCall.exec, tryConsume_exact hv hc] at h
    by_cases hle : amount.val ≤ exactTokens r clock 0
    · rw [if_pos hle] at h
      obtain rfl := Except.ok.inj h
      refine ⟨⟨(Nat.sub_le _ _).trans (min_le_left _ _), hv.capacity_le⟩, ?_⟩
      rw [request, Meter.serve, level_meter hv, if_pos hle]
      rfl
    · rw [if_neg hle] at h
      cases h

theorem serve_eq_none {e : ProgramError} (hv : Valid r) (hc : 0 ≤ clock.unixTimestamp)
    (h : call.exec clock r = .error e) :
    (meter hv).serve clock.unixTimestamp.toNat (request call) = none := by
  cases call with
  | refill extraTokens =>
    rw [LimiterCall.exec, refill_exact hv hc] at h
    cases h
  | tryConsume amount =>
    rw [LimiterCall.exec, tryConsume_exact hv hc] at h
    by_cases hle : amount.val ≤ exactTokens r clock 0
    · rw [if_pos hle] at h
      cases h
    · rw [request, Meter.serve, level_meter hv, if_neg hle]

theorem exactAnswer_eq (hv : Valid r) (clock : Clock) (call : LimiterCall) :
    exactAnswer r clock call =
      ((meter hv).serve clock.unixTimestamp.toNat (request call)).map fun m => m.bucket.level := by
  cases call with
  | refill extraTokens =>
    change some (exactTokens r clock extraTokens) =
      some (min r.capacity ((meter hv).level clock.unixTimestamp.toNat + extraTokens))
    rw [level_meter, exactTokens, exactTokens, Option.some.injEq]
    omega
  | tryConsume amount =>
    rw [exactAnswer, request, Meter.serve, level_meter hv]
    split
    · rfl
    · rfl

end Meter

section Step

structure StepEffect (hv : Valid r) (l : LimiterEvent) (r' : RateLimiter) : Prop where
  valid : Valid r'
  answer : l.answer = exactAnswer r l.clock l.call
  updated : (r'.lastRefillTime : Int) ≤ l.clock.unixTimestamp
  served : (meter hv).serve l.clock.unixTimestamp.toNat (request l.call) = some (meter valid) ∨
    (meter hv).serve l.clock.unixTimestamp.toNat (request l.call) = none ∧
      (meter valid).settle l.clock.unixTimestamp.toNat = (meter hv).settle l.clock.unixTimestamp.toNat

theorem step_effect (hv : Valid r) (hc : (r.lastRefillTime : Int) ≤ l.clock.unixTimestamp)
    (h : LimiterStep r l r') : StepEffect hv l r' := by
  have hpos : 0 ≤ l.clock.unixTimestamp := (Int.natCast_nonneg _).trans hc
  cases h with
  | @done _ clock call h =>
    obtain ⟨hv', hs⟩ := serve_eq_some hv hpos h
    have hupdated : r'.lastRefillTime = clock.unixTimestamp.toNat := Meter.updated_of_serve hs
    refine ⟨hv', ?_, ?_, .inl hs⟩
    · rw [exactAnswer_eq hv, hs]
      rfl
    · rw [hupdated, Int.toNat_of_nonneg hpos]
  | @refused _ clock call e h hr =>
    have hs := serve_eq_none hv hpos h
    have hanswer : none = exactAnswer r clock call := by
      rw [exactAnswer_eq hv, hs]
      rfl
    cases hr with
    | inl hr =>
      subst hr
      exact ⟨hv, hanswer, hc, .inr ⟨hs, rfl⟩⟩
    | inr hr =>
      rw [refill_exact hv hpos] at hr
      obtain rfl := Except.ok.inj hr
      refine ⟨⟨min_le_left _ _, hv.capacity_le⟩, hanswer, ?_, .inr ⟨hs, ?_⟩⟩
      · exact (Int.toNat_of_nonneg hpos).le
      · have hu : (meter hv).updated ≤ clock.unixTimestamp.toNat := by
          change (r.lastRefillTime : Int) ≤ clock.unixTimestamp at hc
          change r.lastRefillTime ≤ _
          omega
        exact Meter.settle_settle hu le_rfl

end Step

section Replay

theorem clocksFrom_tail (ht : (time : Int) ≤ l.clock.unixTimestamp) {time' : Nat}
    (h : ClocksFrom time' ((r, l) :: tr)) : ClocksFrom time tr := by
  rw [ClocksFrom, List.map_cons, List.pairwise_cons] at h
  obtain ⟨_, h⟩ := h
  rw [ClocksFrom, List.pairwise_cons]
  rw [List.pairwise_cons] at h
  exact ⟨fun c hc => ht.trans (h.1 c hc), h.2⟩

theorem le_of_clocksFrom (h : ClocksFrom time ((r, l) :: tr)) : (time : Int) ≤ l.clock.unixTimestamp := by
  rw [ClocksFrom, List.map_cons, List.pairwise_cons] at h
  exact h.1 _ List.mem_cons_self

theorem answers_exact (hr : Run LimiterStep r tr r') (hv : Valid r) (hc : ClocksFrom r.lastRefillTime tr) :
    ∀ p ∈ tr, p.2.answer = exactAnswer p.1 p.2.clock p.2.call := by
  induction hr with
  | nil r => simp
  | @cons r r₁ r₂ l tr h hr ih =>
    have he := step_effect hv (le_of_clocksFrom hc) h
    have hrest := ih he.valid (clocksFrom_tail he.updated hc)
    exact List.forall_mem_cons.mpr ⟨he.answer, hrest⟩

/-- A refill with nothing extra. -/
def LimiterCall.poll : LimiterCall → Bool
  | .refill extraTokens => extraTokens.val = 0
  | .tryConsume _ => false

/-- A poll only writes down what the meter holds. -/
theorem StepEffect.settle_of_poll {hv : Valid r} (h : StepEffect hv l r')
    (hc : (r.lastRefillTime : Int) ≤ l.clock.unixTimestamp) (hp : l.call.poll = true) :
    (meter h.valid).settle l.clock.unixTimestamp.toNat = (meter hv).settle l.clock.unixTimestamp.toNat := by
  cases h.served with
  | inl hs =>
    cases hl : l.call with
    | refill extraTokens =>
      rw [hl] at hs hp
      have hz : extraTokens.val = 0 := of_decide_eq_true hp
      rw [request, hz, Meter.serve, Bucket.fill_zero, Option.some.injEq] at hs
      have hu : (meter hv).updated ≤ l.clock.unixTimestamp.toNat := by
        change r.lastRefillTime ≤ _
        omega
      rw [← hs]
      exact Meter.settle_settle hu le_rfl
    | tryConsume amount =>
      rw [hl] at hp
      cases hp
  | inr hs => exact hs.2

/-- What a run was asked, polls apart, with the answers. -/
def asked (tr : List (RateLimiter × LimiterEvent)) : List LimiterEvent :=
  (tr.map Prod.snd).filter fun e => !e.call.poll

def LimiterEvent.request (e : LimiterEvent) : ℕ × Request ℕ :=
  (e.clock.unixTimestamp.toNat, Replay.request e.call)

theorem asked_cons : asked ((r, l) :: tr) = if l.call.poll then asked tr else l :: asked tr := by
  cases h : l.call.poll <;> simp [asked, h]

theorem ordered_asked (h : ClocksFrom time tr) : Ordered time ((asked tr).map LimiterEvent.request) := by
  induction tr generalizing time with
  | nil => trivial
  | cons p tr ih =>
    obtain ⟨r, l⟩ := p
    have hle := le_of_clocksFrom h
    rw [asked_cons]
    split
    · exact ih (clocksFrom_tail hle h)
    · refine ⟨by omega, ih (clocksFrom_tail ?_ h)⟩
      exact (Int.toNat_of_nonneg ((Int.natCast_nonneg _).trans hle)).le

/-- A run answers as its meter does when it is not polled at all. -/
theorem answers_asked (hr : Run LimiterStep r tr r') (hv : Valid r) (hc : ClocksFrom r.lastRefillTime tr) :
    (asked tr).map LimiterEvent.answer = (meter hv).answers ((asked tr).map LimiterEvent.request) := by
  induction hr with
  | nil r => rfl
  | @cons r r₁ r₂ l tr h hr ih =>
    have hle := le_of_clocksFrom hc
    have hpos : (r.lastRefillTime : Int) ≤ l.clock.unixTimestamp.toNat := by omega
    have he := step_effect hv hle h
    have hupdated := he.updated
    have hih := ih he.valid (clocksFrom_tail hupdated hc)
    have hordered : Ordered l.clock.unixTimestamp.toNat ((asked tr).map LimiterEvent.request) :=
      ordered_asked (clocksFrom_tail (Int.toNat_of_nonneg ((Int.natCast_nonneg _).trans hle)).le hc)
    -- the rest of the run depends only on what the meter holds now
    have hrest : (meter he.valid).settle l.clock.unixTimestamp.toNat = (meter hv).settle l.clock.unixTimestamp.toNat →
        (asked tr).map LimiterEvent.answer = (meter hv).answers ((asked tr).map LimiterEvent.request) := by
      intro hsettle
      rw [hih]
      refine Meter.answers_congr ?_ ?_ hsettle hordered
      · change r₁.lastRefillTime ≤ _
        omega
      · change r.lastRefillTime ≤ _
        omega
    rw [asked_cons]
    by_cases hp : l.call.poll = true
    · rw [if_pos hp]
      exact hrest (he.settle_of_poll hle hp)
    · rw [if_neg hp, List.map_cons, List.map_cons, LimiterEvent.request, Meter.answers, he.answer,
        exactAnswer_eq hv]
      cases he.served with
      | inl hs => simp only [hs, Option.map_some, hih]
      | inr hs => simp only [hs.1, Option.map_none, hrest hs.2]

/-- The limiter is the exact bucket: every answer is the one computed over unbounded
numbers, and polls in between change none of the others. -/
theorem limiter_exact (hv : Valid r) :
    (∀ tr r', Run LimiterStep r tr r' → ClocksFrom r.lastRefillTime tr →
      ∀ p ∈ tr, p.2.answer = exactAnswer p.1 p.2.clock p.2.call) ∧
    ∀ tr tr' r₁ r₂, Run LimiterStep r tr r₁ → Run LimiterStep r tr' r₂ →
      ClocksFrom r.lastRefillTime tr → ClocksFrom r.lastRefillTime tr' →
      ((asked tr).map fun e => (e.clock, e.call)) = (asked tr').map (fun e => (e.clock, e.call)) →
      asked tr = asked tr' := by
  refine ⟨fun tr r' hr hc => answers_exact hr hv hc, fun tr tr' r₁ r₂ hr hr' hc hc' hasked => ?_⟩
  have hrequests : (asked tr).map LimiterEvent.request = (asked tr').map LimiterEvent.request := by
    have h := congrArg (List.map fun q : Clock × LimiterCall => (q.1.unixTimestamp.toNat, request q.2)) hasked
    rw [List.map_map, List.map_map] at h
    exact h
  have hanswers : (asked tr).map LimiterEvent.answer = (asked tr').map LimiterEvent.answer := by
    rw [answers_asked hr hv hc, answers_asked hr' hv hc', hrequests]
  have hparts := congrArg₂ List.zip hasked hanswers
  rw [List.zip_map', List.zip_map'] at hparts
  refine List.map_injective_iff.mpr ?_ hparts
  rintro ⟨_, _, _⟩ ⟨_, _, _⟩ h
  cases h
  rfl

/-- Ten tokens at most, one a second, none at the start. -/
def sampleLimiter : RateLimiter := ⟨10, 0, 1, 0⟩

/-- Three tokens at seven seconds and eight at twelve. -/
def drawnTrace : List (RateLimiter × LimiterEvent) :=
  [(sampleLimiter, ⟨⟨7, 0⟩, .tryConsume 3, some 4⟩), (⟨10, 4, 1, 7⟩, ⟨⟨12, 0⟩, .tryConsume 8, some 1⟩)]

/-- The same, with a refill at nine. -/
def polledTrace : List (RateLimiter × LimiterEvent) :=
  [(sampleLimiter, ⟨⟨7, 0⟩, .tryConsume 3, some 4⟩), (⟨10, 4, 1, 7⟩, ⟨⟨9, 0⟩, .refill 0, some 6⟩),
    (⟨10, 6, 1, 9⟩, ⟨⟨12, 0⟩, .tryConsume 8, some 1⟩)]

theorem limiter_exact_polled :
    (∀ p ∈ polledTrace, p.2.answer = exactAnswer p.1 p.2.clock p.2.call) ∧ asked drawnTrace = asked polledTrace := by
  have hv : Valid sampleLimiter := ⟨by decide, by decide⟩
  have hdrawn : Run LimiterStep sampleLimiter drawnTrace ⟨10, 1, 1, 12⟩ :=
    .cons (@LimiterStep.done sampleLimiter ⟨10, 4, 1, 7⟩ ⟨7, 0⟩ (.tryConsume 3) rfl)
      (.single (@LimiterStep.done ⟨10, 4, 1, 7⟩ ⟨10, 1, 1, 12⟩ ⟨12, 0⟩ (.tryConsume 8) rfl))
  have hpolled : Run LimiterStep sampleLimiter polledTrace ⟨10, 1, 1, 12⟩ :=
    .cons (@LimiterStep.done sampleLimiter ⟨10, 4, 1, 7⟩ ⟨7, 0⟩ (.tryConsume 3) rfl)
      (.cons (@LimiterStep.done ⟨10, 4, 1, 7⟩ ⟨10, 6, 1, 9⟩ ⟨9, 0⟩ (.refill 0) rfl)
        (.single (@LimiterStep.done ⟨10, 6, 1, 9⟩ ⟨10, 1, 1, 12⟩ ⟨12, 0⟩ (.tryConsume 8) rfl)))
  have hclocks : ClocksFrom 0 drawnTrace := by simp [ClocksFrom, drawnTrace]
  have hclocks' : ClocksFrom 0 polledTrace := by simp [ClocksFrom, polledTrace]
  obtain ⟨hexact, hsame⟩ := limiter_exact hv
  exact ⟨hexact _ _ hpolled hclocks', hsame _ _ _ _ hdrawn hpolled hclocks hclocks' rfl⟩

end Replay

end SanBridge.Solana.Replay
