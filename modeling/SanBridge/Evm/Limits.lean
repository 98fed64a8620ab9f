import SanBridge.Evm.Buckets
import SanBridge.Evm.Program

namespace SanBridge.Evm.Limits

open Library.Accounts Library.Checked Library.Runs Library.TokenBucket
open Evm.Runtime Evm.Base Evm.Contract Evm.Program Evm.Buckets

def bucketOf (inbound : Bool) (s : Chain) : TokenBucket :=
  match inbound with
  | true => s.token.inboundBucket
  | false => s.token.outboundBucket

def flow : Bool → Chain × Event → Nat
  | false, (_, .call _ (.send _) (.sent r)) => r.event.amountReceivedLD
  | true, (_, .call _ (.lzReceive _ _ _) (.received r)) => r.amountReceivedLD
  | _, _ => 0

def timeCredit (inbound : Bool) : Chain × Event → ℚ
  | (s, .time now) => earned (now - s.now) (bucketOf inbound s)
  | _ => 0

def reconfigures : Bool → Event → Bool
  | false, .call _ (.setOutboundRateLimit _) _ => true
  | true, .call _ (.setInboundRateLimit _) _ => true
  | _, _ => false

structure BucketOk (inbound : Bool) (s : Chain) : Prop where
  valid : Valid (bucketOf inbound s)
  updated : (bucketOf inbound s).lastUpdated ≤ s.now

inductive BucketMove (inbound : Bool) (s : Chain) (l : Event) (s' : Chain) : Prop
  | idle (hn : s'.now = s.now) (hb : bucketOf inbound s' = bucketOf inbound s)
      (hf : flow inbound (s, l) = 0)
  | consume (hn : s'.now = s.now)
      (hb : Contract.consume s.now inbound (flow inbound (s, l)) (bucketOf inbound s) =
        .ok (bucketOf inbound s'))
  | configure (hn : s'.now = s.now) (hf : flow inbound (s, l) = 0)
      (hl : reconfigures inbound l = true) (capacity refillAmount : U256) (refillDuration : U64)
      (hb : configureBucket s.now capacity refillAmount refillDuration (bucketOf inbound s) =
        .ok (bucketOf inbound s'))
  | time (now : Nat) (hl : l = .time now) (hle : s.now ≤ now) (hs : s' = { s with now := now })

variable {s s' : Chain} {l : Event} {inbound : Bool} {oft : OFT} {sender : Address} {o : Outcome}

theorem bucket_call {c : Call} (h : exec oft sender s c = .ok (s', o)) :
    BucketMove inbound s (.call sender c o) s' := by
  cases exec_effect h with
  | send params token r e =>
    cases inbound with
    | false =>
      refine .consume rfl ?_
      simp only [flow, bucketOf, e.outbound_eq, e.event_eq]
      exact e.consumed
    | true => exact .idle rfl e.inbound_eq rfl
  | lzReceive origin guid message token r e =>
    cases inbound with
    | true =>
      refine .consume rfl ?_
      simp only [flow, bucketOf, e.inbound_eq, e.amount_eq]
      exact e.consumed
    | false => exact .idle rfl e.outbound_eq rfl
  | setOutboundRateLimit params bucket owner configured =>
    cases inbound with
    | false => exact .configure rfl rfl rfl _ _ _ configured
    | true => exact .idle rfl rfl rfl
  | setInboundRateLimit params bucket owner configured =>
    cases inbound with
    | true => exact .configure rfl rfl rfl _ _ _ configured
    | false => exact .idle rfl rfl rfl
  | _ => exact .idle rfl (by cases inbound <;> rfl) (by cases inbound <;> rfl)

/-- Everything an event can do to a bucket. -/
theorem bucket_step (h : Step s l s') : BucketMove inbound s l s' := by
  cases h with
  | call oft h => exact bucket_call h
  | reverted oft h => exact .idle rfl rfl (by cases inbound <;> rfl)
  | time now h => exact .time now rfl h rfl

theorem BucketMove.bucketOk (h : BucketMove inbound s l s') (hv : BucketOk inbound s) :
    BucketOk inbound s' := by
  cases h with
  | idle hn hb _ =>
    constructor
    · rw [hb]
      exact hv.valid
    · rw [hb, hn]
      exact hv.updated
  | consume hn hb =>
    obtain ⟨hv', hl, _⟩ := consume_spec hv.valid hb
    exact ⟨hv', by rw [hl, hn]⟩
  | configure hn _ _ _ _ _ hb =>
    obtain ⟨hv', hl, _⟩ := configureBucket_spec hv.valid hb
    exact ⟨hv', by rw [hl, hn]⟩
  | time now _ hle hs =>
    subst hs
    exact ⟨hv.valid, hv.updated.trans hle⟩

theorem BucketMove.parameters (h : BucketMove inbound s l s') (hv : BucketOk inbound s)
    (hn : reconfigures inbound l = false) :
    (bucketOf inbound s').capacity = (bucketOf inbound s).capacity ∧
      (bucketOf inbound s').refillAmount = (bucketOf inbound s).refillAmount ∧
      (bucketOf inbound s').refillDuration = (bucketOf inbound s).refillDuration := by
  cases h with
  | idle _ hb _ =>
    rw [hb]
    exact ⟨rfl, rfl, rfl⟩
  | consume _ hb =>
    obtain ⟨_, _, hcap, hamount, hduration, _⟩ := consume_spec hv.valid hb
    exact ⟨hcap, hamount, hduration⟩
  | configure _ _ hl _ _ _ _ =>
    rw [hl] at hn
    cases hn
  | time now _ _ hs =>
    subst hs
    cases inbound <;> exact ⟨rfl, rfl, rfl⟩

theorem BucketMove.unchanged (h : BucketMove inbound s l s') (hv : BucketOk inbound s)
    (hn : reconfigures inbound l = false) :
    (bucketOf inbound s').capacity = (bucketOf inbound s).capacity :=
  (h.parameters hv hn).1

theorem bucketOk_initial (h : Initial s) : BucketOk inbound s := by
  have e := initial_effect h
  cases inbound with
  | true =>
    refine ⟨?_, ?_⟩ <;> simp only [bucketOf, e.inbound]
    · exact valid_initializeBucket
    · exact le_refl _
  | false =>
    refine ⟨?_, ?_⟩ <;> simp only [bucketOf, e.outbound]
    · exact valid_initializeBucket
    · exact le_refl _

theorem bucketOk_reachable (h : Reachable s) : BucketOk inbound s := by
  obtain ⟨s₀, hi, hr⟩ := h
  refine hr.invariant (I := BucketOk inbound) ?_ (bucketOk_initial hi)
  intro s l t hv hs
  exact (bucket_step hs).bucketOk hv

/-- The amount a bucket could release now, in exact fractions. -/
def level (inbound : Bool) (s : Chain) : ℚ := (bucketAt s.now (bucketOf inbound s)).level

theorem BucketMove.budget (h : BucketMove inbound s l s') (hv : BucketOk inbound s) :
    (flow inbound (s, l) : ℚ) + level inbound s' ≤ level inbound s + timeCredit inbound (s, l) := by
  have hcredit : 0 ≤ timeCredit inbound (s, l) := by
    cases l with
    | time now => exact earned_nonneg _ _
    | call _ _ _ | reverted _ _ _ => exact le_refl _
  cases h with
  | idle hn hb hf =>
    simp only [level, hn, hb, hf, Nat.cast_zero, zero_add]
    exact le_add_of_nonneg_right hcredit
  | consume hn hb =>
    have hl := level_consume hv.valid hb
    simp only [level, hn, hl]
    exact le_add_of_nonneg_right hcredit
  | configure hn hf _ _ _ _ hb =>
    have hl := level_configure hv.valid hb
    simp only [level, hn, hf, Nat.cast_zero, zero_add]
    exact hl.trans (le_add_of_nonneg_right hcredit)
  | time now hl hle hs =>
    subst hl hs
    have hz : flow inbound (s, .time now) = 0 := by cases inbound <;> rfl
    have hb : bucketOf inbound { s with now := now } = bucketOf inbound s := by
      cases inbound <;> rfl
    simp only [level, hb, hz, Nat.cast_zero, zero_add]
    rw [bucketAt_later hv.updated hle]
    exact (bucketAt s.now (bucketOf inbound s)).level_fill_le _

theorem flow_le {tr : List (Chain × Event)} (hv : BucketOk inbound s) (h : Run Step s tr s') :
    total (fun p => (flow inbound p : ℚ)) tr + level inbound s' ≤
      level inbound s + total (timeCredit inbound) tr := by
  refine h.budget (I := BucketOk inbound) (level inbound) (fun p => (flow inbound p : ℚ))
    (timeCredit inbound) ?_ ?_ hv
  · intro s l t hv hs
    exact (bucket_step hs).bucketOk hv
  · intro s l t hv hs
    exact (bucket_step hs).budget hv

theorem level_le (hv : Valid (bucketOf inbound s)) :
    level inbound s ≤ (bucketOf inbound s).available +
      (bucketOf inbound s).remainder / (bucketOf inbound s).refillDuration +
      earned (s.now - (bucketOf inbound s).lastUpdated) (bucketOf inbound s) := by
  have hd : ((bucketOf inbound s).refillDuration : ℚ) ≠ 0 := by exact_mod_cast hv.duration_pos.ne'
  have hstored : (stored (bucketOf inbound s)).level ≤ (bucketOf inbound s).available +
      (bucketOf inbound s).remainder / (bucketOf inbound s).refillDuration := by
    refine (min_le_right _ _).trans_eq ?_
    rw [volume]
    push_cast
    rw [add_div, mul_div_cancel_right₀ _ hd]
  exact (Bucket.level_fill_le _ _).trans (add_le_add_left hstored _)

theorem supply_call {c : Call} (h : exec oft sender s c = .ok (s', o)) :
    s'.token.totalSupply + flow false (s, .call sender c o) =
      s.token.totalSupply + flow true (s, .call sender c o) := by
  cases exec_effect h with
  | send params token r e =>
    simp only [flow, SanOFT.totalSupply, e.ledger_eq, e.event_eq]
    exact supply_erc20Burn e.burned
  | lzReceive origin guid message token r e =>
    simp only [flow, SanOFT.totalSupply, e.ledger_eq, e.amount_eq]
    exact supply_erc20Mint e.minted
  | transfer dest amount ledger moved => exact supply_erc20Transfer moved
  | _ => rfl

theorem supply_step (h : Step s l s') :
    s'.token.totalSupply + flow false (s, l) = s.token.totalSupply + flow true (s, l) := by
  cases h with
  | call oft h => exact supply_call h
  | reverted _ _ | time _ _ => rfl

theorem supply_run {tr : List (Chain × Event)} (h : Run Step s tr s') :
    s'.token.totalSupply + total (flow false) tr = s.token.totalSupply + total (flow true) tr := by
  induction h with
  | nil s => rfl
  | cons hs _ ih =>
    have hstep := supply_step hs
    simp only [total_cons]
    omega

/-- No bucket ever releases more than it held and what time has added since at
the parameters in force, however often it is reconfigured; and all that is ever
minted is the canary capacity and the time refill. -/
theorem flow_bounded (h : Reachable s) (inbound : Bool) :
    level inbound s ≤ (bucketOf inbound s).available +
      (bucketOf inbound s).remainder / (bucketOf inbound s).refillDuration +
      earned (s.now - (bucketOf inbound s).lastUpdated) (bucketOf inbound s) ∧
    (∀ tr t, Run Step s tr t →
      total (fun p => (flow inbound p : ℚ)) tr ≤ level inbound s + total (timeCredit inbound) tr) ∧
    (∀ l t, Step s l t → reconfigures inbound l = true → level inbound t ≤ level inbound s) ∧
    (∀ s₀ tr, Initial s₀ → Run Step s₀ tr s →
      s.token.totalSupply ≤ total (flow true) tr ∧
      total (fun p => (flow true p : ℚ)) tr ≤ canaryCapacity + total (timeCredit true) tr) := by
  have hv : BucketOk inbound s := bucketOk_reachable h
  refine ⟨level_le hv.valid, fun tr t ht => ?_, fun l t hs hl => ?_, fun s₀ tr hi ht => ⟨?_, ?_⟩⟩
  · exact (le_add_of_nonneg_right level_nonneg).trans (flow_le hv ht)
  · have hm : BucketMove inbound s l t := bucket_step hs
    cases hm with
    | idle hn hb _ => simp only [level, hn, hb, le_refl]
    | consume hn hb =>
      have hc := level_consume hv.valid hb
      simp only [level, hn, ← hc]
      exact le_add_of_nonneg_left (Nat.cast_nonneg _)
    | configure hn _ _ _ _ _ hb =>
      simp only [level, hn]
      exact level_configure hv.valid hb
    | time now he _ _ =>
      subst he
      cases inbound <;> cases hl
  · have hs := supply_run ht
    have hz := (initial_effect hi).supply_zero
    omega
  · have hb : BucketOk true s₀ := bucketOk_initial hi
    have hflow := flow_le hb ht
    have hlevel : level true s₀ = canaryCapacity := by
      have he := (initial_effect hi).inbound
      have hv₀ : Valid (initializeBucket s₀.now) := valid_initializeBucket
      have hd : ((initializeBucket s₀.now).refillDuration : ℚ) ≠ 0 := by
        exact_mod_cast hv₀.duration_pos.ne'
      have hl : (initializeBucket s₀.now).lastUpdated = s₀.now := rfl
      simp only [level, bucketOf, he]
      rw [level_of_settled hv₀ hl, volume]
      push_cast
      rw [add_div, mul_div_cancel_right₀ _ hd]
      simp [initializeBucket]
    rw [hlevel] at hflow
    exact (le_add_of_nonneg_right level_nonneg).trans hflow

/-- A contract just deployed at time zero by the account 1, for the endpoint 2. -/
def deployed : Chain where
  now := 0
  token := {
    endpoint := 2
    owner := 1
    paused := true
    peers := fun _ => zeroBytes32
    outboundBucket := initializeBucket 0
    inboundBucket := initializeBucket 0
    ledger := empty Address }

theorem initial_deployed : Initial deployed := ⟨2, 1, rfl⟩

/-! The contract goes live, lets in 400000 tokens, seven seconds later one unit more and
forty units out, and its owner lowers the inbound limit. -/

def peeredToken : SanOFT :=
  { deployed.token with peers := Function.update deployed.token.peers 30168 (Vector.replicate 32 9) }

def liveToken : SanOFT := { peeredToken with paused := false }

def holder : Address := bytes32ToAddress (Vector.replicate 32 5)

def arrival (amount : Nat) : Library.BigEndian.Bytes :=
  Solana.MsgCodec.encode (Vector.replicate 32 5) amount (Vector.replicate 32 6) none

def lzReceiveOf (amount : Nat) : Call :=
  .lzReceive ⟨30168, Vector.replicate 32 9, 1⟩ (Vector.replicate 32 7) (arrival amount)

def receivedOf (amount : Nat) : OFTReceived := ⟨Vector.replicate 32 7, 30168, holder, amount⟩

def filledToken : SanOFT :=
  { liveToken with
    inboundBucket := { initializeBucket 0 with available := 100000000000 }
    ledger := mint liveToken.ledger holder 400000000000 }

/-- In seven seconds 40509259 units come back and 22400 parts of a day's refill. -/
def drawnBucket : TokenBucket :=
  { initializeBucket 0 with available := 100040509258, lastUpdated := 7, remainder := 22400 }

def drawnToken : SanOFT :=
  { filledToken with inboundBucket := drawnBucket, ledger := mint filledToken.ledger holder 1 }

def sentParams : SendParam := ⟨30168, Vector.replicate 32 5, 40, 40, [], [], []⟩

def sentResult : SendResult where
  receiver := Vector.replicate 32 9
  message := Solana.MsgCodec.encode (Vector.replicate 32 5) 40 (addressToBytes32 holder) none
  receipt := ⟨zeroBytes32, 1⟩
  event := ⟨zeroBytes32, 30168, holder, 40, 40⟩

def sentToken : SanOFT :=
  { drawnToken with
    outboundBucket := { initializeBucket 7 with available := canaryCapacity - 40 }
    ledger := burn drawnToken.ledger holder 40 (by decide) }

def loweredToken : SanOFT := { sentToken with inboundBucket := ⟨1000, 1000, 500, 60, 7, 0⟩ }

def drawnTrace : List (Chain × Event) :=
  [(deployed, .call 1 (.setPeer 30168 (Vector.replicate 32 9)) .done), (⟨0, peeredToken⟩, .call 1 .unpause .done),
    (⟨0, liveToken⟩, .call 2 (lzReceiveOf 400000000000) (.received (receivedOf 400000000000))),
    (⟨0, filledToken⟩, .time 7), (⟨7, filledToken⟩, .call 2 (lzReceiveOf 1) (.received (receivedOf 1)))]

theorem run_drawn : Run Step deployed drawnTrace ⟨7, drawnToken⟩ :=
  .cons (.call standard rfl) (.cons (.call standard rfl) (.cons (.call standard rfl) (.cons (.time 7 (by decide))
    (.single (.call standard rfl)))))

theorem reachable_drawn : Reachable ⟨7, drawnToken⟩ := ⟨deployed, initial_deployed, _, run_drawn⟩

def loweredTrace : List (Chain × Event) :=
  [(⟨7, drawnToken⟩, .call holder (.send sentParams) (.sent sentResult)),
    (⟨7, sentToken⟩, .call 1 (.setInboundRateLimit ⟨1000, 500, 60⟩) .done)]

theorem step_sent :
    Step ⟨7, drawnToken⟩ (.call holder (.send sentParams) (.sent sentResult)) ⟨7, sentToken⟩ := .call standard rfl

theorem step_lowered :
    Step ⟨7, sentToken⟩ (.call 1 (.setInboundRateLimit ⟨1000, 500, 60⟩) .done) ⟨7, loweredToken⟩ :=
  .call standard rfl

theorem run_lowered : Run Step ⟨7, drawnToken⟩ loweredTrace ⟨7, loweredToken⟩ := .cons step_sent (.single step_lowered)

/-- What the holder was sent and sends on, and that the lowered limit lowers the level. -/
theorem flow_bounded_lowered :
    total (flow true) drawnTrace = 400000000001 ∧ drawnToken.totalSupply = 400000000001 ∧
      total (fun p => (flow true p : ℚ)) drawnTrace ≤ canaryCapacity + total (timeCredit true) drawnTrace ∧
      total (flow false) loweredTrace = 40 ∧
      total (fun p => (flow false p : ℚ)) loweredTrace ≤
        level false ⟨7, drawnToken⟩ + total (timeCredit false) loweredTrace ∧
      level true ⟨7, loweredToken⟩ ≤ level true ⟨7, sentToken⟩ := by
  have hbounded := fun inbound => flow_bounded reachable_drawn inbound
  have hlowered := (flow_bounded (reachable_drawn.tail step_sent) true).2.2.1 _ _ step_lowered rfl
  exact ⟨by decide, rfl, ((hbounded true).2.2.2 _ _ initial_deployed run_drawn).2, by decide,
    (hbounded false).2.1 _ _ run_lowered, hlowered⟩

end SanBridge.Evm.Limits
