import SanBridge.Evm.Arithmetic

namespace SanBridge.Evm.Quotes

open Library.Accounts Library.Checked Library.Runs
open Evm.Runtime Evm.Base Evm.Contract Evm.Program Evm.Buckets Evm.Limits

variable {oft : OFT} {now : Nat} {sender : Address} {params : SendParam} {t t' : SanOFT} {q : QuoteOFT}

theorem refill_of_preview {b : TokenBucket} {p : Nat × Nat} (h : preview now b = .ok p) :
    refill now b = .ok { b with available := p.1, remainder := p.2, lastUpdated := now } :=
  bind_eq_ok.mpr ⟨p, h, rfl⟩

theorem consume_of_preview {b : TokenBucket} {p : Nat × Nat} {amount : Nat} {inbound : Bool}
    (h : preview now b = .ok p) (ha : amount ≤ p.1) : consume now inbound amount b =
      .ok { b with available := p.1 - amount, remainder := p.2, lastUpdated := now } :=
  consume_eq_ok.mpr ⟨_, refill_of_preview h, ha, rfl⟩

theorem debitView_ok_iff {p : Nat × Nat} {amountLD minAmountLD : Nat} {dstEid : U32} {r : Nat × Nat}
    (h : preview now t.outboundBucket = .ok p) : debitView oft now amountLD minAmountLD dstEid t = .ok r ↔
      t.paused = false ∧ oft.debitView amountLD minAmountLD dstEid = .ok r ∧ r.2 ≤ p.1 := by
  obtain ⟨sent, received⟩ := r
  obtain ⟨available, remainder⟩ := p
  simp only [debitView, requireNotPaused, bind_eq_ok, h, Except.ok.injEq, require_eq_ok, Bool.not_eq_true',
    decide_eq_true_eq, Prod.mk.injEq, Prod.exists]
  constructor
  · rintro ⟨_, hp, sent', received', hv, _, _, ⟨rfl, rfl⟩, _, hle, rfl, rfl⟩
    exact ⟨hp, hv, hle⟩
  · rintro ⟨hp, hv, hle⟩
    exact ⟨(), hp, sent, received, hv, _, _, ⟨rfl, rfl⟩, (), hle, rfl, rfl⟩

theorem quoteOFT_ok_iff {p : Nat × Nat} (h : preview now t.outboundBucket = .ok p) :
    quoteOFT oft now params t = .ok q ↔ t.paused = false ∧
      oft.debitView params.amountLD params.minAmountLD params.dstEid = .ok (q.amountSentLD, q.amountReceivedLD) ∧
      q.amountReceivedLD ≤ p.1 := by
  rw [← debitView_ok_iff (r := (q.amountSentLD, q.amountReceivedLD)) h, quoteOFT]
  simp only [bind_eq_ok, Except.ok.injEq, Prod.exists]
  constructor
  · rintro ⟨sent, received, hv, rfl⟩
    exact hv
  · intro hv
    exact ⟨_, _, hv, rfl⟩

theorem erc20Burn_eq_ok {l l' : Balances} {account : Address} {amount : Nat} :
    erc20Burn l account amount = .ok l' ↔
      account ≠ 0 ∧ ∃ h : amount ≤ l.balances account, burn l account amount h = l' := by
  rw [erc20Burn, bind_eq_ok]
  by_cases h : amount ≤ l.balances account
  · simp [h]
  · simp [h]

/-- What a quoted `send` still depends on. -/
structure Sendable (oft : OFT) (sender : Address) (params : SendParam) (amountLD : Nat) (t : SanOFT) : Prop where
  sender_ne : sender ≠ 0
  funded : amountLD ≤ t.ledger.balances sender
  peer : t.peers params.dstEid ≠ zeroBytes32
  accepted : ∃ message receipt, oft.buildMsg sender params amountLD = .ok message ∧
    oft.lzSend params.dstEid (t.peers params.dstEid) message = .ok receipt

/-- What a `send` makes of the contract: the sender and the supply lose the amount, the
outbound limit shows that much less, and nothing else has changed. -/
structure Sent (now : Nat) (sender : Address) (amountLD : Nat) (v : BucketView) (t t' : SanOFT) : Prop where
  balance : t'.ledger.balances sender + amountLD = t.ledger.balances sender
  others : ∀ account, account ≠ sender → t'.ledger.balances account = t.ledger.balances account
  supply : t'.totalSupply + amountLD = t.totalSupply
  view : bucketView now t'.outboundBucket = .ok { v with available := v.available - amountLD }
  rest : t' = { t with ledger := t'.ledger, outboundBucket := t'.outboundBucket }

theorem send_ok_iff {p : Nat × Nat} {amountLD : Nat} (h : preview now t.outboundBucket = .ok p)
    (hv : debitView oft now params.amountLD params.minAmountLD params.dstEid t = .ok (amountLD, amountLD))
    (hle : amountLD ≤ p.1) :
    (∃ t' r, send oft now sender params t = .ok (t', r)) ↔ Sendable oft sender params amountLD t := by
  have hconsume : consume now false amountLD t.outboundBucket = _ := consume_of_preview h hle
  simp only [send, debit, hv, hconsume, ok_bind, bind_eq_ok, Except.ok.injEq, Prod.exists, Prod.mk.injEq,
    erc20Burn_eq_ok, getPeerOrRevert, require_eq_ok, bne_iff_ne]
  constructor
  · rintro ⟨_, _, _, _, _, ⟨_, ⟨hne, hfunded, _⟩, rfl, rfl, rfl⟩, message, hm, _, ⟨_, hp, rfl⟩, receipt, hr, _⟩
    exact ⟨hne, hfunded, hp, message, receipt, hm, hr⟩
  · rintro ⟨hne, hfunded, hp, message, receipt, hm, hr⟩
    exact ⟨_, _, _, _, _, ⟨_, ⟨hne, hfunded, rfl⟩, rfl, rfl, rfl⟩, message, hm, _, ⟨(), hp, rfl⟩, receipt, hr, rfl, rfl⟩

theorem send_sent {p : Nat × Nat} {v : BucketView} {r : SendResult} (h : preview now t.outboundBucket = .ok p)
    (hview : bucketView now t.outboundBucket = .ok v) (hs : send oft now sender params t = .ok (t', r)) :
    ∃ amountLD, quoteOFT oft now params t = .ok ⟨amountLD, amountLD⟩ ∧
      r.event = ⟨r.receipt.guid, params.dstEid, sender, amountLD, amountLD⟩ ∧ Sent now sender amountLD v t t' := by
  obtain ⟨e⟩ := send_effect hs
  obtain ⟨settled, hsettled, hle, hbucket⟩ := consume_eq_ok.mp e.consumed
  obtain rfl := Except.ok.inj ((refill_of_preview h).symm.trans hsettled)
  obtain ⟨_, hp, hv⟩ := bind_eq_ok.mp hview
  obtain rfl := Except.ok.inj (h.symm.trans hp)
  obtain ⟨_, hfunded, hledger⟩ := erc20Burn_eq_ok.mp e.burned
  refine ⟨e.amount, (quoteOFT_ok_iff h).mpr ⟨e.unpaused, e.view_eq, hle⟩, e.event_eq, ?_⟩
  constructor
  · rw [e.ledger_eq, ← hledger]
    simp only [burn, Function.update_self]
    omega
  · intro account hne
    rw [e.ledger_eq, ← hledger]
    exact Function.update_of_ne hne _ _
  · rw [SanOFT.totalSupply, e.ledger_eq]
    exact supply_erc20Burn e.burned
  · rw [e.outbound_eq, hbucket, ← Except.ok.inj hv]
    simp [bucketView, preview, ok_bind]
  · rw [e.state_eq]

/-- A quote is what `send` debits: it is given exactly for the amounts the outbound limit shows,
a quoted amount is refused only for the sender's own reasons or the Endpoint's, and every
amount that is sent could have been quoted. -/
theorem send_as_quoted {s : Chain} (h : Reachable s) (hn : s.now < 2 ^ 64) :
    ∃ v, bucketView s.now s.token.outboundBucket = .ok v ∧ ∀ oft sender params,
      (∀ q, quoteOFT oft s.now params s.token = .ok q ↔ s.token.paused = false ∧
        oft.debitView params.amountLD params.minAmountLD params.dstEid = .ok (q.amountSentLD, q.amountReceivedLD) ∧
        q.amountReceivedLD ≤ v.available) ∧
      (∀ q, quoteOFT oft s.now params s.token = .ok q → ((∃ t r, send oft s.now sender params s.token = .ok (t, r)) ↔
        Sendable oft sender params q.amountReceivedLD s.token)) ∧
      ∀ t r, send oft s.now sender params s.token = .ok (t, r) → ∃ amountLD,
        quoteOFT oft s.now params s.token = .ok ⟨amountLD, amountLD⟩ ∧
        r.event = ⟨r.receipt.guid, params.dstEid, sender, amountLD, amountLD⟩ ∧
        Sent s.now sender amountLD v s.token t := by
  have hok : BucketOk false s := bucketOk_reachable h
  have hv : Valid s.token.outboundBucket := hok.valid
  obtain ⟨p, hp⟩ := (preview_ok_iff hv).mpr (.inr (fits_of_lt hv (hn.trans (by decide))))
  have hview : bucketView s.now s.token.outboundBucket = .ok ⟨s.token.outboundBucket.capacity, p.1,
    s.token.outboundBucket.refillAmount, s.token.outboundBucket.refillDuration⟩ := bind_eq_ok.mpr ⟨p, hp, rfl⟩
  refine ⟨_, hview, fun oft sender params => ⟨fun q => quoteOFT_ok_iff hp, fun q hq => ?_, fun t r hs => ?_⟩⟩
  · obtain ⟨hunpaused, hdebit, hle⟩ := (quoteOFT_ok_iff hp).mp hq
    have hsame := oft.debitView_same _ _ _ _ _ hdebit
    rw [hsame] at hdebit
    exact send_ok_iff hp ((debitView_ok_iff hp).mpr ⟨hunpaused, hdebit, hle⟩) hle
  · exact send_sent hp hview hs

def unpaused : Chain := { deployed with token := { deployed.token with paused := false } }

theorem reachable_unpaused : Reachable unpaused :=
  ⟨deployed, initial_deployed, _, Run.single (.call standard rfl : Step deployed (.call 1 .unpause .done) unpaused)⟩

theorem send_as_quoted_unpaused :
    quoteOFT standard 0 ⟨30168, zeroBytes32, 5, 5, [], [], []⟩ unpaused.token = .ok ⟨5, 5⟩ := by
  obtain ⟨v, hv, hall⟩ := send_as_quoted reachable_unpaused (by decide)
  have hview : bucketView 0 unpaused.token.outboundBucket =
    .ok ⟨canaryCapacity, canaryCapacity, canaryRefillAmount, canaryRefillDuration⟩ := rfl
  obtain rfl := Except.ok.inj (hview.symm.trans hv)
  exact ((hall standard 1 _).1 ⟨5, 5⟩).mpr ⟨rfl, rfl, by decide⟩

end SanBridge.Evm.Quotes
