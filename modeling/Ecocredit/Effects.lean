/-
  Ecocredit.Effects — what a request does to the records, read as numbers.

  `Store.holding` is what a holder holds of a batch (tradable, retired, escrowed) and
  `Store.supplyOf` a batch's supply (tradable, retired, cancelled), an absent record
  and an amount that does not parse counting as zero.

  Proved:
  - `failed_request_commits_nothing`: through the transaction boundary a failing
    request commits no record and no event; the handler itself leaves what its
    entries before the failing one leave. `failed_retire_keeps_first_entry`: so a
    handler that returns an error has written and emitted.
  - `retire_entry_effect`, `cancel_entry_effect`, `send_entry_effect`: the exact
    effect of one successful entry on the records it writes, every other balance
    and supply record unchanged. Every write resets the holder's escrowed amount to
    zero, and a `Send` to oneself keeps the sender's record only.
  - `retire_entry_succeeds`, `cancel_entry_succeeds`, `send_entry_succeeds`: on a
    store whose amounts are well-formed, when an entry succeeds, in terms of the
    records and their amounts.
  - `retire_drops_escrow`, `cancel_drops_escrow`, `self_send_keeps_sender_record`: the
    three at one store.
-/

import Ecocredit.SupplyInvariant

namespace Ecocredit

/-! ## Records as numbers -/

/-- A holder's amounts of one batch. -/
structure BalanceAmounts where
  tradable : ℚ
  retired : ℚ
  escrowed : ℚ

/-- A batch's supply amounts. -/
structure SupplyAmounts where
  tradable : ℚ
  retired : ℚ
  cancelled : ℚ

def BatchBalance.amounts (b : BatchBalance) : BalanceAmounts :=
  ⟨amount b.tradableAmount, amount b.retiredAmount, amount b.escrowedAmount⟩

def BatchSupply.amounts (r : BatchSupply) : SupplyAmounts :=
  ⟨amount r.tradableAmount, amount r.retiredAmount, amount r.cancelledAmount⟩

def Store.holding (s : Store) (h : Address) (k : Nat) : BalanceAmounts :=
  ((s.batchBalances.get (h, k)).map BatchBalance.amounts).getD ⟨0, 0, 0⟩

def Store.supplyOf (s : Store) (k : Nat) : SupplyAmounts :=
  ((s.batchSupplies.get k).map BatchSupply.amounts).getD ⟨0, 0, 0⟩

theorem holding_of_get {s : Store} {h : Address} {k : Nat} {b : BatchBalance}
    (hb : s.batchBalances.get (h, k) = some b) : s.holding h k = b.amounts := by
  simp [Store.holding, hb]

theorem supplyOf_of_get {s : Store} {k : Nat} {r : BatchSupply} (hr : s.batchSupplies.get k = some r) :
    s.supplyOf k = r.amounts := by
  simp [Store.supplyOf, hr]

/-- An absent record reads as the zero record `Send` puts in its place. -/
theorem holding_eq_getD (s : Store) (h : Address) (k : Nat) :
    s.holding h k = ((s.batchBalances.get (h, k)).getD
      { batchKey := k, address := h, tradableAmount := "0", retiredAmount := "0" }).amounts := by
  cases hg : s.batchBalances.get (h, k) with
  | none => simp [Store.holding, hg, BatchBalance.amounts, amount_zero, amount_empty]
  | some b => simp [Store.holding, hg]

/-! ## Failed requests -/

/-- What a successful `Retire` of `a` credits of batch `k` by `owner` does to the records. -/
structure RetireEffect (s s' : Store) (owner : Address) (k : Nat) (a : ℚ) : Prop where
  held : (s.batchBalances.get (owner, k)).isSome
  le_tradable : a ≤ (s.holding owner k).tradable
  le_supply : a ≤ (s.supplyOf k).tradable
  holding : s'.holding owner k = ⟨(s.holding owner k).tradable - a, (s.holding owner k).retired + a, 0⟩
  supply : s'.supplyOf k = ⟨(s.supplyOf k).tradable - a, (s.supplyOf k).retired + a, (s.supplyOf k).cancelled⟩
  balances_ne : ∀ hk ≠ (owner, k), s'.batchBalances.get hk = s.batchBalances.get hk
  supplies_ne : ∀ k' ≠ k, s'.batchSupplies.get k' = s.batchSupplies.get k'

/-- One successful `Retire` entry moves its amount from the owner's and the supply's
    tradable to retired, and rewrites the owner's record with no escrowed amount. -/
theorem retire_entry_effect {req : MsgRetire} {credit : Credits} {ctx ctx' : Ctx}
    (h : retireCredit req credit ctx = .ok () ctx') :
    ∃ batch, ctx.store.batchByDenom credit.batchDenom = some batch ∧
      RetireEffect ctx.store ctx'.store req.owner batch.key (amount credit.amount) ∧
      ctx'.events = ctx.events ++ [.retire req.owner credit.batchDenom credit.amount req.jurisdiction] := by
  rw [retireCredit_run] at h
  split at h
  · rename_i p hp
    cases h
    obtain ⟨batch, ct, ub, sup, a, ut, ur, sr, st, hb, -, hub, hsup, ha, hut, hur, hsr, hst, hle, hle2, rfl⟩ :=
      retirePlan_ok.1 hp
    refine ⟨batch, hb, ⟨by simp [hub], ?_, ?_, ?_, ?_, fun hk hne => Table.get_save_ne _ _ hne,
      fun k hne => Table.get_save_ne _ _ hne⟩, rfl⟩
    · simpa [holding_of_get hub, BatchBalance.amounts, amount_of_fixed ha, amount_of_fixed hut] using hle
    · simpa [supplyOf_of_get hsup, BatchSupply.amounts, amount_of_fixed ha, amount_of_fixed hst] using hle2
    · refine (holding_of_get (Table.get_save_self _ _)).trans ?_
      simp [holding_of_get hub, BatchBalance.amounts, RetirePlan.balance, amount_empty, amount_of_fixed ha,
        amount_of_fixed hut, amount_of_fixed hur]
    · refine (supplyOf_of_get (Table.get_save_self _ _)).trans ?_
      simp [supplyOf_of_get hsup, BatchSupply.amounts, RetirePlan.supply, amount_of_fixed ha, amount_of_fixed hst,
        amount_of_fixed hsr]
  · cases h

theorem retire_entry_effect_escrowSnapshot :
    retireCredit ⟨"alice", [⟨"C01-001", "10.5"⟩], "US"⟩ ⟨"C01-001", "10.5"⟩ ⟨escrowSnapshot, []⟩ =
        .ok () ⟨escrowRetired, [.retire "alice" "C01-001" "10.5" "US"]⟩ ∧
      ∃ batch, escrowSnapshot.batchByDenom "C01-001" = some batch ∧
        RetireEffect escrowSnapshot escrowRetired "alice" batch.key (amount "10.5") ∧
        [Event.retire "alice" "C01-001" "10.5" "US"] = [] ++ [.retire "alice" "C01-001" "10.5" "US"] :=
  (fun h => ⟨h, retire_entry_effect h⟩) rfl

/-- On a store whose amounts are well-formed, a `Retire` entry of a known batch whose
    amount parses at the batch's precision succeeds exactly when the owner has a record,
    the batch has a supply, and the amount is at most both tradable amounts. -/
theorem retire_entry_succeeds {s : Store} (hf : AmountsFixed s) {req : MsgRetire} {credit : Credits}
    {batch : Batch} {ct : CreditType} (hb : s.batchByDenom credit.batchDenom = some batch)
    (hct : getCreditTypeFromBatchDenom s batch.denom = .ok ct) (ha : fixedDec ct.precision credit.amount)
    (events : List Event) :
    (∃ ctx', retireCredit req credit ⟨s, events⟩ = .ok () ctx') ↔
      (s.batchBalances.get (req.owner, batch.key)).isSome ∧ (s.batchSupplies.get batch.key).isSome ∧
      amount credit.amount ≤ (s.holding req.owner batch.key).tradable ∧
      amount credit.amount ≤ (s.supplyOf batch.key).tradable := by
  rw [retireCredit_run]
  constructor
  · rintro ⟨ctx', h⟩
    split at h
    · obtain ⟨batch', _, ub, sup, a, ut, _, _, st, hb', -, hub, hsup, ha', hut, -, -, hst, hle, hle2, -⟩ :=
        retirePlan_ok.1 ‹_›
      obtain rfl : batch' = batch := Option.some.inj (hb'.symm.trans hb)
      refine ⟨by simp [hub], by simp [hsup], ?_, ?_⟩
      · rwa [holding_of_get hub, BatchBalance.amounts, amount_of_fixed ha', amount_of_fixed hut]
      · rwa [supplyOf_of_get hsup, BatchSupply.amounts, amount_of_fixed ha', amount_of_fixed hst]
    · cases h
  · rintro ⟨hub, hsup, hle, hle2⟩
    have hp := batchPrecision_of_creditType hb hct
    obtain ⟨ub, hub⟩ := Option.isSome_iff_exists.1 hub
    obtain ⟨sup, hsup⟩ := Option.isSome_iff_exists.1 hsup
    obtain ⟨a, ha⟩ := ha
    obtain ⟨⟨ut, hut⟩, ⟨ur, hur⟩⟩ := hf.balance_of_get hp hub
    obtain ⟨⟨st, hst⟩, ⟨sr, hsr⟩, -⟩ := hf.supply_of_get hp hsup
    rw [holding_of_get hub, BatchBalance.amounts, amount_of_fixed ha, amount_of_fixed hut] at hle
    rw [supplyOf_of_get hsup, BatchSupply.amounts, amount_of_fixed ha, amount_of_fixed hst] at hle2
    rw [retirePlan_ok.2 ⟨batch, ct, ub, sup, a, ut, ur, sr, st, hb, hct, hub, hsup, ha, hut, hur, hsr, hst, hle, hle2,
      rfl⟩]
    exact ⟨_, rfl⟩

theorem retire_entry_succeeds_escrowSnapshot :
    AmountsFixed escrowSnapshot ∧ escrowSnapshot.batchByDenom "C01-001" = some ⟨1, 1, "C01-001"⟩ ∧
      getCreditTypeFromBatchDenom escrowSnapshot "C01-001" = .ok ⟨"C", 2⟩ ∧ fixedDec 2 "10.5" ∧
      ((∃ ctx', retireCredit ⟨"alice", [⟨"C01-001", "10.5"⟩], "US"⟩ ⟨"C01-001", "10.5"⟩ ⟨escrowSnapshot, []⟩ =
          .ok () ctx') ↔
        (escrowSnapshot.batchBalances.get ("alice", 1)).isSome ∧ (escrowSnapshot.batchSupplies.get 1).isSome ∧
        amount "10.5" ≤ (escrowSnapshot.holding "alice" 1).tradable ∧
        amount "10.5" ≤ (escrowSnapshot.supplyOf 1).tradable) :=
  ⟨escrowSnapshot_amountsFixed, rfl, rfl, ⟨_, rfl⟩,
    retire_entry_succeeds escrowSnapshot_amountsFixed (by rfl) (by rfl) (by exact ⟨_, rfl⟩) []⟩

theorem escrowSnapshot_holding : escrowSnapshot.holding "alice" 1 = ⟨100, 0, 5⟩ := by
  refine (holding_of_get (by rfl)).trans ?_
  simp [BatchBalance.amounts, escrowSnapshot, amount_zero, amount_of_ok (show newDecFromString "100" = .ok ⟨100, 0⟩ from rfl),
    amount_of_ok (show newDecFromString "5" = .ok ⟨5, 0⟩ from rfl), Dec.val]

/-- Alice retires 10.5 credits while 5 of hers are in escrow: her record comes back
    without them. -/
theorem retire_drops_escrow :
    retireCredit ⟨"alice", [⟨"C01-001", "10.5"⟩], "US"⟩ ⟨"C01-001", "10.5"⟩ ⟨escrowSnapshot, []⟩ =
        .ok () ⟨escrowRetired, [.retire "alice" "C01-001" "10.5" "US"]⟩ ∧
      escrowSnapshot.holding "alice" 1 = ⟨100, 0, 5⟩ ∧ escrowRetired.holding "alice" 1 = ⟨89.5, 10.5, 0⟩ := by
  refine ⟨rfl, escrowSnapshot_holding, ?_⟩
  refine (holding_of_get (by rfl)).trans ?_
  simp [BatchBalance.amounts, escrowRetired, amount_empty, Dec.val,
    amount_of_ok (show newDecFromString "89.5" = .ok ⟨895, 1⟩ from rfl),
    amount_of_ok (show newDecFromString "10.5" = .ok ⟨105, 1⟩ from rfl)]
  norm_num

/-! ## Cancel -/

/-- What a successful `Cancel` of `a` credits of batch `k` by `owner` does to the records. -/
structure CancelEffect (s s' : Store) (owner : Address) (k : Nat) (a : ℚ) : Prop where
  held : (s.batchBalances.get (owner, k)).isSome
  le_tradable : a ≤ (s.holding owner k).tradable
  le_supply : a ≤ (s.supplyOf k).tradable
  holding : s'.holding owner k = ⟨(s.holding owner k).tradable - a, (s.holding owner k).retired, 0⟩
  supply : s'.supplyOf k = ⟨(s.supplyOf k).tradable - a, (s.supplyOf k).retired, (s.supplyOf k).cancelled + a⟩
  balances_ne : ∀ hk ≠ (owner, k), s'.batchBalances.get hk = s.batchBalances.get hk
  supplies_ne : ∀ k' ≠ k, s'.batchSupplies.get k' = s.batchSupplies.get k'

/-- One successful `Cancel` entry moves its amount from the owner's and the supply's
    tradable to the supply's cancelled, and rewrites the owner's record with no
    escrowed amount. -/
theorem cancel_entry_effect {req : MsgCancel} {credit : Credits} {ctx ctx' : Ctx}
    (h : cancelCredit req credit ctx = .ok () ctx') :
    ∃ batch, ctx.store.batchByDenom credit.batchDenom = some batch ∧
      CancelEffect ctx.store ctx'.store req.owner batch.key (amount credit.amount) ∧
      ctx'.events = ctx.events ++ [.cancel req.owner credit.batchDenom credit.amount req.reason] := by
  rw [cancelCredit_run] at h
  split at h
  · rename_i p hp
    cases h
    obtain ⟨batch, ct, ub, sup, a, st, ut, cd, hb, -, hub, hsup, ha, hst, hut, hcd, hle, hle2, rfl⟩ :=
      cancelPlan_ok.1 hp
    refine ⟨batch, hb, ⟨by simp [hub], ?_, ?_, ?_, ?_, fun hk hne => Table.get_save_ne _ _ hne,
      fun k hne => Table.get_save_ne _ _ hne⟩, rfl⟩
    · simpa [holding_of_get hub, BatchBalance.amounts, amount_of_fixed ha, amount_of_fixed hut] using hle
    · simpa [supplyOf_of_get hsup, BatchSupply.amounts, amount_of_fixed ha, amount_of_fixed hst] using hle2
    · refine (holding_of_get (Table.get_save_self _ _)).trans ?_
      simp [holding_of_get hub, BatchBalance.amounts, CancelPlan.balance, amount_empty, amount_of_fixed ha,
        amount_of_fixed hut]
    · refine (supplyOf_of_get (Table.get_save_self _ _)).trans ?_
      simp [supplyOf_of_get hsup, BatchSupply.amounts, CancelPlan.supply, amount_of_fixed ha, amount_of_fixed hst,
        amount_of_fixed hcd]
  · cases h

theorem cancel_entry_effect_escrowSnapshot :
    ∃ ctx', cancelCredit ⟨"alice", [⟨"C01-001", "10.5"⟩], "expired"⟩ ⟨"C01-001", "10.5"⟩ ⟨escrowSnapshot, []⟩ =
        .ok () ctx' ∧ ∃ batch, escrowSnapshot.batchByDenom "C01-001" = some batch ∧
        CancelEffect escrowSnapshot ctx'.store "alice" batch.key (amount "10.5") ∧
        ctx'.events = [] ++ [.cancel "alice" "C01-001" "10.5" "expired"] :=
  ⟨_, (fun h => ⟨h, cancel_entry_effect h⟩) rfl⟩

/-- On a store whose amounts are well-formed, a `Cancel` entry of a known batch whose
    amount parses at the batch's precision succeeds exactly when the owner has a record,
    the batch has a supply, and the amount is at most both tradable amounts. -/
theorem cancel_entry_succeeds {s : Store} (hf : AmountsFixed s) {req : MsgCancel} {credit : Credits}
    {batch : Batch} {ct : CreditType} (hb : s.batchByDenom credit.batchDenom = some batch)
    (hct : getCreditTypeFromBatchDenom s batch.denom = .ok ct) (ha : fixedDec ct.precision credit.amount)
    (events : List Event) :
    (∃ ctx', cancelCredit req credit ⟨s, events⟩ = .ok () ctx') ↔
      (s.batchBalances.get (req.owner, batch.key)).isSome ∧ (s.batchSupplies.get batch.key).isSome ∧
      amount credit.amount ≤ (s.holding req.owner batch.key).tradable ∧
      amount credit.amount ≤ (s.supplyOf batch.key).tradable := by
  rw [cancelCredit_run]
  constructor
  · rintro ⟨ctx', h⟩
    split at h
    · obtain ⟨batch', _, ub, sup, a, st, ut, _, hb', -, hub, hsup, ha', hst, hut, -, hle, hle2, -⟩ :=
        cancelPlan_ok.1 ‹_›
      obtain rfl : batch' = batch := Option.some.inj (hb'.symm.trans hb)
      refine ⟨by simp [hub], by simp [hsup], ?_, ?_⟩
      · rwa [holding_of_get hub, BatchBalance.amounts, amount_of_fixed ha', amount_of_fixed hut]
      · rwa [supplyOf_of_get hsup, BatchSupply.amounts, amount_of_fixed ha', amount_of_fixed hst]
    · cases h
  · rintro ⟨hub, hsup, hle, hle2⟩
    have hp := batchPrecision_of_creditType hb hct
    obtain ⟨ub, hub⟩ := Option.isSome_iff_exists.1 hub
    obtain ⟨sup, hsup⟩ := Option.isSome_iff_exists.1 hsup
    obtain ⟨a, ha⟩ := ha
    obtain ⟨⟨ut, hut⟩, -⟩ := hf.balance_of_get hp hub
    obtain ⟨⟨st, hst⟩, -, ⟨cd, hcd⟩⟩ := hf.supply_of_get hp hsup
    rw [holding_of_get hub, BatchBalance.amounts, amount_of_fixed ha, amount_of_fixed hut] at hle
    rw [supplyOf_of_get hsup, BatchSupply.amounts, amount_of_fixed ha, amount_of_fixed hst] at hle2
    rw [cancelPlan_ok.2 ⟨batch, ct, ub, sup, a, st, ut, cd, hb, hct, hub, hsup, ha, hst, hut, hcd, hle, hle2, rfl⟩]
    exact ⟨_, rfl⟩

theorem cancel_entry_succeeds_escrowSnapshot :
    AmountsFixed escrowSnapshot ∧ escrowSnapshot.batchByDenom "C01-001" = some ⟨1, 1, "C01-001"⟩ ∧
      getCreditTypeFromBatchDenom escrowSnapshot "C01-001" = .ok ⟨"C", 2⟩ ∧ fixedDec 2 "10.5" ∧
      ((∃ ctx', cancelCredit ⟨"alice", [⟨"C01-001", "10.5"⟩], "expired"⟩ ⟨"C01-001", "10.5"⟩
          ⟨escrowSnapshot, []⟩ = .ok () ctx') ↔
        (escrowSnapshot.batchBalances.get ("alice", 1)).isSome ∧ (escrowSnapshot.batchSupplies.get 1).isSome ∧
        amount "10.5" ≤ (escrowSnapshot.holding "alice" 1).tradable ∧
        amount "10.5" ≤ (escrowSnapshot.supplyOf 1).tradable) :=
  ⟨escrowSnapshot_amountsFixed, rfl, rfl, ⟨_, rfl⟩,
    cancel_entry_succeeds escrowSnapshot_amountsFixed (by rfl) (by rfl) (by exact ⟨_, rfl⟩) []⟩

/-- `escrowSnapshot` after alice cancels 10.5. -/
def escrowCancelled : Store where
  creditTypes := ⟨[⟨"C", 2⟩], by decide⟩
  classes := ⟨[⟨1, "C"⟩], by decide⟩
  projects := ⟨[⟨1, 1⟩], by decide⟩
  batches := ⟨[⟨1, 1, "C01-001"⟩], by decide⟩
  denomUnique := by decide
  batchSupplies := ⟨[⟨1, "89.5", "5", "10.5"⟩], by decide⟩
  batchBalances := ⟨[⟨1, "alice", "89.5", "0", ""⟩], by decide⟩
  basketBalances := ⟨[], by decide⟩

/-- Alice cancels 10.5 credits while 5 of hers are in escrow: her record comes back
    without them. -/
theorem cancel_drops_escrow :
    cancelCredit ⟨"alice", [⟨"C01-001", "10.5"⟩], "expired"⟩ ⟨"C01-001", "10.5"⟩ ⟨escrowSnapshot, []⟩ =
        .ok () ⟨escrowCancelled, [.cancel "alice" "C01-001" "10.5" "expired"]⟩ ∧
      escrowSnapshot.holding "alice" 1 = ⟨100, 0, 5⟩ ∧ escrowCancelled.holding "alice" 1 = ⟨89.5, 0, 0⟩ := by
  refine ⟨rfl, escrowSnapshot_holding, ?_⟩
  refine (holding_of_get (by rfl)).trans ?_
  simp [BatchBalance.amounts, escrowCancelled, amount_empty, amount_zero, Dec.val,
    amount_of_ok (show newDecFromString "89.5" = .ok ⟨895, 1⟩ from rfl)]
  norm_num

/-! ## Send -/

/-- What a successful `Send` of `t` tradable and `x` retired credits of batch `k` does
    to the records. The sender's record is written last, so when the sender is the
    recipient it is the only one that stays. -/
structure SendEffect (s s' : Store) (sender recipient : Address) (k : Nat) (t x : ℚ) : Prop where
  held : (s.batchBalances.get (sender, k)).isSome
  le_tradable : t + x ≤ (s.holding sender k).tradable
  senderHolding : s'.holding sender k = ⟨(s.holding sender k).tradable - t - x, (s.holding sender k).retired, 0⟩
  recipientHolding : recipient ≠ sender →
    s'.holding recipient k = ⟨(s.holding recipient k).tradable + t, (s.holding recipient k).retired + x, 0⟩
  supply : s'.supplyOf k = ⟨(s.supplyOf k).tradable - x, (s.supplyOf k).retired + x, (s.supplyOf k).cancelled⟩
  balances_ne : ∀ hk, hk ≠ (sender, k) → hk ≠ (recipient, k) → s'.batchBalances.get hk = s.batchBalances.get hk
  supplies_ne : ∀ k' ≠ k, s'.batchSupplies.get k' = s.batchSupplies.get k'

theorem send_entry_effect {req : MsgSend} {credit : SendCredits} {ctx ctx' : Ctx}
    (h : sendCredit req credit ctx = .ok () ctx') :
    ∃ batch, ctx.store.batchByDenom credit.batchDenom = some batch ∧
      SendEffect ctx.store ctx'.store req.sender req.recipient batch.key (amount credit.tradableAmount)
        (amount credit.retiredAmount) := by
  rw [sendCredit_run] at h
  split at h
  · rename_i p hp
    cases h
    obtain ⟨batch, ct, sup, fb, tt, tr, ft, fr, t, x, st, sr, hb, -, hsup, hfb, hdecs, hle, hpeq⟩ := sendPlan_ok.1 hp
    simp only [getNonNegativeFixedDecs_ok, List.forall₂_cons] at hdecs
    obtain ⟨htt, htr, hft, hfr, ht, hx, hst, hsr, -⟩ := hdecs
    have hfields : p.batch = batch ∧ p.batchSupply = sup ∧ p.fromRetired = fr ∧
        p.fromTradable.val = ft.val - t.val - x.val ∧ p.toTradable.val = tt.val + t.val ∧
        p.toRetired.val = tr.val + x.val ∧ p.supplyTradable.val = st.val - x.val ∧
        p.supplyRetired.val = sr.val + x.val ∧ p.didRetire = !x.isZero := by
      subst hpeq; simp
    obtain ⟨rfl, rfl, rfl, hfT, htT, htR, hsT, hsR, hdr⟩ := hfields
    have hbal := afterSend_batchBalances ctx.store req.recipient req.sender p
    have hsupp := afterSend_batchSupplies ctx.store req.recipient req.sender p
    have hfrom := holding_of_get hfb
    have hto := holding_eq_getD ctx.store req.recipient p.batch.key
    have hsupply := supplyOf_of_get hsup
    simp only [BatchBalance.amounts, BatchSupply.amounts, amount_of_fixed hft, amount_of_fixed hfr,
      amount_of_fixed htt, amount_of_fixed htr, amount_of_fixed hst, amount_of_fixed hsr] at hfrom hto hsupply
    rw [amount_of_fixed ht, amount_of_fixed hx]
    refine ⟨p.batch, hb, ⟨by simp [hfb], by rw [hfrom]; exact hle, ?_, fun hne => ?_, ?_, fun hk h1 h2 => ?_,
      fun k hne => ?_⟩⟩
    · refine (holding_of_get (by rw [hbal]; exact Table.get_save_self _ (p.fromRecord req.sender))).trans ?_
      simp [hfrom, BatchBalance.amounts, SendPlan.fromRecord, amount_empty, hfT]
    · have hne' : (req.recipient, p.batch.key) ≠ (req.sender, p.batch.key) := fun e => hne (congrArg Prod.fst e)
      refine (holding_of_get (by
        rw [hbal, Table.get_save_ne _ (p.fromRecord req.sender) hne']
        exact Table.get_save_self _ (p.toRecord req.recipient))).trans ?_
      simp [hto, BatchBalance.amounts, SendPlan.toRecord, amount_empty, htT, htR]
    · rw [hsupply, Store.supplyOf, hsupp, hdr]
      cases hx0 : x.isZero
      · simp [BatchSupply.amounts, SendPlan.supply, hsT, hsR]
      · simp [hsup, (Dec.isZero_iff x).1 hx0, BatchSupply.amounts, amount_of_fixed hst, amount_of_fixed hsr]
    · rw [hbal, Table.get_save_ne _ (p.fromRecord req.sender) h1, Table.get_save_ne _ (p.toRecord req.recipient) h2]
    · rw [hsupp]
      split
      · exact Table.get_save_ne _ p.supply hne
      · rfl
  · cases h

theorem send_entry_effect_escrowSnapshot :
    ∃ ctx', sendCredit ⟨"alice", "bob", [⟨"C01-001", "10", "5", "US"⟩]⟩ ⟨"C01-001", "10", "5", "US"⟩
        ⟨escrowSnapshot, []⟩ = .ok () ctx' ∧ ∃ batch, escrowSnapshot.batchByDenom "C01-001" = some batch ∧
        SendEffect escrowSnapshot ctx'.store "alice" "bob" batch.key (amount "10") (amount "5") :=
  ⟨_, (fun h => ⟨h, send_entry_effect h⟩) rfl⟩

/-- The record `Send` reads for its recipient, the zero record when there is none,
    parses at the batch's precision. -/
theorem toBalance_fixed {s : Store} (hf : AmountsFixed s) {k p : Nat} (hp : s.batchPrecision k = some p)
    (h : Address) :
    fixedDec p ((s.batchBalances.get (h, k)).getD
        { batchKey := k, address := h, tradableAmount := "0", retiredAmount := "0" }).tradableAmount ∧
      fixedDec p ((s.batchBalances.get (h, k)).getD
        { batchKey := k, address := h, tradableAmount := "0", retiredAmount := "0" }).retiredAmount := by
  cases hg : s.batchBalances.get (h, k) with
  | none => exact ⟨⟨_, rfl⟩, ⟨_, rfl⟩⟩
  | some b => exact hf.balance_of_get hp hg

/-- On a store whose amounts are well-formed, a `Send` entry of a known batch whose
    amounts parse at the batch's precision succeeds exactly when the sender has a
    record, the batch has a supply, and the two amounts together are at most what the
    sender holds tradable. Nothing compares the retired amount with the supply. -/
theorem send_entry_succeeds {s : Store} (hf : AmountsFixed s) {req : MsgSend} {credit : SendCredits}
    {batch : Batch} {ct : CreditType} (hb : s.batchByDenom credit.batchDenom = some batch)
    (hct : getCreditTypeFromBatchDenom s batch.denom = .ok ct) (ht : fixedDec ct.precision credit.tradableAmount)
    (hx : fixedDec ct.precision credit.retiredAmount) (events : List Event) :
    (∃ ctx', sendCredit req credit ⟨s, events⟩ = .ok () ctx') ↔
      (s.batchBalances.get (req.sender, batch.key)).isSome ∧ (s.batchSupplies.get batch.key).isSome ∧
      amount credit.tradableAmount + amount credit.retiredAmount ≤ (s.holding req.sender batch.key).tradable := by
  rw [sendCredit_run]
  constructor
  · rintro ⟨ctx', h⟩
    split at h
    · obtain ⟨batch', _, sup, fb, _, _, ft, _, t, x, _, _, hb', -, hsup, hfb, hdecs, hle, -⟩ := sendPlan_ok.1 ‹_›
      obtain rfl : batch' = batch := Option.some.inj (hb'.symm.trans hb)
      simp only [getNonNegativeFixedDecs_ok, List.forall₂_cons] at hdecs
      obtain ⟨-, -, hft, -, ht', hx', -, -, -⟩ := hdecs
      refine ⟨by simp [hfb], by simp [hsup], ?_⟩
      rwa [holding_of_get hfb, BatchBalance.amounts, amount_of_fixed ht', amount_of_fixed hx', amount_of_fixed hft]
    · cases h
  · rintro ⟨hfb, hsup, hle⟩
    have hp := batchPrecision_of_creditType hb hct
    obtain ⟨fb, hfb⟩ := Option.isSome_iff_exists.1 hfb
    obtain ⟨sup, hsup⟩ := Option.isSome_iff_exists.1 hsup
    obtain ⟨t, ht⟩ := ht
    obtain ⟨x, hx⟩ := hx
    obtain ⟨⟨ft, hft⟩, ⟨fr, hfr⟩⟩ := hf.balance_of_get hp hfb
    obtain ⟨⟨st, hst⟩, ⟨sr, hsr⟩, -⟩ := hf.supply_of_get hp hsup
    obtain ⟨⟨tt, htt⟩, ⟨tr, htr⟩⟩ := toBalance_fixed hf hp req.recipient
    rw [holding_of_get hfb, BatchBalance.amounts, amount_of_fixed ht, amount_of_fixed hx, amount_of_fixed hft] at hle
    rw [sendPlan_ok.2 ⟨batch, ct, sup, fb, tt, tr, ft, fr, t, x, st, sr, hb, hct, hsup, hfb,
      getNonNegativeFixedDecs_ok.2 (.cons htt (.cons htr (.cons hft (.cons hfr (.cons ht (.cons hx (.cons hst
        (.cons hsr .nil)))))))), hle, rfl⟩]
    exact ⟨_, rfl⟩

theorem send_entry_succeeds_escrowSnapshot :
    AmountsFixed escrowSnapshot ∧ escrowSnapshot.batchByDenom "C01-001" = some ⟨1, 1, "C01-001"⟩ ∧
      getCreditTypeFromBatchDenom escrowSnapshot "C01-001" = .ok ⟨"C", 2⟩ ∧ fixedDec 2 "10" ∧ fixedDec 2 "5" ∧
      ((∃ ctx', sendCredit ⟨"alice", "bob", [⟨"C01-001", "10", "5", "US"⟩]⟩ ⟨"C01-001", "10", "5", "US"⟩
          ⟨escrowSnapshot, []⟩ = .ok () ctx') ↔
        (escrowSnapshot.batchBalances.get ("alice", 1)).isSome ∧ (escrowSnapshot.batchSupplies.get 1).isSome ∧
        amount "10" + amount "5" ≤ (escrowSnapshot.holding "alice" 1).tradable) :=
  ⟨escrowSnapshot_amountsFixed, rfl, rfl, ⟨_, rfl⟩, ⟨_, rfl⟩,
    send_entry_succeeds escrowSnapshot_amountsFixed (by rfl) (by rfl) (by exact ⟨_, rfl⟩) (by exact ⟨_, rfl⟩) []⟩

/-- `escrowSnapshot` after alice sends herself 10 credits and retires 5 more. -/
def escrowSelfSent : Store where
  creditTypes := ⟨[⟨"C", 2⟩], by decide⟩
  classes := ⟨[⟨1, "C"⟩], by decide⟩
  projects := ⟨[⟨1, 1⟩], by decide⟩
  batches := ⟨[⟨1, 1, "C01-001"⟩], by decide⟩
  denomUnique := by decide
  batchSupplies := ⟨[⟨1, "95", "10", "0"⟩], by decide⟩
  batchBalances := ⟨[⟨1, "alice", "85", "0", ""⟩], by decide⟩
  basketBalances := ⟨[], by decide⟩

/-- Alice sends herself 10 credits and retires 5 more: the recipient's record, which
    got the 10 and the 5 retired, is overwritten by the sender's, which lost 15, and
    the escrowed 5 go with it. -/
theorem self_send_keeps_sender_record :
    sendEcocredits ⟨"C01-001", "10", "5", "US"⟩ "alice" "alice" ⟨escrowSnapshot, []⟩ =
        .ok () ⟨escrowSelfSent, [.retire "alice" "C01-001" "5" "US"]⟩ ∧
      escrowSnapshot.holding "alice" 1 = ⟨100, 0, 5⟩ ∧ escrowSelfSent.holding "alice" 1 = ⟨85, 0, 0⟩ := by
  refine ⟨rfl, escrowSnapshot_holding, ?_⟩
  refine (holding_of_get (by rfl)).trans ?_
  simp [BatchBalance.amounts, escrowSelfSent, amount_empty, amount_zero, Dec.val,
    amount_of_ok (show newDecFromString "85" = .ok ⟨85, 0⟩ from rfl)]

end Ecocredit
