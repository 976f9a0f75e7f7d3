/-
  Ecocredit.WellFormed — stored amounts stay well-formed along every run.

  `AmountsFixed`: every balance's tradable and retired amount, and every supply's
  tradable, retired and cancelled amount, is a string `GetNonNegativeFixedDecs`
  accepts at its batch's precision. The keeper writes only values it computed from
  such strings with `Add` and `SafeSubBalance`, except the supply's tradable amount in
  `Send`, which it lowers with a plain `Sub` (send.go 117): that one stays
  non-negative only while the supply's tradable amount covers what the holders hold
  tradable (`Covered`).

  Proved:
  - `stored_afterRetire`, `stored_afterCancel`, `stored_afterSend`: one entry keeps
    `AmountsFixed ∧ Covered`; `amounts_stay_fixed`: so does every run.
  - `accepted_snapshots_reach_malformed_amounts`: `ValidateGenesis` accepts
    snapshots whose amounts are empty or never parsed (it skips `""` and never reads
    `CancelledAmount`), and snapshots whose amounts all parse but whose supply is not
    `Covered`, from which one `Send` stores a negative supply.
-/

import Ecocredit.Runs
import Ecocredit.GenesisSpec
import Mathlib.Algebra.Order.BigOperators.Group.List

namespace Ecocredit

/-! ## Decimals at a precision -/

/-- A value that prints to a string `GetNonNegativeFixedDecs` accepts at `p`. -/
def Dec.FitsAt (p : Nat) (d : Dec) : Prop := 0 ≤ d.val ∧ d.exp ≤ p

namespace Dec.FitsAt

variable {p : Nat} {x y : Dec}

theorem of_fixed {s : String} (h : newNonNegativeFixedDecFromString s p = .ok x) : x.FitsAt p :=
  ⟨(newNonNegativeFixedDecFromString_ok.1 h).2.1, (newNonNegativeFixedDecFromString_ok.1 h).2.2⟩

theorem fixedDec (h : x.FitsAt p) : fixedDec p x.string := ⟨x, fixedDec_string h.1 h.2⟩

theorem add (hx : x.FitsAt p) (hy : y.FitsAt p) : (x.add y).FitsAt p :=
  ⟨by rw [Dec.val_add]; linarith [hx.1, hy.1], by simp [hx.2, hy.2]⟩

theorem sub (hx : x.FitsAt p) (hy : y.FitsAt p) (hle : y.val ≤ x.val) : (x.sub y).FitsAt p :=
  ⟨by rw [Dec.val_sub]; linarith, by simp [hx.2, hy.2]⟩

/-- The keeper's `if amt.IsZero() ... else x.Add(amt)`. -/
theorem addIf (hx : x.FitsAt p) (hy : y.FitsAt p) : (if y.isZero then x else x.add y).FitsAt p := by
  split
  · exact hx
  · exact hx.add hy

theorem subIf (hx : x.FitsAt p) (hy : y.FitsAt p) (hle : y.val ≤ x.val) :
    (if y.isZero then x else x.sub y).FitsAt p := by
  split
  · exact hx
  · exact hx.sub hy hle

end Dec.FitsAt

@[simp] theorem val_addIf (x y : Dec) : (if y.isZero then x else x.add y).val = x.val + y.val := by
  split
  · rw [(Dec.isZero_iff y).1 ‹_›, add_zero]
  · rw [Dec.val_add]

@[simp] theorem val_subIf (x y : Dec) : (if y.isZero then x else x.sub y).val = x.val - y.val := by
  split
  · rw [(Dec.isZero_iff y).1 ‹_›, sub_zero]
  · rw [Dec.val_sub]

theorem amount_of_fixedDec {p : Nat} {s : String} (h : fixedDec p s) : 0 ≤ amount s := by
  obtain ⟨d, hd⟩ := h
  rw [amount_of_fixed hd]
  exact (Dec.FitsAt.of_fixed hd).1

/-! ## The invariant -/

/-- A balance record whose amounts parse at its batch's precision. -/
def BalanceFixed (prec : Nat → Option Nat) (b : BatchBalance) : Prop :=
  ∀ p, prec b.batchKey = some p → fixedDec p b.tradableAmount ∧ fixedDec p b.retiredAmount

/-- A supply record whose amounts parse at its batch's precision. -/
def SupplyFixed (prec : Nat → Option Nat) (r : BatchSupply) : Prop :=
  ∀ p, prec r.batchKey = some p → fixedDec p r.tradableAmount ∧ fixedDec p r.retiredAmount ∧
    fixedDec p r.cancelledAmount

structure AmountsFixed (s : Store) : Prop where
  balances : ∀ b ∈ s.batchBalances.rows, BalanceFixed s.batchPrecision b
  supplies : ∀ r ∈ s.batchSupplies.rows, SupplyFixed s.batchPrecision r

/-- The balance record a well-formed store finds for a holder of batch `k` parses at
    `k`'s precision. -/
theorem AmountsFixed.balance_of_get {s : Store} (hf : AmountsFixed s) {h : Address} {k p : Nat}
    (hp : s.batchPrecision k = some p) {b : BatchBalance} (hb : s.batchBalances.get (h, k) = some b) :
    fixedDec p b.tradableAmount ∧ fixedDec p b.retiredAmount :=
  have ⟨hbm, hbk⟩ := BatchBalance.mem_of_get hb
  hf.balances b hbm p (hbk ▸ hp)

/-- The supply record a well-formed store finds for batch `k` parses at `k`'s precision. -/
theorem AmountsFixed.supply_of_get {s : Store} (hf : AmountsFixed s) {k p : Nat}
    (hp : s.batchPrecision k = some p) {r : BatchSupply} (hr : s.batchSupplies.get k = some r) :
    fixedDec p r.tradableAmount ∧ fixedDec p r.retiredAmount ∧ fixedDec p r.cancelledAmount :=
  have ⟨hrm, hrk⟩ := Table.get_eq_some.1 hr
  hf.supplies r hrm p (hrk ▸ hp)

/-- What balance record `b` holds tradable of batch `k`. -/
def tradableOf (k : Nat) (b : BatchBalance) : ℚ := if b.batchKey = k then amount b.tradableAmount else 0

def Store.heldTradable (s : Store) (k : Nat) : ℚ := (s.batchBalances.rows.map (tradableOf k)).sum

/-- Every supply's tradable amount covers what the holders of its batch hold tradable. -/
def Covered (s : Store) : Prop := ∀ r ∈ s.batchSupplies.rows, s.heldTradable r.batchKey ≤ amount r.tradableAmount

/-! ## Writes -/

theorem heldTradable_save (s : Store) (b : BatchBalance) (k : Nat) :
    (s.setBalances (s.batchBalances.save b)).heldTradable k =
      s.heldTradable k + tradableOf k b - ((s.batchBalances.get b.pk).map (tradableOf k)).getD 0 :=
  Table.sum_save_sub (tradableOf k) s.batchBalances b

theorem tradableOf_ne {k : Nat} {b : BatchBalance} (h : b.batchKey ≠ k) : tradableOf k b = 0 := if_neg h

/-- The holders of a batch whose records are all well-formed hold at least what one
    of them holds. -/
theorem tradableOf_le_heldTradable {s : Store} (hf : AmountsFixed s) {k p : Nat} (hp : s.batchPrecision k = some p)
    {b : BatchBalance} (hb : b ∈ s.batchBalances.rows) : tradableOf k b ≤ s.heldTradable k := by
  refine List.single_le_sum (fun x hx => ?_) _ (List.mem_map_of_mem _ hb)
  obtain ⟨y, hy, rfl⟩ := List.mem_map.1 hx
  unfold tradableOf
  split
  · exact amount_of_fixedDec (hf.balances y hy p (by rwa [‹y.batchKey = k›])).1
  · exact le_rfl

@[simp] theorem heldTradable_setSupplies (s : Store) (t) : (s.setSupplies t).heldTradable = s.heldTradable := rfl

/-- Lowering a holder's tradable amount of a batch and the batch's supply's by the
    same amount keeps every supply covering its holders. -/
theorem covered_save {s : Store} (hc : Covered s) {b ub : BatchBalance} {r sup : BatchSupply}
    (hub : s.batchBalances.get b.pk = some ub) (hsup : s.batchSupplies.get r.batchKey = some sup)
    (hk : b.batchKey = r.batchKey)
    (hd : amount ub.tradableAmount - amount b.tradableAmount = amount sup.tradableAmount - amount r.tradableAmount) :
    Covered ((s.setBalances (s.batchBalances.save b)).setSupplies (s.batchSupplies.save r)) := by
  have hubk : ub.batchKey = b.batchKey := (BatchBalance.mem_of_get hub).2
  obtain ⟨hsupm, hsupk⟩ := Table.get_eq_some.1 hsup
  intro r' hr
  simp only [setSupplies_batchSupplies, heldTradable_setSupplies] at hr ⊢
  rw [heldTradable_save, hub, Option.map_some', Option.getD_some]
  rcases Table.mem_save.1 hr with rfl | ⟨hr, hne⟩
  · have := hc sup hsupm
    rw [hsupk] at this
    simp only [tradableOf, hubk, hk, if_true]
    linarith
  · have hne' : b.batchKey ≠ r'.batchKey := by rw [hk]; exact Ne.symm hne
    rw [tradableOf_ne hne', tradableOf_ne (hubk ▸ hne'), add_zero, sub_zero]
    exact hc r' hr

/-! ## One entry -/

theorem stored_afterRetire {s : Store} {owner : Address} {credit : Credits} {p : RetirePlan}
    (h : retirePlan s owner credit = .ok p) (hf : AmountsFixed s) (hc : Covered s) :
    AmountsFixed (s.afterRetire owner p) ∧ Covered (s.afterRetire owner p) := by
  obtain ⟨batch, ct, ub, sup, a, ut, ur, sr, st, hb, hct, hub, hsup, ha, hut, hur, hsr, hst, hle, hle2, rfl⟩ :=
    retirePlan_ok.1 h
  have hp := batchPrecision_of_creditType hb hct
  have fa := Dec.FitsAt.of_fixed ha
  refine ⟨⟨?_, ?_⟩, ?_⟩
  · simp only [Store.afterRetire, setSupplies_batchBalances, setBalances_batchBalances, batchPrecision_setSupplies,
      batchPrecision_setBalances]
    refine Table.forall_mem_save hf.balances fun q hq => ?_
    obtain rfl : ct.precision = q := Option.some.inj (hp.symm.trans hq)
    exact ⟨((Dec.FitsAt.of_fixed hut).sub fa hle).fixedDec, ((Dec.FitsAt.of_fixed hur).add fa).fixedDec⟩
  · simp only [Store.afterRetire, setSupplies_batchSupplies, batchPrecision_setSupplies, batchPrecision_setBalances]
    refine Table.forall_mem_save hf.supplies fun q hq => ?_
    obtain rfl : ct.precision = q := Option.some.inj (hp.symm.trans hq)
    exact ⟨((Dec.FitsAt.of_fixed hst).sub fa hle2).fixedDec, ((Dec.FitsAt.of_fixed hsr).add fa).fixedDec,
      (hf.supply_of_get hp hsup).2.2⟩
  · exact covered_save hc hub hsup rfl (by simp [RetirePlan.balance, RetirePlan.supply, amount_of_fixed hut,
      amount_of_fixed hst])

theorem stored_afterCancel {s : Store} {owner : Address} {credit : Credits} {p : CancelPlan}
    (h : cancelPlan s owner credit = .ok p) (hf : AmountsFixed s) (hc : Covered s) :
    AmountsFixed (s.afterCancel owner p) ∧ Covered (s.afterCancel owner p) := by
  obtain ⟨batch, ct, ub, sup, a, st, ut, cd, hb, hct, hub, hsup, ha, hst, hut, hcd, hle, hle2, rfl⟩ :=
    cancelPlan_ok.1 h
  have hp := batchPrecision_of_creditType hb hct
  have fa := Dec.FitsAt.of_fixed ha
  refine ⟨⟨?_, ?_⟩, ?_⟩
  · simp only [Store.afterCancel, setSupplies_batchBalances, setBalances_batchBalances, batchPrecision_setSupplies,
      batchPrecision_setBalances]
    refine Table.forall_mem_save hf.balances fun q hq => ?_
    obtain rfl : ct.precision = q := Option.some.inj (hp.symm.trans hq)
    exact ⟨((Dec.FitsAt.of_fixed hut).sub fa hle).fixedDec, (hf.balance_of_get hp hub).2⟩
  · simp only [Store.afterCancel, setSupplies_batchSupplies, batchPrecision_setSupplies, batchPrecision_setBalances]
    refine Table.forall_mem_save hf.supplies fun q hq => ?_
    obtain rfl : ct.precision = q := Option.some.inj (hp.symm.trans hq)
    exact ⟨((Dec.FitsAt.of_fixed hst).sub fa hle2).fixedDec, (hf.supply_of_get hp hsup).2.1,
      ((Dec.FitsAt.of_fixed hcd).add fa).fixedDec⟩
  · exact covered_save hc hub hsup rfl (by simp [CancelPlan.balance, CancelPlan.supply, amount_of_fixed hut,
      amount_of_fixed hst])

theorem afterSend_batchBalances (s : Store) (ta fa : Address) (p : SendPlan) :
    (s.afterSend ta fa p).batchBalances = (s.batchBalances.save (p.toRecord ta)).save (p.fromRecord fa) := by
  unfold Store.afterSend; split <;> rfl

theorem afterSend_batchSupplies (s : Store) (ta fa : Address) (p : SendPlan) :
    (s.afterSend ta fa p).batchSupplies = if p.didRetire then s.batchSupplies.save p.supply else s.batchSupplies := by
  unfold Store.afterSend; split <;> rfl

@[simp] theorem afterSend_batchPrecision (s : Store) (ta fa : Address) (p : SendPlan) :
    (s.afterSend ta fa p).batchPrecision = s.batchPrecision := by
  unfold Store.afterSend; split <;> rfl

theorem heldTradable_afterSend_eq (s : Store) (ta fa : Address) (p : SendPlan) :
    (s.afterSend ta fa p).heldTradable =
      ((s.setBalances (s.batchBalances.save (p.toRecord ta))).setBalances
        ((s.setBalances (s.batchBalances.save (p.toRecord ta))).batchBalances.save (p.fromRecord fa))).heldTradable := by
  unfold Store.afterSend; split <;> rfl

/-- A `Send` entry lowers what the holders of its batch hold tradable by at least the
    amount it retires (by its tradable amount too when sender and recipient are the
    same: the sender's record overwrites the recipient's), and leaves other batches'. -/
theorem heldTradable_afterSend {s : Store} {credit : SendCredits} {ta fa : Address} {p : SendPlan}
    (h : sendPlan s credit ta fa = .ok p) (k : Nat) :
    (s.afterSend ta fa p).heldTradable k + (if p.batch.key = k then p.sendAmtRetired.val else 0) ≤
      s.heldTradable k := by
  rw [heldTradable_afterSend_eq]
  obtain ⟨batch, ct, sup, fb, tt, tr, ft, fr, t, x, st, sr, hb, hct, hsup, hfb, hdecs, hle, rfl⟩ := sendPlan_ok.1 h
  simp only [getNonNegativeFixedDecs_ok, List.forall₂_cons] at hdecs
  obtain ⟨htt, -, hft, -, ht, hx, -, -, -⟩ := hdecs
  have t0 := (Dec.FitsAt.of_fixed ht).1
  have hfbk : fb.batchKey = batch.key := (BatchBalance.mem_of_get hfb).2
  have hold : ((s.batchBalances.get (ta, batch.key)).map (tradableOf k)).getD 0 =
      if batch.key = k then tt.val else 0 := by
    cases hg : s.batchBalances.get (ta, batch.key) with
    | none =>
      rw [hg, Option.getD_none] at htt
      have : tt.val = 0 := by rw [← amount_of_fixed htt]; exact amount_zero
      simp [this]
    | some y =>
      rw [hg, Option.getD_some] at htt
      have hyk : y.batchKey = batch.key := (BatchBalance.mem_of_get hg).2
      simp [tradableOf, hyk, amount_of_fixed htt]
  rw [heldTradable_save, heldTradable_save]
  simp only [setBalances_batchBalances, SendPlan.toRecord, SendPlan.fromRecord, BatchBalance.pk, Table.get_save]
  rw [hold]
  by_cases hk : batch.key = k
  · subst hk
    by_cases e : (fa, batch.key) = (ta, batch.key)
    · have hfa : fa = ta := congrArg Prod.fst e
      subst hfa
      obtain rfl : tt = ft := by
        rw [hfb, Option.getD_some] at htt
        exact Except.ok.inj (htt.symm.trans hft)
      simp only [if_pos e, tradableOf, if_true, Option.map_some', Option.getD_some, amount_string, val_addIf,
        val_subIf]
      linarith only [t0]
    · simp only [if_neg e, hfb, tradableOf, hfbk, if_true, Option.map_some', Option.getD_some, amount_string,
        val_addIf, val_subIf, amount_of_fixed hft]
      linarith only []
  · have h0 : ∀ b : BatchBalance, b.batchKey = batch.key → tradableOf k b = 0 := fun b hb => tradableOf_ne (hb ▸ hk)
    rw [if_neg hk, if_neg hk, h0 _ rfl, h0 _ rfl]
    split <;> simp [h0, hfb, hfbk]

theorem stored_afterSend {s : Store} {credit : SendCredits} {ta fa : Address} {p : SendPlan}
    (h : sendPlan s credit ta fa = .ok p) (hf : AmountsFixed s) (hc : Covered s) :
    AmountsFixed (s.afterSend ta fa p) ∧ Covered (s.afterSend ta fa p) := by
  have hheld := heldTradable_afterSend h
  obtain ⟨batch, ct, sup, fb, tt, tr, ft, fr, t, x, st, sr, hb, hct, hsup, hfb, hdecs, hle, rfl⟩ := sendPlan_ok.1 h
  simp only [getNonNegativeFixedDecs_ok, List.forall₂_cons] at hdecs
  obtain ⟨htt, htr, hft, hfr, ht, hx, hst, hsr, -⟩ := hdecs
  have hp := batchPrecision_of_creditType hb hct
  have ft' := Dec.FitsAt.of_fixed hft
  have t' := Dec.FitsAt.of_fixed ht
  have x' := Dec.FitsAt.of_fixed hx
  obtain ⟨hsupm, hsupk⟩ := Table.get_eq_some.1 hsup
  obtain ⟨hfbm, hfbk⟩ := BatchBalance.mem_of_get hfb
  have hxst : x.val ≤ st.val :=
    calc x.val ≤ tradableOf batch.key fb := by
          rw [tradableOf, if_pos hfbk, amount_of_fixed hft]; linarith only [hle, t'.1]
      _ ≤ s.heldTradable batch.key := tradableOf_le_heldTradable hf hp hfbm
      _ ≤ st.val := by rw [← amount_of_fixed hst, ← hsupk]; exact hc sup hsupm
  refine ⟨⟨?_, ?_⟩, ?_⟩
  · rw [afterSend_batchBalances, afterSend_batchPrecision]
    refine Table.forall_mem_save (Table.forall_mem_save hf.balances fun q hq => ?_) fun q hq => ?_
    · obtain rfl : ct.precision = q := Option.some.inj (hp.symm.trans hq)
      exact ⟨((Dec.FitsAt.of_fixed htt).addIf t').fixedDec, ((Dec.FitsAt.of_fixed htr).addIf x').fixedDec⟩
    · obtain rfl : ct.precision = q := Option.some.inj (hp.symm.trans hq)
      have fsub := ft'.subIf t' (by linarith only [hle, x'.1])
      exact ⟨(fsub.subIf x' (by rw [val_subIf]; linarith only [hle])).fixedDec, (Dec.FitsAt.of_fixed hfr).fixedDec⟩
  · rw [afterSend_batchSupplies, afterSend_batchPrecision]
    by_cases hd : x.isZero = true
    · rw [if_neg (by simp [hd])]
      exact hf.supplies
    · rw [if_pos (by simp [hd])]
      refine Table.forall_mem_save hf.supplies fun q hq => ?_
      obtain rfl : ct.precision = q := Option.some.inj (hp.symm.trans hq)
      exact ⟨((Dec.FitsAt.of_fixed hst).subIf x' hxst).fixedDec, ((Dec.FitsAt.of_fixed hsr).addIf x').fixedDec,
        (hf.supply_of_get hp hsup).2.2⟩
  · intro r hr
    have hk := hheld r.batchKey
    rw [afterSend_batchSupplies] at hr
    by_cases hd : x.isZero = true
    · rw [if_neg (by simp [hd])] at hr
      have : 0 ≤ if batch.key = r.batchKey then x.val else 0 := by split; exacts [x'.1, le_rfl]
      exact (by linarith only [hk, this] : _ ≤ s.heldTradable r.batchKey).trans (hc r hr)
    · rw [if_pos (by simp [hd])] at hr
      rcases Table.mem_save.1 hr with rfl | ⟨hr, hne⟩
      · have := hc sup hsupm
        rw [hsupk, amount_of_fixed hst] at this
        simp only [SendPlan.supply, if_true, amount_string, val_subIf] at hk ⊢
        linarith only [hk, this]
      · have hne : batch.key ≠ r.batchKey := fun e => hne e.symm
        simp only [if_neg hne, add_zero] at hk
        exact hk.trans (hc r hr)

/-! ## Runs -/

/-- From every store whose amounts are well-formed and whose supplies cover what
    their holders hold tradable, every run of requests keeps every stored amount
    well-formed. -/
theorem amounts_stay_fixed {s : Store} (hf : AmountsFixed s) (hc : Covered s) (ms : List Msg) :
    AmountsFixed (run s ms) :=
  (run_rel (fun s s' => AmountsFixed s ∧ Covered s → AmountsFixed s' ∧ Covered s') (fun _ => id)
    (fun _ _ _ h₁ h₂ => h₂ ∘ h₁) (fun _ _ _ _ _ h hs => stored_afterSend h hs.1 hs.2)
    (fun _ _ _ _ h hs => stored_afterRetire h hs.1 hs.2) (fun _ _ _ _ h hs => stored_afterCancel h hs.1 hs.2)
    s ms ⟨hf, hc⟩).1

theorem oneBatchSnapshot_amountsFixed : AmountsFixed oneBatchSnapshot where
  balances := fun b hb p hp => by
    rcases List.mem_singleton.1 hb with rfl
    obtain rfl : 2 = p := Option.some.inj hp
    exact ⟨⟨_, rfl⟩, ⟨_, rfl⟩⟩
  supplies := fun r hr p hp => by
    rcases List.mem_singleton.1 hr with rfl
    obtain rfl : 2 = p := Option.some.inj hp
    exact ⟨⟨_, rfl⟩, ⟨_, rfl⟩, ⟨_, rfl⟩⟩

theorem oneBatchSnapshot_covered : Covered oneBatchSnapshot := fun r hr => by
  rcases List.mem_singleton.1 hr with rfl
  simp [Store.heldTradable, tradableOf, oneBatchSnapshot]

theorem amounts_stay_fixed_oneBatchSnapshot :
    AmountsFixed oneBatchSnapshot ∧ Covered oneBatchSnapshot ∧
      AmountsFixed (run oneBatchSnapshot [.retire ⟨"alice", [⟨"C01-001", "2.5"⟩], "US"⟩,
        .send ⟨"alice", "bob", [⟨"C01-001", "1", "1.25", "US"⟩]⟩]) :=
  ⟨oneBatchSnapshot_amountsFixed, oneBatchSnapshot_covered,
    amounts_stay_fixed oneBatchSnapshot_amountsFixed oneBatchSnapshot_covered _⟩

/-! ## Accepted snapshots -/

/-- One batch whose amounts are partly empty, as genesis files that omit zero fields are. -/
def emptyAmountSnapshot : Store where
  creditTypes := ⟨[⟨"C", 2⟩], by decide⟩
  classes := ⟨[⟨1, "C"⟩], by decide⟩
  projects := ⟨[⟨1, 1⟩], by decide⟩
  batches := ⟨[⟨1, 1, "C01-001"⟩], by decide⟩
  denomUnique := by decide
  batchSupplies := ⟨[{ batchKey := 1, tradableAmount := "10" }], by decide⟩
  batchBalances := ⟨[{ batchKey := 1, address := "alice", tradableAmount := "10" }], by decide⟩
  basketBalances := ⟨[], by decide⟩

/-- One batch whose supply declares retired the 10 credits alice holds tradable: the
    totals agree, the split does not. -/
def splitSupplySnapshot : Store where
  creditTypes := ⟨[⟨"C", 2⟩], by decide⟩
  classes := ⟨[⟨1, "C"⟩], by decide⟩
  projects := ⟨[⟨1, 1⟩], by decide⟩
  batches := ⟨[⟨1, 1, "C01-001"⟩], by decide⟩
  denomUnique := by decide
  batchSupplies := ⟨[⟨1, "0", "10", "0"⟩], by decide⟩
  batchBalances := ⟨[⟨1, "alice", "10", "0", ""⟩], by decide⟩
  basketBalances := ⟨[], by decide⟩

/-- The validator accepts a snapshot whose supply has empty retired and cancelled
    amounts, which `GetNonNegativeFixedDecs` rejects; and it accepts
    `splitSupplySnapshot`, whose amounts all parse, from which one `Send` retiring 5
    stores a supply tradable amount of `-5` (`Sub`, not `SafeSubBalance`). -/
theorem accepted_snapshots_reach_malformed_amounts :
    (validateGenesis emptyAmountSnapshot = .ok () ∧ ¬ AmountsFixed (run emptyAmountSnapshot [])) ∧
    (validateGenesis splitSupplySnapshot = .ok () ∧ AmountsFixed splitSupplySnapshot ∧
      (run splitSupplySnapshot [.send ⟨"alice", "bob", [⟨"C01-001", "0", "5", "US"⟩]⟩]).batchSupplies.rows =
        [⟨1, "-5", "15", "0"⟩] ∧
      ¬ AmountsFixed (run splitSupplySnapshot [.send ⟨"alice", "bob", [⟨"C01-001", "0", "5", "US"⟩]⟩])) := by
  refine ⟨⟨rfl, fun h => ?_⟩, rfl, ⟨fun b hb p hp => ?_, fun r hr p hp => ?_⟩, rfl, fun h => ?_⟩
  · obtain ⟨d, hd⟩ := (h.supplies _ (List.mem_singleton_self _) 2 rfl).2.1
    cases hd
  · rcases List.mem_singleton.1 hb with rfl
    obtain rfl : 2 = p := Option.some.inj hp
    exact ⟨⟨_, rfl⟩, ⟨_, rfl⟩⟩
  · rcases List.mem_singleton.1 hr with rfl
    obtain rfl : 2 = p := Option.some.inj hp
    exact ⟨⟨_, rfl⟩, ⟨_, rfl⟩, ⟨_, rfl⟩⟩
  · obtain ⟨d, hd⟩ := (h.supplies ⟨1, "-5", "15", "0"⟩ (List.mem_singleton_self _) 2 rfl).1
    cases hd

end Ecocredit
