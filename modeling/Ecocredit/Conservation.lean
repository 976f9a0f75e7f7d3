/-
  Ecocredit.Conservation — what the three protocols conserve and what they only
  ever increase, over every store and every run.

  - `supplyTotal_after*`, `supply_conserved`: a batch's `tradable + retired +
    cancelled` supply is the same after every entry of every handler, hence after
    every successful request and along every run. Send moves the retired amount
    from tradable to retired, Retire likewise, Cancel from tradable to cancelled;
    the field an entry does not parse it copies unchanged.
  - `retired_nondecreasing`: a holder's retired balance and a batch's retired and
    cancelled supplies never decrease, also when the sender and the recipient of a
    Send are one account (the sender's record is written last and keeps its own
    retired amount).
-/

import Ecocredit.Runs

namespace Ecocredit

/-! ## Supply totals -/

def supplyTotalOf (r : BatchSupply) : Option ℚ :=
  (decValue r.tradableAmount).bind fun t => (decValue r.retiredAmount).bind fun rt =>
    (decValue r.cancelledAmount).map (t + rt + ·)

/-- `tradable + retired + cancelled` of batch `key`'s supply, when all three parse. -/
def Store.supplyTotal (s : Store) (key : Nat) : Option ℚ := (s.batchSupplies.get key).bind supplyTotalOf

theorem supplyTotal_afterRetire {s : Store} {owner : Address} {credit : Credits} {p : RetirePlan}
    (h : retirePlan s owner credit = .ok p) (key : Nat) : (s.afterRetire owner p).supplyTotal key = s.supplyTotal key := by
  obtain ⟨batch, ct, ub, sup, a, ut, ur, sr, st, -, -, -, hsup, -, -, -, hsr, hst, -, -, rfl⟩ := retirePlan_ok.1 h
  simp only [Store.supplyTotal, Store.afterRetire, setSupplies_batchSupplies, Table.get_save]
  split
  · subst key
    simp only [RetirePlan.supply, hsup, Option.some_bind, supplyTotalOf, decValue_string, decValue_of_fixed hsr,
      decValue_of_fixed hst, Dec.val_add, Dec.val_sub]
    ring_nf
  · rfl

theorem supplyTotal_afterCancel {s : Store} {owner : Address} {credit : Credits} {p : CancelPlan}
    (h : cancelPlan s owner credit = .ok p) (key : Nat) : (s.afterCancel owner p).supplyTotal key = s.supplyTotal key := by
  obtain ⟨batch, ct, ub, sup, a, st, ut, cd, -, -, -, hsup, -, hst, -, hcd, -, -, rfl⟩ := cancelPlan_ok.1 h
  simp only [Store.supplyTotal, Store.afterCancel, setSupplies_batchSupplies, Table.get_save]
  split
  · subst key
    simp only [CancelPlan.supply, hsup, Option.some_bind, supplyTotalOf, decValue_string, decValue_of_fixed hcd,
      decValue_of_fixed hst, Dec.val_add, Dec.val_sub]
    cases decValue sup.retiredAmount <;> simp; ring
  · rfl

theorem supplyTotal_afterSend {s : Store} {credit : SendCredits} {toAddr fromAddr : Address} {p : SendPlan}
    (h : sendPlan s credit toAddr fromAddr = .ok p) (key : Nat) :
    (s.afterSend toAddr fromAddr p).supplyTotal key = s.supplyTotal key := by
  obtain ⟨batch, ct, sup, fb, tt, tr, ft, fr, t, x, st, sr, -, -, hsup, -, hdecs, -, rfl⟩ := sendPlan_ok.1 h
  simp only [getNonNegativeFixedDecs_ok, List.forall₂_cons] at hdecs
  obtain ⟨-, -, -, -, -, -, hst, hsr, -⟩ := hdecs
  simp only [Store.afterSend]
  cases hx : x.isZero
  · by_cases hk : key = batch.key
    · subst hk
      simp only [hx, Bool.not_false, if_true, Bool.false_eq_true, if_false, Store.supplyTotal,
        setSupplies_batchSupplies, Table.get_save, SendPlan.supply, hsup, Option.some_bind, supplyTotalOf,
        decValue_string, decValue_of_fixed hsr, decValue_of_fixed hst, Dec.val_add, Dec.val_sub]
      ring_nf
    · simp [Store.supplyTotal, Table.get_save, SendPlan.supply, hx, hk]
  · simp [Store.supplyTotal, hx]

/-- A batch's `tradable + retired + cancelled` supply is the same after every
    successful Send, Retire or Cancel request, and after every run of them. -/
theorem supply_conserved :
    (∀ (m : Msg) (ctx ctx' : Ctx), handle m ctx = .ok () ctx' →
      ∀ key, ctx'.store.supplyTotal key = ctx.store.supplyTotal key) ∧
    (∀ (s : Store) (ms : List Msg) (key : Nat), (run s ms).supplyTotal key = s.supplyTotal key) := by
  have hrefl : ∀ s : Store, (∀ key, s.supplyTotal key = s.supplyTotal key) := fun _ _ => rfl
  have htrans : ∀ a b c : Store, (∀ key, b.supplyTotal key = a.supplyTotal key) →
      (∀ key, c.supplyTotal key = b.supplyTotal key) → ∀ key, c.supplyTotal key = a.supplyTotal key :=
    fun _ _ _ h1 h2 key => (h2 key).trans (h1 key)
  have hs := fun s credit toAddr fromAddr p (h : sendPlan s credit toAddr fromAddr = .ok p) =>
    supplyTotal_afterSend h
  have hr := fun s owner credit p (h : retirePlan s owner credit = .ok p) => supplyTotal_afterRetire h
  have hc := fun s owner credit p (h : cancelPlan s owner credit = .ok p) => supplyTotal_afterCancel h
  exact ⟨fun m ctx ctx' h => handle_rel (fun a b => ∀ key, b.supplyTotal key = a.supplyTotal key) hrefl htrans
      hs hr hc h,
    fun s ms => run_rel (fun a b => ∀ key, b.supplyTotal key = a.supplyTotal key) hrefl htrans hs hr hc s ms⟩

/-! ## Retired and cancelled amounts -/

/-- Holder `a`'s retired balance in batch `key`: zero without a record, `none` when
    the stored amount does not parse. -/
def Store.balanceRetired (s : Store) (a : Address) (key : Nat) : Option ℚ :=
  match s.batchBalances.get (a, key) with
  | none => some 0
  | some b => decValue b.retiredAmount

def Store.supplyRetired (s : Store) (key : Nat) : Option ℚ := (s.batchSupplies.get key).bind (decValue ·.retiredAmount)

def Store.supplyCancelled (s : Store) (key : Nat) : Option ℚ :=
  (s.batchSupplies.get key).bind (decValue ·.cancelledAmount)

/-- `f` does not decrease from `s` to `s'` wherever it has a value at `s`. -/
def NonDecreasing (f : Store → Option ℚ) (s s' : Store) : Prop := ∀ v, f s = some v → ∃ v', f s' = some v' ∧ v ≤ v'

namespace NonDecreasing

variable {f : Store → Option ℚ} {s s' : Store}

theorem of_eq (h : f s' = f s) : NonDecreasing f s s' := fun v hv => ⟨v, h ▸ hv, le_rfl⟩

theorem of_le {v v' : ℚ} (h : f s = some v) (h' : f s' = some v') (hle : v ≤ v') : NonDecreasing f s s' :=
  fun _ hw => ⟨v', h', (Option.some.inj (hw.symm.trans h)) ▸ hle⟩

theorem trans {s'' : Store} (h₁ : NonDecreasing f s s') (h₂ : NonDecreasing f s' s'') : NonDecreasing f s s'' := by
  intro v hv
  obtain ⟨v', hv', hle⟩ := h₁ v hv
  obtain ⟨v'', hv'', hle'⟩ := h₂ v' hv'
  exact ⟨v'', hv'', hle.trans hle'⟩

end NonDecreasing

/-- From `s` to `s'`, no holder's retired balance, no batch's retired supply and no
    batch's cancelled supply decreases. -/
def RetiredMono (s s' : Store) : Prop :=
  ∀ a key, NonDecreasing (·.balanceRetired a key) s s' ∧ NonDecreasing (·.supplyRetired key) s s' ∧
    NonDecreasing (·.supplyCancelled key) s s'

theorem balanceRetired_of_record {s : Store} {a : Address} {key : Nat} {b : BatchBalance}
    (h : s.batchBalances.get (a, key) = some b) : s.balanceRetired a key = decValue b.retiredAmount := by
  simp [Store.balanceRetired, h]

/-- The recipient's retired amount `sendEcocredits` parses is its retired balance. -/
theorem balanceRetired_of_getD {s : Store} {a : Address} {key p : Nat} {d : Dec}
    (h : newNonNegativeFixedDecFromString ((s.batchBalances.get (a, key)).getD
      { batchKey := key, address := a, tradableAmount := "0", retiredAmount := "0" }).retiredAmount p = .ok d) :
    s.balanceRetired a key = some d.val := by
  cases hb : s.batchBalances.get (a, key) with
  | none =>
    simp only [hb, Option.getD_none] at h
    have : newDecFromString "0" = .ok ⟨0, 0⟩ := rfl
    obtain ⟨e, -⟩ := newNonNegativeFixedDecFromString_ok.1 h
    rw [this] at e
    cases e
    simp [Store.balanceRetired, hb, Dec.val]
  | some b =>
    simp only [hb, Option.getD_some] at h
    rw [balanceRetired_of_record hb, decValue_of_fixed h]

theorem retiredMono_afterRetire {s : Store} {owner : Address} {credit : Credits} {p : RetirePlan}
    (h : retirePlan s owner credit = .ok p) : RetiredMono s (s.afterRetire owner p) := by
  obtain ⟨batch, ct, ub, sup, a, ut, ur, sr, st, -, -, hub, hsup, ha, -, hur, hsr, -, -, -, rfl⟩ := retirePlan_ok.1 h
  have a0 := fixed_nonneg ha
  intro hk key
  refine ⟨?_, ?_, ?_⟩
  · by_cases e : hk = owner ∧ key = batch.key
    · obtain ⟨rfl, rfl⟩ := e
      refine .of_le (balanceRetired_of_record hub ▸ decValue_of_fixed hur) ?_ (le_add_of_nonneg_right a0)
      simp [Store.afterRetire, Store.balanceRetired, RetirePlan.balance, BatchBalance.pk, Table.get_save]
    · exact .of_eq (by simp [Store.afterRetire, Store.balanceRetired, RetirePlan.balance, BatchBalance.pk,
        Table.get_save, e])
  · by_cases e : key = batch.key
    · subst e
      refine .of_le (show _ = some sr.val by simp [Store.supplyRetired, hsup, decValue_of_fixed hsr]) ?_
        (le_add_of_nonneg_right a0)
      simp [Store.afterRetire, Store.supplyRetired, RetirePlan.supply]
    · exact .of_eq (by simp [Store.afterRetire, Store.supplyRetired, Table.get_save, RetirePlan.supply, e])
  · refine .of_eq ?_
    by_cases e : key = batch.key
    · subst e; simp [Store.afterRetire, Store.supplyCancelled, RetirePlan.supply, hsup]
    · simp [Store.afterRetire, Store.supplyCancelled, Table.get_save, RetirePlan.supply, e]

theorem retiredMono_afterCancel {s : Store} {owner : Address} {credit : Credits} {p : CancelPlan}
    (h : cancelPlan s owner credit = .ok p) : RetiredMono s (s.afterCancel owner p) := by
  obtain ⟨batch, ct, ub, sup, a, st, ut, cd, -, -, hub, hsup, ha, -, -, hcd, -, -, rfl⟩ := cancelPlan_ok.1 h
  intro hk key
  refine ⟨.of_eq ?_, .of_eq ?_, ?_⟩
  · by_cases e : hk = owner ∧ key = batch.key
    · obtain ⟨rfl, rfl⟩ := e
      simp [Store.afterCancel, Store.balanceRetired, CancelPlan.balance, BatchBalance.pk, Table.get_save, hub]
    · simp [Store.afterCancel, Store.balanceRetired, CancelPlan.balance, BatchBalance.pk, Table.get_save, e]
  · by_cases e : key = batch.key
    · subst e; simp [Store.afterCancel, Store.supplyRetired, CancelPlan.supply, hsup, Table.get_save]
    · simp [Store.afterCancel, Store.supplyRetired, Table.get_save, CancelPlan.supply, e]
  · by_cases e : key = batch.key
    · subst e
      refine .of_le (show _ = some cd.val by simp [Store.supplyCancelled, hsup, decValue_of_fixed hcd]) ?_
        (le_add_of_nonneg_right (fixed_nonneg ha))
      simp [Store.afterCancel, Store.supplyCancelled, CancelPlan.supply, Table.get_save]
    · exact .of_eq (by simp [Store.afterCancel, Store.supplyCancelled, Table.get_save, CancelPlan.supply, e])

theorem retiredMono_afterSend {s : Store} {credit : SendCredits} {toAddr fromAddr : Address} {p : SendPlan}
    (h : sendPlan s credit toAddr fromAddr = .ok p) : RetiredMono s (s.afterSend toAddr fromAddr p) := by
  obtain ⟨batch, ct, sup, fb, tt, tr, ft, fr, t, x, st, sr, -, -, hsup, hfb, hdecs, -, rfl⟩ := sendPlan_ok.1 h
  simp only [getNonNegativeFixedDecs_ok, List.forall₂_cons] at hdecs
  obtain ⟨-, htr, -, hfr, -, hx, -, hsr, -⟩ := hdecs
  have x0 := fixed_nonneg hx
  intro hk key
  refine ⟨?_, ?_, ?_⟩
  · by_cases ef : hk = fromAddr ∧ key = batch.key
    · obtain ⟨rfl, rfl⟩ := ef
      refine .of_le (balanceRetired_of_record hfb ▸ decValue_of_fixed hfr) ?_ le_rfl
      cases x.isZero <;> simp [Store.afterSend, Store.balanceRetired, SendPlan.fromRecord, BatchBalance.pk, Table.get_save]
    · by_cases et : hk = toAddr ∧ key = batch.key
      · obtain ⟨rfl, rfl⟩ := et
        have ef' : hk ≠ fromAddr := fun e => ef ⟨e, rfl⟩
        refine .of_le (balanceRetired_of_getD htr)
          (show _ = some (if x.isZero then tr.val else tr.val + x.val) by
            cases x.isZero <;> simp [Store.afterSend, Store.balanceRetired, SendPlan.fromRecord, SendPlan.toRecord,
              BatchBalance.pk, Table.get_save, ef']) ?_
        split
        · exact le_rfl
        · exact le_add_of_nonneg_right x0
      · exact .of_eq (by cases x.isZero <;> simp [Store.afterSend, Store.balanceRetired, SendPlan.fromRecord,
          SendPlan.toRecord, BatchBalance.pk, Table.get_save, ef, et])
  · by_cases e : key = batch.key ∧ x.isZero = false
    · obtain ⟨rfl, hx0⟩ := e
      refine .of_le (show _ = some sr.val by simp [Store.supplyRetired, hsup, decValue_of_fixed hsr]) ?_
        (le_add_of_nonneg_right x0)
      simp [Store.afterSend, Store.supplyRetired, SendPlan.supply, Table.get_save, hx0]
    · refine .of_eq ?_
      cases hx0 : x.isZero
      · simp [Store.afterSend, Store.supplyRetired, Table.get_save, SendPlan.supply, hx0, (by simpa [hx0] using e : key ≠ batch.key)]
      · simp [Store.afterSend, hx0, Store.supplyRetired]
  · refine .of_eq ?_
    by_cases e : key = batch.key
    · subst e; cases x.isZero <;> simp [Store.afterSend, Store.supplyCancelled, SendPlan.supply, hsup, Table.get_save]
    · cases x.isZero <;> simp [Store.afterSend, Store.supplyCancelled, Table.get_save, SendPlan.supply, e]

/-- Retirement and cancellation are irreversible: after every successful Send,
    Retire or Cancel request, and along every run of them, no holder's retired
    balance and no batch's retired or cancelled supply has decreased. -/
theorem retired_nondecreasing :
    (∀ (m : Msg) (ctx ctx' : Ctx), handle m ctx = .ok () ctx' → RetiredMono ctx.store ctx'.store) ∧
    (∀ (s : Store) (ms : List Msg), RetiredMono s (run s ms)) := by
  have hrefl : ∀ s, RetiredMono s s := fun _ _ _ => ⟨.of_eq rfl, .of_eq rfl, .of_eq rfl⟩
  have htrans : ∀ a b c, RetiredMono a b → RetiredMono b c → RetiredMono a c := fun _ _ _ h₁ h₂ hk key =>
    ⟨(h₁ hk key).1.trans (h₂ hk key).1, (h₁ hk key).2.1.trans (h₂ hk key).2.1,
      (h₁ hk key).2.2.trans (h₂ hk key).2.2⟩
  have hs := fun s credit toAddr fromAddr p (h : sendPlan s credit toAddr fromAddr = .ok p) => retiredMono_afterSend h
  have hr := fun s owner credit p (h : retirePlan s owner credit = .ok p) => retiredMono_afterRetire h
  have hc := fun s owner credit p (h : cancelPlan s owner credit = .ok p) => retiredMono_afterCancel h
  exact ⟨fun m ctx ctx' h => handle_rel RetiredMono hrefl htrans hs hr hc h,
    fun s ms => run_rel RetiredMono hrefl htrans hs hr hc s ms⟩

end Ecocredit
