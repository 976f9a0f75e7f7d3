/-
  Ecocredit.KeeperSpec — what one entry of each handler does, said once.

  - `retirePlan_ok`, `cancelPlan_ok`, `sendPlan_ok`: a plan succeeds exactly when
    the batch, its credit type, the balances and the supply are found, every amount
    the code parses parses at the batch's precision, and the subtractions it checks
    do not go negative; the plan is then the parsed values combined as the code
    combines them.
  - `retireCredit_run`, `cancelCredit_run`, `sendCredit_run`: an entry whose plan
    fails returns the error and leaves the context as it was; otherwise it writes
    the records the plan describes (`afterRetire`, `afterCancel`, `afterSend`) and
    appends its events. The updates never fail: the plan found every record they
    replace.
-/

import Ecocredit.Keeper

namespace Ecocredit

/-! ## Plans -/

theorem retirePlan_ok {s : Store} {owner : Address} {credit : Credits} {p : RetirePlan} :
    retirePlan s owner credit = .ok p ↔
      ∃ batch ct ub sup a ut ur sr st,
        s.batchByDenom credit.batchDenom = some batch ∧ getCreditTypeFromBatchDenom s batch.denom = .ok ct ∧
        s.batchBalances.get (owner, batch.key) = some ub ∧ s.batchSupplies.get batch.key = some sup ∧
        newNonNegativeFixedDecFromString credit.amount ct.precision = .ok a ∧
        newNonNegativeFixedDecFromString ub.tradableAmount ct.precision = .ok ut ∧
        newNonNegativeFixedDecFromString ub.retiredAmount ct.precision = .ok ur ∧
        newNonNegativeFixedDecFromString sup.retiredAmount ct.precision = .ok sr ∧
        newNonNegativeFixedDecFromString sup.tradableAmount ct.precision = .ok st ∧
        a.val ≤ ut.val ∧ a.val ≤ st.val ∧ p = ⟨batch, sup, ut.sub a, ur.add a, st.sub a, sr.add a⟩ := by
  simp only [retirePlan, Except.bind_eq_ok', Except.mapError_eq_ok, found_eq_ok, Except.pure_eq_ok, safeSubBalance_ok]
  constructor
  · rintro ⟨batch, hb, ct, hct, ub, hub, decs, hdecs, _, ⟨hle, rfl⟩, ur, hur, sup, hsup, decs', hdecs', _, ⟨hle2, rfl⟩, rfl⟩
    simp only [getNonNegativeFixedDecs_ok, List.forall₂_cons_left_iff, List.forall₂_nil_left_iff] at hdecs hdecs'
    obtain ⟨a, _, ha, ⟨ut, _, hut, rfl, rfl⟩, rfl⟩ := hdecs
    obtain ⟨sr, _, hsr, ⟨st, _, hst, rfl, rfl⟩, rfl⟩ := hdecs'
    exact ⟨batch, ct, ub, sup, a, ut, ur, sr, st, hb, hct, hub, hsup, ha, hut, hur, hsr, hst, hle, hle2, rfl⟩
  · rintro ⟨batch, ct, ub, sup, a, ut, ur, sr, st, hb, hct, hub, hsup, ha, hut, hur, hsr, hst, hle, hle2, rfl⟩
    exact ⟨batch, hb, ct, hct, ub, hub, _, getNonNegativeFixedDecs_ok.2 (.cons ha (.cons hut .nil)), _, ⟨hle, rfl⟩,
      ur, hur, sup, hsup, _, getNonNegativeFixedDecs_ok.2 (.cons hsr (.cons hst .nil)), _, ⟨hle2, rfl⟩, rfl⟩

theorem cancelPlan_ok {s : Store} {owner : Address} {credit : Credits} {p : CancelPlan} :
    cancelPlan s owner credit = .ok p ↔
      ∃ batch ct ub sup a st ut cd,
        s.batchByDenom credit.batchDenom = some batch ∧ getCreditTypeFromBatchDenom s batch.denom = .ok ct ∧
        s.batchBalances.get (owner, batch.key) = some ub ∧ s.batchSupplies.get batch.key = some sup ∧
        newNonNegativeFixedDecFromString credit.amount ct.precision = .ok a ∧
        newNonNegativeFixedDecFromString sup.tradableAmount ct.precision = .ok st ∧
        newNonNegativeFixedDecFromString ub.tradableAmount ct.precision = .ok ut ∧
        newNonNegativeFixedDecFromString sup.cancelledAmount ct.precision = .ok cd ∧
        a.val ≤ ut.val ∧ a.val ≤ st.val ∧ p = ⟨batch, ub, sup, ut.sub a, st.sub a, cd.add a⟩ := by
  simp only [cancelPlan, Except.bind_eq_ok', Except.mapError_eq_ok, found_eq_ok, Except.pure_eq_ok, safeSubBalance_ok]
  constructor
  · rintro ⟨batch, hb, ct, hct, ub, hub, sup, hsup, decs, hdecs, _, ⟨hle, rfl⟩, _, ⟨hle2, rfl⟩, rfl⟩
    simp only [getNonNegativeFixedDecs_ok, List.forall₂_cons_left_iff, List.forall₂_nil_left_iff] at hdecs
    obtain ⟨a, _, ha, ⟨st, _, hst, ⟨ut, _, hut, ⟨cd, _, hcd, rfl, rfl⟩, rfl⟩, rfl⟩, rfl⟩ := hdecs
    exact ⟨batch, ct, ub, sup, a, st, ut, cd, hb, hct, hub, hsup, ha, hst, hut, hcd, hle, hle2, rfl⟩
  · rintro ⟨batch, ct, ub, sup, a, st, ut, cd, hb, hct, hub, hsup, ha, hst, hut, hcd, hle, hle2, rfl⟩
    exact ⟨batch, hb, ct, hct, ub, hub, sup, hsup, _,
      getNonNegativeFixedDecs_ok.2 (.cons ha (.cons hst (.cons hut (.cons hcd .nil)))), _, ⟨hle, rfl⟩, _, ⟨hle2, rfl⟩, rfl⟩

theorem sendPlan_ok {s : Store} {c : SendCredits} {ta fa : Address} {p : SendPlan} :
    sendPlan s c ta fa = .ok p ↔
      ∃ batch ct sup fb tt tr ft fr t x st sr,
        s.batchByDenom c.batchDenom = some batch ∧ getCreditTypeFromBatchDenom s batch.denom = .ok ct ∧
        s.batchSupplies.get batch.key = some sup ∧ s.batchBalances.get (fa, batch.key) = some fb ∧
        getNonNegativeFixedDecs ct.precision [((s.batchBalances.get (ta, batch.key)).getD
            { batchKey := batch.key, address := ta, tradableAmount := "0", retiredAmount := "0" }).tradableAmount,
          ((s.batchBalances.get (ta, batch.key)).getD
            { batchKey := batch.key, address := ta, tradableAmount := "0", retiredAmount := "0" }).retiredAmount,
          fb.tradableAmount, fb.retiredAmount, c.tradableAmount, c.retiredAmount, sup.tradableAmount,
          sup.retiredAmount] = .ok [tt, tr, ft, fr, t, x, st, sr] ∧
        t.val + x.val ≤ ft.val ∧
        p = ⟨batch, sup, if t.isZero then tt else tt.add t, if x.isZero then tr else tr.add x,
          if x.isZero then (if t.isZero then ft else ft.sub t) else (if t.isZero then ft else ft.sub t).sub x,
          fr, x, if x.isZero then st else st.sub x, if x.isZero then sr else sr.add x, !x.isZero⟩ := by
  constructor
  · intro h
    simp only [sendPlan, Except.bind_eq_ok', Except.mapError_eq_ok, found_eq_ok] at h
    obtain ⟨batch, hb, ct, hct, sup, hsup, fb, hfb, decs, hdecs, h⟩ := h
    have hf := getNonNegativeFixedDecs_ok.1 hdecs
    simp only [List.forall₂_cons_left_iff, List.forall₂_nil_left_iff] at hf
    obtain ⟨tt, _, -, ⟨tr, _, -, ⟨ft, _, hft, ⟨fr, _, -, ⟨t, _, ht, ⟨x, _, hx, ⟨st, _, -, ⟨sr, _, -, rfl, rfl⟩, rfl⟩,
      rfl⟩, rfl⟩, rfl⟩, rfl⟩, rfl⟩, hdeq⟩ := hf
    rw [hdeq] at hdecs
    have t0 := (newNonNegativeFixedDecFromString_ok.1 ht).2.1
    have x0 := (newNonNegativeFixedDecFromString_ok.1 hx).2.1
    refine ⟨batch, ct, sup, fb, tt, tr, ft, fr, t, x, st, sr, hb, hct, hsup, hfb, hdecs, ?_⟩
    have tz : t.isZero = true → t.val = 0 := (Dec.isZero_iff t).1
    have xz : x.isZero = true → x.val = 0 := (Dec.isZero_iff x).1
    by_cases ht0 : t.isZero <;> by_cases hx0 : x.isZero <;>
      simp only [hdeq, ht0, hx0, List.getD_cons_succ, List.getD_cons_zero, if_true, if_false, Bool.false_eq_true,
        Except.bind_eq_ok', Except.pure_eq_ok, safeSubBalance_ok, Dec.val_sub, exists_eq_left', exists_eq_left,
        and_assoc] at h ⊢
    · exact ⟨by linarith only [tz ht0, xz hx0, (newNonNegativeFixedDecFromString_ok.1 hft).2.1], h.symm⟩
    · obtain ⟨_, hle, rfl, rfl⟩ := h
      exact ⟨by linarith only [tz ht0, hle], rfl⟩
    · obtain ⟨_, hle, rfl, rfl⟩ := h
      exact ⟨by linarith only [xz hx0, hle], rfl⟩
    · obtain ⟨_, hle, rfl, _, hle2, rfl, rfl⟩ := h
      rw [Dec.val_sub] at hle2
      exact ⟨by linarith only [hle2], rfl⟩
  · rintro ⟨batch, ct, sup, fb, tt, tr, ft, fr, t, x, st, sr, hb, hct, hsup, hfb, hdecs, hle, rfl⟩
    have hf := getNonNegativeFixedDecs_ok.1 hdecs
    simp only [List.forall₂_cons] at hf
    obtain ⟨-, -, hft, -, ht, hx, -, -, -⟩ := hf
    have t0 := (newNonNegativeFixedDecFromString_ok.1 ht).2.1
    have x0 := (newNonNegativeFixedDecFromString_ok.1 hx).2.1
    have tz : t.isZero = true → t.val = 0 := (Dec.isZero_iff t).1
    have xz : x.isZero = true → x.val = 0 := (Dec.isZero_iff x).1
    simp only [sendPlan, Except.bind_eq_ok', Except.mapError_eq_ok, found_eq_ok, Except.pure_eq_ok, hb, hct, hsup,
      hfb, Option.some.injEq, Except.ok.injEq, exists_eq_left', hdecs]
    by_cases ht0 : t.isZero <;> by_cases hx0 : x.isZero <;>
      simp only [ht0, hx0, List.getD_cons_succ, List.getD_cons_zero, if_true, if_false, Bool.false_eq_true,
        Except.bind_eq_ok', Except.pure_eq_ok, safeSubBalance_ok, Dec.val_sub, exists_eq_left', exists_eq_left,
        and_assoc, and_true, true_and]
    · exact ⟨_, by linarith only [hle, tz ht0], rfl, rfl⟩
    · exact ⟨_, by linarith only [hle, xz hx0], rfl, rfl⟩
    · exact ⟨_, by linarith only [hle, x0], rfl, _, by rw [Dec.val_sub]; linarith only [hle], rfl, rfl⟩

/-! ## Entries -/

namespace RetirePlan

def balance (p : RetirePlan) (owner : Address) : BatchBalance :=
  { batchKey := p.batch.key, address := owner, tradableAmount := p.userTradableBalance.string,
    retiredAmount := p.userRetiredBalance.string }

def supply (p : RetirePlan) : BatchSupply :=
  { batchKey := p.batch.key, tradableAmount := p.supplyTradable.string, retiredAmount := p.supplyRetired.string,
    cancelledAmount := p.batchSupply.cancelledAmount }

end RetirePlan

/-- The store after the two updates of a `Retire` entry. -/
def Store.afterRetire (s : Store) (owner : Address) (p : RetirePlan) : Store :=
  (s.setBalances (s.batchBalances.save (p.balance owner))).setSupplies (s.batchSupplies.save p.supply)

theorem retireCredit_run (req : MsgRetire) (credit : Credits) (ctx : Ctx) :
    retireCredit req credit ctx =
      match retirePlan ctx.store req.owner credit with
      | .ok p => .ok () ⟨ctx.store.afterRetire req.owner p,
          ctx.events ++ [.retire req.owner credit.batchDenom credit.amount req.jurisdiction]⟩
      | .error e => .error e ctx := by
  cases h : retirePlan ctx.store req.owner credit with
  | error e => simp [retireCredit, h, bind, EStateM.bind, get, getThe, MonadStateOf.get, EStateM.get, liftExcept]
  | ok p =>
    obtain ⟨batch, ct, ub, sup, a, ut, ur, sr, st, hb, hct, hub, hsup, -, -, -, -, -, -, -, rfl⟩ := retirePlan_ok.1 h
    have h1 := Table.update_eq_save (RetirePlan.balance ⟨batch, sup, ut.sub a, ur.add a, st.sub a, sr.add a⟩ req.owner) hub
    have h2 := Table.update_eq_save (RetirePlan.supply ⟨batch, sup, ut.sub a, ur.add a, st.sub a, sr.add a⟩) hsup
    simp only [RetirePlan.balance, RetirePlan.supply] at h1 h2
    simp [retireCredit, h, bind, EStateM.bind, get, getThe, MonadStateOf.get, EStateM.get, liftExcept, updateBalance,
      updateSupply, emit, h1, h2, Store.afterRetire, RetirePlan.balance, RetirePlan.supply]

namespace CancelPlan

def balance (p : CancelPlan) (owner : Address) : BatchBalance :=
  { batchKey := p.batch.key, address := owner, tradableAmount := p.userBalTradable.string,
    retiredAmount := p.userBalance.retiredAmount }

def supply (p : CancelPlan) : BatchSupply :=
  { batchKey := p.batch.key, tradableAmount := p.supplyTradable.string, retiredAmount := p.batchSupply.retiredAmount,
    cancelledAmount := p.cancelledDec.string }

end CancelPlan

/-- The store after the two updates of a `Cancel` entry. -/
def Store.afterCancel (s : Store) (owner : Address) (p : CancelPlan) : Store :=
  (s.setBalances (s.batchBalances.save (p.balance owner))).setSupplies (s.batchSupplies.save p.supply)

theorem cancelCredit_run (req : MsgCancel) (credit : Credits) (ctx : Ctx) :
    cancelCredit req credit ctx =
      match cancelPlan ctx.store req.owner credit with
      | .ok p => .ok () ⟨ctx.store.afterCancel req.owner p,
          ctx.events ++ [.cancel req.owner credit.batchDenom credit.amount req.reason]⟩
      | .error e => .error e ctx := by
  cases h : cancelPlan ctx.store req.owner credit with
  | error e => simp [cancelCredit, h, bind, EStateM.bind, get, getThe, MonadStateOf.get, EStateM.get, liftExcept]
  | ok p =>
    obtain ⟨batch, ct, ub, sup, a, st, ut, cd, hb, hct, hub, hsup, -, -, -, -, -, -, rfl⟩ := cancelPlan_ok.1 h
    have h1 := Table.update_eq_save (CancelPlan.balance ⟨batch, ub, sup, ut.sub a, st.sub a, cd.add a⟩ req.owner) hub
    have h2 := Table.update_eq_save (CancelPlan.supply ⟨batch, ub, sup, ut.sub a, st.sub a, cd.add a⟩) hsup
    simp only [CancelPlan.balance, CancelPlan.supply] at h1 h2
    simp [cancelCredit, h, bind, EStateM.bind, get, getThe, MonadStateOf.get, EStateM.get, liftExcept, updateBalance,
      updateSupply, emit, h1, h2, Store.afterCancel, CancelPlan.balance, CancelPlan.supply]

namespace SendPlan

def toRecord (p : SendPlan) (toAddr : Address) : BatchBalance :=
  { batchKey := p.batch.key, address := toAddr, tradableAmount := p.toTradable.string,
    retiredAmount := p.toRetired.string }

def fromRecord (p : SendPlan) (fromAddr : Address) : BatchBalance :=
  { batchKey := p.batch.key, address := fromAddr, tradableAmount := p.fromTradable.string,
    retiredAmount := p.fromRetired.string }

def supply (p : SendPlan) : BatchSupply :=
  { batchKey := p.batch.key, tradableAmount := p.supplyTradable.string, retiredAmount := p.supplyRetired.string,
    cancelledAmount := p.batchSupply.cancelledAmount }

end SendPlan

/-- The store after the writes of a `sendEcocredits` call: the recipient's record is
    saved, then the sender's, and the supply only when credits were retired. -/
def Store.afterSend (s : Store) (toAddr fromAddr : Address) (p : SendPlan) : Store :=
  let s' := s.setBalances ((s.batchBalances.save (p.toRecord toAddr)).save (p.fromRecord fromAddr))
  if p.didRetire then s'.setSupplies (s.batchSupplies.save p.supply) else s'

/-- The events of one `Send` entry. -/
def sendEvents (req : MsgSend) (credit : SendCredits) (p : SendPlan) : List Event :=
  (if p.didRetire then [.retire req.recipient credit.batchDenom p.sendAmtRetired.string credit.retirementJurisdiction]
    else []) ++ [.transfer req.sender req.recipient credit.batchDenom credit.tradableAmount credit.retiredAmount]

theorem sendCredit_run (req : MsgSend) (credit : SendCredits) (ctx : Ctx) :
    sendCredit req credit ctx =
      match sendPlan ctx.store credit req.recipient req.sender with
      | .ok p => .ok () ⟨ctx.store.afterSend req.recipient req.sender p, ctx.events ++ sendEvents req credit p⟩
      | .error e => .error e ctx := by
  cases h : sendPlan ctx.store credit req.recipient req.sender with
  | error e =>
    simp [sendCredit, sendEcocredits, h, bind, EStateM.bind, get, getThe, MonadStateOf.get, EStateM.get, liftExcept]
  | ok p =>
    obtain ⟨batch, ct, sup, fb, tt, tr, ft, fr, t, x, st, sr, hb, hct, hsup, hfb, -, -, hp⟩ := sendPlan_ok.1 h
    have hfrom : ∃ y, (ctx.store.batchBalances.save (p.toRecord req.recipient)).get (req.sender, p.batch.key) = some y := by
      rw [Table.get_save]
      split
      · exact ⟨_, rfl⟩
      · exact ⟨fb, by rw [hp]; exact hfb⟩
    obtain ⟨y, hy⟩ := hfrom
    have h1 := Table.update_eq_save (p.fromRecord req.sender) hy
    have h2 := Table.update_eq_save (p.supply) (by rw [hp]; exact hsup)
    simp only [SendPlan.fromRecord, SendPlan.supply, SendPlan.toRecord] at h1 h2
    cases hr : p.didRetire <;>
      simp [sendCredit, sendEcocredits, h, bind, EStateM.bind, get, getThe, MonadStateOf.get, EStateM.get, liftExcept,
        pure, EStateM.pure,
        saveBalance, updateBalance, updateSupply, emit, h1, h2, hr, Store.afterSend, sendEvents, SendPlan.fromRecord,
        SendPlan.supply, SendPlan.toRecord]

end Ecocredit
