/-
  Ecocredit.EventLog — the events a run leaves, read as a record of what happened to
  each batch's supply.

  Each entry emits its event after its writes, and a request that fails is committed
  with no event (`deliverEvents`), so the committed events are those of the committed
  entries. A `Retire` entry emits `EventRetire` with the request's amount string, a
  `Cancel` entry `EventCancel` likewise, and a `Send` entry that retires emits
  `EventRetire` for the recipient with the parsed amount printed again, then
  `EventTransfer`.

  Proved, each from `run_reads` (a reading of the events that holds for each entry kind
  holds along every run):
  - `supply_follows_events`: along every run, every batch's supply tradable amount
    falls by, and its retired and cancelled amounts grow by, exactly the amounts of the
    `Retire` and `Cancel` events of its denom that the run emits. Each entry parses the
    supply amounts it writes, so a supply amount that does not parse is never written
    and no event names its batch.
  - `holder_retired_follows_events`: along every run with no `Send` to its own sender,
    each holder's retired amount of each batch grows by exactly the amounts of the
    `Retire` events naming that holder and the batch's denom. A self-send emits its
    `Retire` event, but the sender's record, written last, keeps its old retired amount
    (`self_send_keeps_sender_record`).
-/

import Ecocredit.Footprint

namespace Ecocredit

/-- Modelled from the spec (§1, §5): the events a run of messages leaves, those of each
    delivered message in turn. -/
def runEvents : Store → List Msg → List Event
  | _, [] => []
  | s, m :: ms => deliverEvents s m ++ runEvents (deliver s m) ms

/-- The amount a `Retire` event reports retired from batch denom `d`. -/
def Event.retiredOf (d : String) : Event → ℚ
  | .retire _ d' a _ => if d' = d then amount a else 0
  | _ => 0

/-- The amount a `Cancel` event reports cancelled from batch denom `d`. -/
def Event.cancelledOf (d : String) : Event → ℚ
  | .cancel _ d' a _ => if d' = d then amount a else 0
  | _ => 0

/-- The amount a `Retire` event reports retired by `a` from batch denom `d`. -/
def Event.retiredByOf (a : Address) (d : String) : Event → ℚ
  | .retire o d' amt _ => if o = a ∧ d' = d then amount amt else 0
  | _ => 0

/-- From `s` to `s'`, batch `b`'s supply moved out of tradable exactly what the events
    `evs` report retired and cancelled from `b`'s denom, into retired and cancelled. -/
def SupplyReported (b : Batch) (s s' : Store) (evs : List Event) : Prop :=
  (s'.supplyOf b.key).tradable =
      (s.supplyOf b.key).tradable - (evs.map (Event.retiredOf b.denom)).sum - (evs.map (Event.cancelledOf b.denom)).sum ∧
    (s'.supplyOf b.key).retired = (s.supplyOf b.key).retired + (evs.map (Event.retiredOf b.denom)).sum ∧
    (s'.supplyOf b.key).cancelled = (s.supplyOf b.key).cancelled + (evs.map (Event.cancelledOf b.denom)).sum

namespace SupplyReported

variable {b : Batch} {s s' s'' : Store} {e e' : List Event}

theorem refl (b : Batch) (s : Store) : SupplyReported b s s [] := by
  simp [SupplyReported]

theorem trans (h₁ : SupplyReported b s s' e) (h₂ : SupplyReported b s' s'' e') : SupplyReported b s s'' (e ++ e') := by
  obtain ⟨t₁, r₁, c₁⟩ := h₁
  obtain ⟨t₂, r₂, c₂⟩ := h₂
  simp only [SupplyReported, List.map_append, List.sum_append]
  exact ⟨by rw [t₂, t₁]; ring, by rw [r₂, r₁]; ring, by rw [c₂, c₁]; ring⟩

/-- A write that leaves the supply of `b` as it was, with events that report nothing of
    `b`'s denom. -/
theorem of_eq (h : s'.supplyOf b.key = s.supplyOf b.key) (hr : (e.map (Event.retiredOf b.denom)).sum = 0)
    (hc : (e.map (Event.cancelledOf b.denom)).sum = 0) : SupplyReported b s s' e := by
  simp [SupplyReported, h, hr, hc]

end SupplyReported

/-- From `s` to `s'`, `a`'s retired amount of batch `b` grew by exactly what the events
    `evs` report retired by `a` from `b`'s denom. -/
def RetiredReported (a : Address) (b : Batch) (s s' : Store) (evs : List Event) : Prop :=
  (s'.holding a b.key).retired = (s.holding a b.key).retired + (evs.map (Event.retiredByOf a b.denom)).sum

theorem RetiredReported.refl (a : Address) (b : Batch) (s : Store) : RetiredReported a b s s [] := by
  simp [RetiredReported]

theorem RetiredReported.trans {a : Address} {b : Batch} {s s' s'' : Store} {e e' : List Event}
    (h₁ : RetiredReported a b s s' e) (h₂ : RetiredReported a b s' s'' e') : RetiredReported a b s s'' (e ++ e') := by
  rw [RetiredReported] at h₁ h₂
  rw [RetiredReported, h₂, h₁, List.map_append, List.sum_append, add_assoc]

/-- The batch an entry finds by denom `d` has the key of batch `b` exactly when `d` is
    `b`'s denom. -/
theorem key_eq_iff_denom_eq {s : Store} {d : String} {b b' : Batch} (hb' : s.batchByDenom d = some b')
    (hb : b ∈ s.batches.rows) : b'.key = b.key ↔ d = b.denom := by
  obtain ⟨hm, rfl⟩ := batchByDenom_eq_some.1 hb'
  constructor
  · intro hk
    obtain rfl := Option.some.inj ((Table.get_eq_some.2 ⟨hm, hk⟩).symm.trans (Table.get_eq_some.2 ⟨hb, rfl⟩))
    rfl
  · intro hd
    obtain rfl := Option.some.inj (hb'.symm.trans (batchByDenom_eq_some.2 ⟨hb, hd.symm⟩))
    rfl

/-! ## Entries -/

section Entries

variable {s : Store} {b : Batch} (hb : b ∈ s.batches.rows)

theorem afterSend_batches (s : Store) (ta fa : Address) (p : SendPlan) : (s.afterSend ta fa p).batches = s.batches := by
  unfold Store.afterSend; split <;> rfl

theorem supplyOf_save_ne (s : Store) (r : BatchSupply) {k : Nat} (hk : k ≠ r.batchKey) :
    (s.setSupplies (s.batchSupplies.save r)).supplyOf k = s.supplyOf k := by
  simp only [Store.supplyOf, setSupplies_batchSupplies, Table.get_save_ne _ r hk]

theorem supplyOf_afterRetire {owner : Address} {c : Credits} {p : RetirePlan} (h : retirePlan s owner c = .ok p) :
    (s.afterRetire owner p).supplyOf p.batch.key = ⟨(s.supplyOf p.batch.key).tradable - amount c.amount,
      (s.supplyOf p.batch.key).retired + amount c.amount, (s.supplyOf p.batch.key).cancelled⟩ := by
  obtain ⟨batch, ct, ub, sup, a, ut, ur, sr, st, -, -, -, hsup, ha, -, -, hsr, hst, -, -, rfl⟩ := retirePlan_ok.1 h
  refine (supplyOf_of_get (Table.get_save_self _ _)).trans ?_
  simp [supplyOf_of_get hsup, BatchSupply.amounts, RetirePlan.supply, amount_of_fixed ha, amount_of_fixed hst,
    amount_of_fixed hsr]

theorem supplyOf_afterCancel {owner : Address} {c : Credits} {p : CancelPlan} (h : cancelPlan s owner c = .ok p) :
    (s.afterCancel owner p).supplyOf p.batch.key = ⟨(s.supplyOf p.batch.key).tradable - amount c.amount,
      (s.supplyOf p.batch.key).retired, (s.supplyOf p.batch.key).cancelled + amount c.amount⟩ := by
  obtain ⟨batch, ct, ub, sup, a, st, ut, cd, -, -, -, hsup, ha, hst, -, hcd, -, -, rfl⟩ := cancelPlan_ok.1 h
  refine (supplyOf_of_get (Table.get_save_self _ _)).trans ?_
  simp [supplyOf_of_get hsup, BatchSupply.amounts, CancelPlan.supply, amount_of_fixed ha, amount_of_fixed hst,
    amount_of_fixed hcd]

/-- A `Send` moves the retired amount from the supply's tradable to its retired amount;
    when that amount is zero it writes no supply, and the two agree. -/
theorem supplyOf_afterSend {c : SendCredits} {ta fa : Address} {p : SendPlan} (h : sendPlan s c ta fa = .ok p) :
    (s.afterSend ta fa p).supplyOf p.batch.key = ⟨(s.supplyOf p.batch.key).tradable - amount c.retiredAmount,
      (s.supplyOf p.batch.key).retired + amount c.retiredAmount, (s.supplyOf p.batch.key).cancelled⟩ := by
  obtain ⟨batch, ct, sup, fb, tt, tr, ft, fr, t, x, st, sr, -, -, hsup, -, hdecs, -, hpeq⟩ := sendPlan_ok.1 h
  simp only [getNonNegativeFixedDecs_ok, List.forall₂_cons] at hdecs
  obtain ⟨-, -, -, -, -, hx, hst, hsr, -⟩ := hdecs
  rw [amount_of_fixed hx]
  cases hx0 : x.isZero
  · have hget : (s.afterSend ta fa p).batchSupplies.get p.batch.key = some p.supply := by
      rw [afterSend_batchSupplies, if_pos (by rw [hpeq, hx0]; rfl)]
      exact Table.get_save_self _ _
    rw [supplyOf_of_get hget]
    subst hpeq
    simp [supplyOf_of_get hsup, BatchSupply.amounts, SendPlan.supply, hx0, amount_of_fixed hst, amount_of_fixed hsr]
  · rw [Store.supplyOf, afterSend_batchSupplies, if_neg (by simp [hpeq, hx0]), (Dec.isZero_iff x).1 hx0]
    simp [Store.supplyOf]

/-- A `Send` entry emits a `Retire` event for the recipient, with its retired amount
    parsed and printed again, exactly when that amount is not zero, then its `Transfer`
    event. -/
theorem sendEvents_eq {c : SendCredits} {p : SendPlan} (req : MsgSend) (h : sendPlan s c req.recipient req.sender = .ok p) :
    ∃ x : Dec, x.val = amount c.retiredAmount ∧ sendEvents req c p =
      (if x.isZero then [] else [.retire req.recipient c.batchDenom x.string c.retirementJurisdiction]) ++
        [.transfer req.sender req.recipient c.batchDenom c.tradableAmount c.retiredAmount] := by
  obtain ⟨batch, ct, sup, fb, tt, tr, ft, fr, t, x, st, sr, -, -, -, -, hdecs, -, rfl⟩ := sendPlan_ok.1 h
  simp only [getNonNegativeFixedDecs_ok, List.forall₂_cons] at hdecs
  obtain ⟨-, -, -, -, -, hx, -⟩ := hdecs
  refine ⟨x, (amount_of_fixed hx).symm, ?_⟩
  cases x.isZero <;> rfl

theorem sendEvents_retiredOf {c : SendCredits} {p : SendPlan} (req : MsgSend) (h : sendPlan s c req.recipient req.sender = .ok p)
    (d : String) :
    ((sendEvents req c p).map (Event.retiredOf d)).sum = if c.batchDenom = d then amount c.retiredAmount else 0 := by
  obtain ⟨x, hx, he⟩ := sendEvents_eq req h
  rw [he, ← hx]
  cases hx0 : x.isZero <;> simp [Event.retiredOf, hx0, (Dec.isZero_iff x).1]

theorem sendEvents_cancelledOf (req : MsgSend) (c : SendCredits) (p : SendPlan) (d : String) :
    ((sendEvents req c p).map (Event.cancelledOf d)).sum = 0 := by
  unfold sendEvents
  split <;> simp [Event.cancelledOf]

theorem sendEvents_retiredByOf {c : SendCredits} {p : SendPlan} (req : MsgSend)
    (h : sendPlan s c req.recipient req.sender = .ok p) (a d : String) :
    ((sendEvents req c p).map (Event.retiredByOf a d)).sum =
      if req.recipient = a ∧ c.batchDenom = d then amount c.retiredAmount else 0 := by
  obtain ⟨x, hx, he⟩ := sendEvents_eq req h
  rw [he, ← hx]
  cases hx0 : x.isZero <;> simp [Event.retiredByOf, hx0, (Dec.isZero_iff x).1]

theorem retired_afterRetire {owner : Address} {c : Credits} {p : RetirePlan} (h : retirePlan s owner c = .ok p) :
    ((s.afterRetire owner p).holding owner p.batch.key).retired = (s.holding owner p.batch.key).retired + amount c.amount := by
  obtain ⟨batch, ct, ub, sup, a, ut, ur, sr, st, -, -, hub, -, ha, -, hur, -, -, -, -, rfl⟩ := retirePlan_ok.1 h
  rw [holding_of_get (Table.get_save_self _ _), holding_of_get hub]
  simp [BatchBalance.amounts, RetirePlan.balance, amount_of_fixed ha, amount_of_fixed hur]

/-- `Cancel` copies the owner's retired amount into the record it writes. -/
theorem retired_afterCancel {owner : Address} {c : Credits} {p : CancelPlan} (h : cancelPlan s owner c = .ok p) :
    ((s.afterCancel owner p).holding owner p.batch.key).retired = (s.holding owner p.batch.key).retired := by
  obtain ⟨batch, ct, ub, sup, a, st, ut, cd, -, -, hub, -, -, -, -, -, -, -, rfl⟩ := cancelPlan_ok.1 h
  rw [holding_of_get (Table.get_save_self _ _), holding_of_get hub]
  rfl

/-- `Send` writes the sender's retired amount back as it parsed it. -/
theorem retired_afterSend_sender {c : SendCredits} {ta fa : Address} {p : SendPlan} (h : sendPlan s c ta fa = .ok p) :
    ((s.afterSend ta fa p).holding fa p.batch.key).retired = (s.holding fa p.batch.key).retired := by
  obtain ⟨batch, ct, sup, fb, tt, tr, ft, fr, t, x, st, sr, -, -, -, hfb, hdecs, -, hpeq⟩ := sendPlan_ok.1 h
  simp only [getNonNegativeFixedDecs_ok, List.forall₂_cons] at hdecs
  obtain ⟨-, -, -, hfr, -⟩ := hdecs
  have hget : (s.afterSend ta fa p).batchBalances.get (fa, p.batch.key) = some (p.fromRecord fa) := by
    rw [afterSend_batchBalances]
    exact Table.get_save_self _ _
  subst hpeq
  rw [holding_of_get hget, holding_of_get hfb]
  simp [BatchBalance.amounts, SendPlan.fromRecord, amount_of_fixed hfr]

theorem retiredReported_afterCancel {owner : Address} {c : Credits} {p : CancelPlan} (h : cancelPlan s owner c = .ok p)
    (j : String) (a : Address) : RetiredReported a b s (s.afterCancel owner p) [.cancel owner c.batchDenom c.amount j] := by
  unfold RetiredReported
  simp only [List.map_singleton, List.sum_singleton, Event.retiredByOf, add_zero]
  by_cases hab : (a, b.key) = (owner, p.batch.key)
  · obtain ⟨rfl, hk⟩ := Prod.mk.inj hab
    rw [hk]
    exact retired_afterCancel h
  · rw [Store.afterCancel, holding_setSupplies, holding_saveBalance_ne _ hab]

include hb

theorem retiredReported_afterRetire {owner : Address} {c : Credits} {p : RetirePlan} (h : retirePlan s owner c = .ok p)
    (j : String) (a : Address) : RetiredReported a b s (s.afterRetire owner p) [.retire owner c.batchDenom c.amount j] := by
  have hk := key_eq_iff_denom_eq (retirePlan_batch h) hb
  unfold RetiredReported
  simp only [List.map_singleton, List.sum_singleton, Event.retiredByOf]
  by_cases hab : owner = a ∧ c.batchDenom = b.denom
  · obtain ⟨rfl, hd⟩ := hab
    rw [if_pos ⟨rfl, hd⟩, ← hk.2 hd, retired_afterRetire h]
  · have hne : (a, b.key) ≠ (p.balance owner).pk := fun e =>
      hab ⟨(congrArg Prod.fst e).symm, hk.1 (congrArg Prod.snd e).symm⟩
    rw [if_neg hab, add_zero, Store.afterRetire, holding_setSupplies, holding_saveBalance_ne _ hne]

theorem retiredReported_afterSend {req : MsgSend} {c : SendCredits} {p : SendPlan}
    (h : sendPlan s c req.recipient req.sender = .ok p) (hne : req.sender ≠ req.recipient) (a : Address) :
    RetiredReported a b s (s.afterSend req.recipient req.sender p) (sendEvents req c p) := by
  have hk := key_eq_iff_denom_eq (sendPlan_batch h) hb
  unfold RetiredReported
  rw [sendEvents_retiredByOf req h]
  by_cases hab : req.recipient = a ∧ c.batchDenom = b.denom
  · obtain ⟨rfl, hd⟩ := hab
    rw [if_pos ⟨rfl, hd⟩, ← hk.2 hd, (holding_afterSend_recipient h hne.symm).1]
  · rw [if_neg hab, add_zero]
    by_cases hs : (a, b.key) = (req.sender, p.batch.key)
    · obtain ⟨rfl, hk'⟩ := Prod.mk.inj hs
      rw [hk']
      exact retired_afterSend_sender h
    · rw [holding_afterSend_ne s _ _ p (fun e => hab ⟨(congrArg Prod.fst e).symm, hk.1 (congrArg Prod.snd e).symm⟩) hs]

theorem reported_afterRetire {owner : Address} {c : Credits} {p : RetirePlan} (h : retirePlan s owner c = .ok p)
    (j : String) : SupplyReported b s (s.afterRetire owner p) [.retire owner c.batchDenom c.amount j] := by
  have hk := key_eq_iff_denom_eq (retirePlan_batch h) hb
  by_cases hd : c.batchDenom = b.denom
  · unfold SupplyReported
    rw [← hk.2 hd]
    simp [supplyOf_afterRetire h, Event.retiredOf, Event.cancelledOf, hd]
  · exact .of_eq (supplyOf_save_ne _ _ fun e => hd (hk.1 e.symm)) (by simp [Event.retiredOf, hd])
      (by simp [Event.cancelledOf])

theorem reported_afterCancel {owner : Address} {c : Credits} {p : CancelPlan} (h : cancelPlan s owner c = .ok p)
    (j : String) : SupplyReported b s (s.afterCancel owner p) [.cancel owner c.batchDenom c.amount j] := by
  have hk := key_eq_iff_denom_eq (cancelPlan_batch h) hb
  by_cases hd : c.batchDenom = b.denom
  · unfold SupplyReported
    rw [← hk.2 hd]
    simp [supplyOf_afterCancel h, Event.retiredOf, Event.cancelledOf, hd]
  · exact .of_eq (supplyOf_save_ne _ _ fun e => hd (hk.1 e.symm)) (by simp [Event.retiredOf])
      (by simp [Event.cancelledOf, hd])

theorem reported_afterSend {req : MsgSend} {c : SendCredits} {p : SendPlan}
    (h : sendPlan s c req.recipient req.sender = .ok p) :
    SupplyReported b s (s.afterSend req.recipient req.sender p) (sendEvents req c p) := by
  have hk := key_eq_iff_denom_eq (sendPlan_batch h) hb
  rw [SupplyReported, sendEvents_retiredOf req h, sendEvents_cancelledOf]
  by_cases hd : c.batchDenom = b.denom
  · rw [← hk.2 hd]
    simp [supplyOf_afterSend h, hd]
  · have hne : b.key ≠ p.batch.key := fun e => hd (hk.1 e.symm)
    have he : (s.afterSend req.recipient req.sender p).supplyOf b.key = s.supplyOf b.key := by
      simp only [Store.supplyOf, afterSend_batchSupplies]
      split
      · rw [Table.get_save_ne _ p.supply hne]
      · rfl
    simp [he, hd]

end Entries

/-! ## Requests and runs

A reading `F b s s' evs` of the events: the change from `s` to `s'` at batch `b` is what
`evs` report. When it holds of no events, composes along appended events, and holds of
each entry kind, it holds of every run, read against the events the run leaves. -/

section Reading

variable (F : Batch → Store → Store → List Event → Prop) (P : Msg → Prop)
  (hrefl : ∀ b s, F b s s [])
  (htrans : ∀ b s s' s'' e e', F b s s' e → F b s' s'' e' → F b s s'' (e ++ e'))
  (hsend : ∀ s (req : MsgSend) c p, P (.send req) → sendPlan s c req.recipient req.sender = .ok p →
    ∀ b ∈ s.batches.rows, F b s (s.afterSend req.recipient req.sender p) (sendEvents req c p))
  (hretire : ∀ s (req : MsgRetire) c p, retirePlan s req.owner c = .ok p →
    ∀ b ∈ s.batches.rows, F b s (s.afterRetire req.owner p) [.retire req.owner c.batchDenom c.amount req.jurisdiction])
  (hcancel : ∀ s (req : MsgCancel) c p, cancelPlan s req.owner c = .ok p →
    ∀ b ∈ s.batches.rows, F b s (s.afterCancel req.owner p) [.cancel req.owner c.batchDenom c.amount req.reason])
include hrefl htrans hsend hretire hcancel

theorem handle_reads {m : Msg} (hm' : P m) {ctx ctx' : Ctx} (h : handle m ctx = .ok () ctx') :
    ctx'.store.batches = ctx.store.batches ∧ ∃ evs, ctx'.events = ctx.events ++ evs ∧
      ∀ b ∈ ctx.store.batches.rows, F b ctx.store ctx'.store evs := by
  let Q : Ctx → Ctx → Prop := fun c c' => c'.store.batches = c.store.batches ∧ ∃ evs, c'.events = c.events ++ evs ∧
    ∀ b ∈ c.store.batches.rows, F b c.store c'.store evs
  have hQrefl : ∀ c, Q c c := fun c => ⟨rfl, [], (List.append_nil _).symm, fun b _ => hrefl b _⟩
  have hQtrans : ∀ a b c, Q a b → Q b c → Q a c := by
    rintro a b c ⟨hab, e₁, he₁, h₁⟩ ⟨hbc, e₂, he₂, h₂⟩
    exact ⟨hbc.trans hab, e₁ ++ e₂, by rw [he₂, he₁, List.append_assoc],
      fun x hx => htrans _ _ _ _ _ _ (h₁ x hx) (h₂ x (hab ▸ hx))⟩
  refine handle_rel_of_entries Q hQrefl hQtrans (fun req hm _ _ _ _ hp => ?_) (fun req _ _ _ _ _ hp => ?_)
    (fun req _ _ _ _ _ hp => ?_) h
  · exact ⟨afterSend_batches .., _, rfl, hsend _ req _ _ (hm ▸ hm') hp⟩
  · exact ⟨rfl, _, rfl, hretire _ req _ _ hp⟩
  · exact ⟨rfl, _, rfl, hcancel _ req _ _ hp⟩

theorem deliver_reads {m : Msg} (hm : P m) (s : Store) :
    (deliver s m).batches = s.batches ∧ ∀ b ∈ s.batches.rows, F b s (deliver s m) (deliverEvents s m) := by
  unfold deliver deliverEvents
  split
  · obtain ⟨hbat, evs, hev, hrep⟩ := handle_reads F P hrefl htrans hsend hretire hcancel hm ‹_›
    simp only [List.nil_append] at hev
    exact ⟨hbat, hev ▸ hrep⟩
  · exact ⟨rfl, fun b _ => hrefl b s⟩

theorem run_reads (s : Store) (ms : List Msg) (hms : ∀ m ∈ ms, P m) :
    ∀ b ∈ s.batches.rows, F b s (run s ms) (runEvents s ms) := by
  induction ms generalizing s with
  | nil => exact fun b _ => hrefl b s
  | cons m ms ih =>
    obtain ⟨hbat, hrep⟩ := deliver_reads F P hrefl htrans hsend hretire hcancel (hms m (List.mem_cons_self m ms)) s
    exact fun b hb => htrans _ _ _ _ _ _ (hrep b hb)
      (ih (deliver s m) (fun m' hm' => hms m' (List.mem_cons_of_mem m hm')) b (hbat ▸ hb))

end Reading

/-- Along every run, each batch's supply tradable amount falls by, and its retired and
    cancelled amounts grow by, exactly what the run's `Retire` and `Cancel` events
    report for the batch's denom. -/
theorem supply_follows_events (s : Store) (ms : List Msg) {b : Batch} (hb : b ∈ s.batches.rows) :
    SupplyReported b s (run s ms) (runEvents s ms) :=
  run_reads SupplyReported (fun _ => True) SupplyReported.refl (fun _ _ _ _ _ _ => SupplyReported.trans)
    (fun _ _ _ _ _ h _ hb => reported_afterSend hb h) (fun _ _ _ _ h _ hb => reported_afterRetire hb h _)
    (fun _ _ _ _ h _ hb => reported_afterCancel hb h _) s ms (fun _ _ => trivial) b hb

theorem supply_follows_events_oneBatchSnapshot :
    let ms : List Msg := [.retire ⟨"alice", [⟨"C01-001", "2"⟩], "US"⟩,
      .cancel ⟨"alice", [⟨"C01-001", "1.5"⟩], "moved"⟩, .send ⟨"alice", "bob", [⟨"C01-001", "1", "0.5", "US"⟩]⟩]
    (⟨1, 1, "C01-001"⟩ : Batch) ∈ oneBatchSnapshot.batches.rows ∧
      SupplyReported ⟨1, 1, "C01-001"⟩ oneBatchSnapshot (run oneBatchSnapshot ms) (runEvents oneBatchSnapshot ms) :=
  have hb : (⟨1, 1, "C01-001"⟩ : Batch) ∈ oneBatchSnapshot.batches.rows := List.mem_singleton_self _
  ⟨hb, supply_follows_events _ _ hb⟩

/-- Along every run with no `Send` to its own sender, each holder's retired amount of each
    batch grows by exactly what the run's `Retire` events report retired by that holder
    from the batch's denom. The `Retire` event of a `Send` names the recipient, whose
    record takes the retired credits. -/
theorem holder_retired_follows_events (s : Store) {ms : List Msg} (hms : ∀ m ∈ ms, m.NotSelfSend) (a : Address)
    {b : Batch} (hb : b ∈ s.batches.rows) : RetiredReported a b s (run s ms) (runEvents s ms) :=
  run_reads (fun b s s' e => ∀ a, RetiredReported a b s s' e) Msg.NotSelfSend (fun b s a => .refl a b s)
    (fun _ _ _ _ _ _ h₁ h₂ a => (h₁ a).trans (h₂ a)) (fun _ _ _ _ hm h _ hb => retiredReported_afterSend hb h hm)
    (fun _ _ _ _ h _ hb => retiredReported_afterRetire hb h _) (fun _ _ _ _ h _ _ => retiredReported_afterCancel h _)
    s ms hms b hb a

theorem holder_retired_follows_events_oneBatchSnapshot :
    let ms : List Msg := [.send ⟨"alice", "bob", [⟨"C01-001", "1", "0.5", "US"⟩]⟩,
      .retire ⟨"alice", [⟨"C01-001", "2"⟩], "US"⟩]
    (∀ m ∈ ms, m.NotSelfSend) ∧ (⟨1, 1, "C01-001"⟩ : Batch) ∈ oneBatchSnapshot.batches.rows ∧
      RetiredReported "bob" ⟨1, 1, "C01-001"⟩ oneBatchSnapshot (run oneBatchSnapshot ms) (runEvents oneBatchSnapshot ms) :=
  have hms : ∀ m ∈ [Msg.send ⟨"alice", "bob", [⟨"C01-001", "1", "0.5", "US"⟩]⟩,
      .retire ⟨"alice", [⟨"C01-001", "2"⟩], "US"⟩], m.NotSelfSend := by simp [Msg.NotSelfSend]
  have hb : (⟨1, 1, "C01-001"⟩ : Batch) ∈ oneBatchSnapshot.batches.rows := List.mem_singleton_self _
  ⟨hms, hb, holder_retired_follows_events _ hms "bob" hb⟩

end Ecocredit
