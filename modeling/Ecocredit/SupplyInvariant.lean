/-
  Ecocredit.SupplyInvariant — the spec's supply invariant (§5): for every batch, what
  its holders hold (tradable, retired and escrowed) and what the baskets hold adds up
  to its supply's tradable plus retired amount (`Balanced`).

  Every write of the keeper rebuilds the balance record from a struct literal that
  leaves `EscrowedAmount` out, so a holder's escrowed credits vanish from `held`
  when the holder retires, cancels, sends or receives; and `Send` to oneself saves the
  recipient's record and then overwrites it with the sender's.

  Proved: `accounts_afterRetire`, `accounts_afterCancel`, `accounts_afterSend`: on a
  store where no holder has escrowed credits (`EscrowFree`), an entry changes neither
  `held` nor `declared` of any batch, the `Send` case for distinct sender and
  recipient; hence `balanced_preserved`: such stores stay balanced along every run of
  requests without self-sends. `retire_loses_escrowed_credits`: with escrow, one
  `Retire` breaks the invariant.
-/

import Ecocredit.WellFormed

namespace Ecocredit

/-- The supply invariant, at every batch. -/
def Balanced (s : Store) : Prop := ∀ b ∈ s.batches.rows, s.held b.key + s.inBaskets b.key = s.declared b.key

/-- No holder has escrowed credits. -/
def EscrowFree (s : Store) : Prop := ∀ b ∈ s.batchBalances.rows, amount b.escrowedAmount = 0

/-- A request other than a `Send` to oneself. -/
def Msg.NotSelfSend : Msg → Prop
  | .send m => m.sender ≠ m.recipient
  | _ => True

/-! ## Writes -/

@[simp] theorem held_setSupplies (s : Store) (t) : (s.setSupplies t).held = s.held := rfl

@[simp] theorem declared_setBalances (s : Store) (t) : (s.setBalances t).declared = s.declared := rfl

@[simp] theorem inBaskets_setBalances (s : Store) (t) : (s.setBalances t).inBaskets = s.inBaskets := rfl

@[simp] theorem inBaskets_setSupplies (s : Store) (t) : (s.setSupplies t).inBaskets = s.inBaskets := rfl

theorem held_save (s : Store) (b : BatchBalance) (k : Nat) :
    (s.setBalances (s.batchBalances.save b)).held k =
      s.held k + heldOf k b - ((s.batchBalances.get b.pk).map (heldOf k)).getD 0 :=
  Table.sum_save_sub (heldOf k) s.batchBalances b

theorem declared_save (s : Store) (t : Table BatchSupply BatchSupply.batchKey) (r : BatchSupply) (k : Nat) :
    (s.setSupplies (t.save r)).declared k =
      if k = r.batchKey then supplyValue r else ((t.get k).map supplyValue).getD 0 := by
  simp only [Store.declared, setSupplies_batchSupplies, Table.get_save]
  split <;> rfl

/-- What a record of batch `k` holds, when its amounts parse and it escrows nothing. -/
theorem heldOf_parsed {k : Nat} {b : BatchBalance} {p : Nat} {t r : Dec}
    (ht : newNonNegativeFixedDecFromString b.tradableAmount p = .ok t)
    (hr : newNonNegativeFixedDecFromString b.retiredAmount p = .ok r) (he : amount b.escrowedAmount = 0) :
    heldOf k b = if b.batchKey = k then t.val + r.val else 0 := by
  simp [heldOf, amount_of_fixed ht, amount_of_fixed hr, he]

/-- A record written from a struct literal escrows nothing. -/
theorem escrowFree_save {t : Table BatchBalance BatchBalance.pk} (ht : ∀ x ∈ t.rows, amount x.escrowedAmount = 0)
    {b : BatchBalance} (hb : b.escrowedAmount = "") : ∀ x ∈ (t.save b).rows, amount x.escrowedAmount = 0 :=
  Table.forall_mem_save ht (by rw [hb]; rfl)

/-- An entry that keeps `held - declared` at every batch, and the batches and baskets,
    keeps the invariant. -/
theorem Balanced.of_accounts {s s' : Store} (hb : Balanced s) (hbat : s'.batches = s.batches)
    (hin : s'.inBaskets = s.inBaskets) (hacc : ∀ k, s'.held k - s'.declared k = s.held k - s.declared k) :
    Balanced s' := fun b hb' => by
  have h₁ := hb b (hbat ▸ hb')
  have h₂ := hacc b.key
  rw [hin]
  linarith

/-! ## One entry -/

theorem accounts_afterRetire {s : Store} {owner : Address} {credit : Credits} {p : RetirePlan}
    (h : retirePlan s owner credit = .ok p) (he : EscrowFree s) (k : Nat) :
    (s.afterRetire owner p).held k - (s.afterRetire owner p).declared k = s.held k - s.declared k := by
  obtain ⟨batch, ct, ub, sup, a, ut, ur, sr, st, -, -, hub, hsup, -, hut, hur, hsr, hst, -, -, rfl⟩ :=
    retirePlan_ok.1 h
  obtain ⟨hubm, hubk⟩ := BatchBalance.mem_of_get hub
  rw [Store.afterRetire, held_setSupplies, held_save, declared_save]
  simp only [RetirePlan.balance, BatchBalance.pk, hub, Option.map_some', Option.getD_some]
  rw [heldOf_parsed hut hur (he ub hubm), hubk]
  simp only [heldOf, amount_string, amount_empty, Dec.val_add, Dec.val_sub, RetirePlan.supply]
  by_cases hk : batch.key = k
  · subst k
    simp [supplyValue, Store.declared, hsup, amount_of_fixed hst, amount_of_fixed hsr]
  · simp only [hk, Ne.symm hk, if_false]
    ring_nf
    rfl

theorem accounts_afterCancel {s : Store} {owner : Address} {credit : Credits} {p : CancelPlan}
    (h : cancelPlan s owner credit = .ok p) (he : EscrowFree s) (k : Nat) :
    (s.afterCancel owner p).held k - (s.afterCancel owner p).declared k = s.held k - s.declared k := by
  obtain ⟨batch, ct, ub, sup, a, st, ut, cd, -, -, hub, hsup, -, hst, hut, -, -, -, rfl⟩ := cancelPlan_ok.1 h
  obtain ⟨hubm, hubk⟩ := BatchBalance.mem_of_get hub
  rw [Store.afterCancel, held_setSupplies, held_save, declared_save]
  simp only [CancelPlan.balance, BatchBalance.pk, hub, Option.map_some', Option.getD_some]
  simp only [heldOf, amount_string, amount_empty, Dec.val_sub, CancelPlan.supply, hubk, amount_of_fixed hut,
    he ub hubm]
  by_cases hk : batch.key = k
  · subst k
    simp [supplyValue, Store.declared, hsup, amount_of_fixed hst]
    ring
  · simp only [hk, Ne.symm hk, if_false]
    ring_nf
    rfl

theorem held_afterSend_eq (s : Store) (ta fa : Address) (p : SendPlan) :
    (s.afterSend ta fa p).held =
      ((s.setBalances (s.batchBalances.save (p.toRecord ta))).setBalances
        ((s.setBalances (s.batchBalances.save (p.toRecord ta))).batchBalances.save (p.fromRecord fa))).held := by
  unfold Store.afterSend; split <;> rfl

/-- The value of the supply written by a `Send` entry that retires. -/
theorem declared_afterSend (s : Store) (ta fa : Address) (p : SendPlan) (k : Nat) :
    (s.afterSend ta fa p).declared k =
      if p.didRetire ∧ k = p.batch.key then supplyValue p.supply else s.declared k := by
  rw [Store.declared, afterSend_batchSupplies]
  by_cases hd : p.didRetire <;> by_cases hk : k = p.batch.key <;>
    simp [hd, hk, Table.get_save, SendPlan.supply, Store.declared]

/-- Between distinct holders, a `Send` entry moves holdings and retires supply without
    changing any batch's `held` or `declared`. -/
theorem accounts_afterSend {s : Store} {credit : SendCredits} {ta fa : Address} {p : SendPlan}
    (h : sendPlan s credit ta fa = .ok p) (hne : ta ≠ fa) (he : EscrowFree s) (k : Nat) :
    (s.afterSend ta fa p).held k - (s.afterSend ta fa p).declared k = s.held k - s.declared k := by
  rw [held_afterSend_eq, declared_afterSend]
  obtain ⟨batch, ct, sup, fb, tt, tr, ft, fr, t, x, st, sr, hb, hct, hsup, hfb, hdecs, hle, rfl⟩ := sendPlan_ok.1 h
  simp only [getNonNegativeFixedDecs_ok, List.forall₂_cons] at hdecs
  obtain ⟨htt, htr, hft, hfr, -, -, hst, hsr, -⟩ := hdecs
  obtain ⟨hfbm, hfbk⟩ := BatchBalance.mem_of_get hfb
  have hold : ((s.batchBalances.get (ta, batch.key)).map (heldOf k)).getD 0 =
      if batch.key = k then tt.val + tr.val else 0 := by
    cases hg : s.batchBalances.get (ta, batch.key) with
    | none =>
      rw [hg, Option.getD_none] at htt htr
      have h0 : tt.val = 0 ∧ tr.val = 0 :=
        ⟨by rw [← amount_of_fixed htt]; exact amount_zero, by rw [← amount_of_fixed htr]; exact amount_zero⟩
      simp [h0]
    | some y =>
      rw [hg, Option.getD_some] at htt htr
      obtain ⟨hym, hyk⟩ := BatchBalance.mem_of_get hg
      simp [heldOf_parsed htt htr (he y hym), hyk]
  have hdecl : s.declared batch.key = st.val + sr.val := by
    simp [Store.declared, hsup, supplyValue, amount_of_fixed hst, amount_of_fixed hsr]
  rw [held_save, held_save]
  simp only [setBalances_batchBalances, BatchBalance.pk, SendPlan.fromRecord, SendPlan.toRecord, Table.get_save,
    hold, Prod.mk.injEq, Ne.symm hne, false_and, if_false, hfb, Option.map_some', Option.getD_some]
  rw [heldOf_parsed hft hfr (he fb hfbm), hfbk]
  simp only [heldOf, amount_string, amount_empty, val_addIf, val_subIf, add_zero]
  by_cases hk : batch.key = k
  · subst hk
    simp only [if_true, and_true, SendPlan.supply, supplyValue, amount_string, val_subIf, val_addIf]
    split
    · rw [hdecl]; ring
    · ring
  · simp only [hk, if_false, Ne.symm hk, and_false]
    ring

/-! ## Requests and runs -/

theorem balanced_afterRetire {s : Store} {owner : Address} {credit : Credits} {p : RetirePlan}
    (h : retirePlan s owner credit = .ok p) (hb : Balanced s) (he : EscrowFree s) :
    Balanced (s.afterRetire owner p) ∧ EscrowFree (s.afterRetire owner p) :=
  ⟨hb.of_accounts rfl rfl (accounts_afterRetire h he), escrowFree_save he rfl⟩

theorem balanced_afterCancel {s : Store} {owner : Address} {credit : Credits} {p : CancelPlan}
    (h : cancelPlan s owner credit = .ok p) (hb : Balanced s) (he : EscrowFree s) :
    Balanced (s.afterCancel owner p) ∧ EscrowFree (s.afterCancel owner p) :=
  ⟨hb.of_accounts rfl rfl (accounts_afterCancel h he), escrowFree_save he rfl⟩

theorem balanced_afterSend {s : Store} {credit : SendCredits} {ta fa : Address} {p : SendPlan}
    (h : sendPlan s credit ta fa = .ok p) (hne : ta ≠ fa) (hb : Balanced s) (he : EscrowFree s) :
    Balanced (s.afterSend ta fa p) ∧ EscrowFree (s.afterSend ta fa p) := by
  refine ⟨hb.of_accounts ?_ ?_ (accounts_afterSend h hne he), ?_⟩
  · unfold Store.afterSend; split <;> rfl
  · unfold Store.afterSend; split <;> rfl
  · rw [EscrowFree, afterSend_batchBalances]
    exact escrowFree_save (escrowFree_save he rfl) rfl

/-- On stores where no holder escrows credits, the supply invariant holds after every
    successful request other than a `Send` to oneself, and along every run of them. -/
theorem balanced_preserved :
    (∀ (m : Msg) (ctx ctx' : Ctx), m.NotSelfSend → handle m ctx = .ok () ctx' →
      Balanced ctx.store → EscrowFree ctx.store → Balanced ctx'.store ∧ EscrowFree ctx'.store) ∧
    (∀ (s : Store) (ms : List Msg), (∀ m ∈ ms, m.NotSelfSend) → Balanced s → EscrowFree s →
      Balanced (run s ms) ∧ EscrowFree (run s ms)) := by
  let R : Store → Store → Prop := fun s s' => Balanced s ∧ EscrowFree s → Balanced s' ∧ EscrowFree s'
  have hrefl : ∀ s, R s s := fun _ => id
  have htrans : ∀ a b c, R a b → R b c → R a c := fun _ _ _ h₁ h₂ => h₂ ∘ h₁
  have hstep : ∀ (m : Msg) (ctx ctx' : Ctx), m.NotSelfSend → handle m ctx = .ok () ctx' → R ctx.store ctx'.store := by
    intro m ctx ctx' hm h
    cases m with
    | send req => exact send_rel R hrefl htrans (fun s _ _ hp hs => balanced_afterSend hp (Ne.symm hm) hs.1 hs.2) h
    | retire req => exact retire_rel R hrefl htrans (fun s _ _ hp hs => balanced_afterRetire hp hs.1 hs.2) h
    | cancel req => exact cancel_rel R hrefl htrans (fun s _ _ hp hs => balanced_afterCancel hp hs.1 hs.2) h
  refine ⟨fun m ctx ctx' hm h hb he => hstep m ctx ctx' hm h ⟨hb, he⟩, fun s ms hms hb he => ?_⟩
  induction ms generalizing s with
  | nil => exact ⟨hb, he⟩
  | cons m ms ih =>
    have hd : R s (deliver s m) := by
      unfold deliver
      split
      · exact hstep m _ _ (hms m (List.mem_cons_self m ms)) ‹_›
      · exact hrefl s
    obtain ⟨hb', he'⟩ := hd ⟨hb, he⟩
    exact ih (deliver s m) (fun m' hm' => hms m' (List.mem_cons_of_mem m hm')) hb' he'

theorem balanced_preserved_oneBatchSnapshot :
    Balanced oneBatchSnapshot ∧ EscrowFree oneBatchSnapshot ∧
      Balanced (run oneBatchSnapshot [.retire ⟨"alice", [⟨"C01-001", "2.5"⟩], "US"⟩,
        .send ⟨"alice", "bob", [⟨"C01-001", "1", "1.25", "US"⟩]⟩]) :=
  have hb : Balanced oneBatchSnapshot := fun b _ => (oneBatchSnapshot_consistent.balanced b.key).symm
  have he : EscrowFree oneBatchSnapshot := fun b hb => by rcases List.mem_singleton.1 hb with rfl; exact amount_zero
  ⟨hb, he, (balanced_preserved.2 _ _ (by simp [Msg.NotSelfSend]) hb he).1⟩

/-! ## Escrow -/

/-- One batch of precision 2, declared at 100 tradable and 5 retired; alice holds the
    100 tradable credits and 5 in escrow. -/
def escrowSnapshot : Store where
  creditTypes := ⟨[⟨"C", 2⟩], by decide⟩
  classes := ⟨[⟨1, "C"⟩], by decide⟩
  projects := ⟨[⟨1, 1⟩], by decide⟩
  batches := ⟨[⟨1, 1, "C01-001"⟩], by decide⟩
  denomUnique := by decide
  batchSupplies := ⟨[⟨1, "100", "5", "0"⟩], by decide⟩
  batchBalances := ⟨[⟨1, "alice", "100", "0", "5"⟩], by decide⟩
  basketBalances := ⟨[], by decide⟩

theorem escrowSnapshot_amountsFixed : AmountsFixed escrowSnapshot where
  balances := fun b hb p hp => by
    rcases List.mem_singleton.1 hb with rfl
    obtain rfl : 2 = p := Option.some.inj hp
    exact ⟨⟨_, rfl⟩, ⟨_, rfl⟩⟩
  supplies := fun r hr p hp => by
    rcases List.mem_singleton.1 hr with rfl
    obtain rfl : 2 = p := Option.some.inj hp
    exact ⟨⟨_, rfl⟩, ⟨_, rfl⟩, ⟨_, rfl⟩⟩

/-- `escrowSnapshot` after alice retires 10.5. -/
def escrowRetired : Store where
  creditTypes := ⟨[⟨"C", 2⟩], by decide⟩
  classes := ⟨[⟨1, "C"⟩], by decide⟩
  projects := ⟨[⟨1, 1⟩], by decide⟩
  batches := ⟨[⟨1, 1, "C01-001"⟩], by decide⟩
  denomUnique := by decide
  batchSupplies := ⟨[⟨1, "89.5", "15.5", "0"⟩], by decide⟩
  batchBalances := ⟨[⟨1, "alice", "89.5", "10.5", ""⟩], by decide⟩
  basketBalances := ⟨[], by decide⟩

/-- Retiring 10.5 of alice's credits rewrites her record without its escrowed 5: the
    holders then hold 100 of a supply of 105. -/
theorem retire_loses_escrowed_credits :
    Balanced escrowSnapshot ∧ AmountsFixed escrowSnapshot ∧
      handle (.retire ⟨"alice", [⟨"C01-001", "10.5"⟩], "US"⟩) ⟨escrowSnapshot, []⟩ =
        .ok () ⟨escrowRetired, [.retire "alice" "C01-001" "10.5" "US"]⟩ ∧ ¬ Balanced escrowRetired := by
  have h100 := amount_of_ok (show newDecFromString "100" = .ok ⟨100, 0⟩ from rfl)
  have h5 := amount_of_ok (show newDecFromString "5" = .ok ⟨5, 0⟩ from rfl)
  have h895 := amount_of_ok (show newDecFromString "89.5" = .ok ⟨895, 1⟩ from rfl)
  have h105 := amount_of_ok (show newDecFromString "10.5" = .ok ⟨105, 1⟩ from rfl)
  have h155 := amount_of_ok (show newDecFromString "15.5" = .ok ⟨155, 1⟩ from rfl)
  refine ⟨fun b hb => ?_, escrowSnapshot_amountsFixed, rfl, fun hb => ?_⟩
  · rcases List.mem_singleton.1 hb with rfl
    simp [Store.held, Store.inBaskets, Store.declared, heldOf, supplyValue, escrowSnapshot, Table.get, h100, h5,
      amount_zero, Dec.val]
  · have := hb _ (List.mem_singleton_self _)
    simp [Store.held, Store.inBaskets, Store.declared, heldOf, supplyValue, escrowRetired, Table.get, h895, h105,
      h155, amount_empty, Dec.val] at this
    norm_num at this

end Ecocredit
