/-
  Ecocredit.Footprint — what a request can touch, and what follows for the order of
  requests and for an address that signs none of them.

  `Store.AgreeOn D s t`: the two stores have the same credit types, classes, projects,
  batches and basket balances, and read the same balance and supply records at every
  batch key whose batch has a denom in `D` (and at every key no batch has). A request
  writes only records of the batches its entries name (`deliver_frame`), and on two
  stores that agree on those records it does the same thing (`deliver_agree`): every
  entry reads the batch by its denom, then only that batch's records (`sendPlan_congr`,
  ...).

  Proved:
  (1) Order independence (`run_perm_same_records`): requests whose entries name
      pairwise disjoint sets of batch denoms leave the same records whatever order they
      are delivered in. Two such requests commute (`deliver_comm`). Requests that share
      a batch read what the other wrote, so their order can matter.
  (2) Only the signer pays (`non_signer_holdings_never_decrease`): along every run of
      requests none of which is sent by `a` or retires or cancels from `a`, no tradable
      or retired amount `a` holds decreases. It can only grow, by a `Send` to `a`
      (`holding_afterSend_recipient`), which also resets `a`'s escrowed amount of the
      batch to zero.
-/

import Ecocredit.Effects

namespace Ecocredit

/-! ## Agreement on the records of some batches -/

/-- The batch of key `k`, if there is one, has its denom in `D`. -/
def Store.KeyIn (s : Store) (D : String → Prop) (k : Nat) : Prop := ∀ b, s.batches.get k = some b → D b.denom

/-- `s` and `t` differ at most in the balance and supply records of batches whose denom
    is not in `D`. -/
structure Store.AgreeOn (D : String → Prop) (s t : Store) : Prop where
  creditTypes : t.creditTypes = s.creditTypes
  classes : t.classes = s.classes
  projects : t.projects = s.projects
  batches : t.batches = s.batches
  basketBalances : t.basketBalances = s.basketBalances
  balances : ∀ h k, s.KeyIn D k → t.batchBalances.get (h, k) = s.batchBalances.get (h, k)
  supplies : ∀ k, s.KeyIn D k → t.batchSupplies.get k = s.batchSupplies.get k

theorem Store.keyIn_of_get {s : Store} {D : String → Prop} {k : Nat} {b : Batch} (hb : s.batches.get k = some b)
    (hd : D b.denom) : s.KeyIn D k := fun b' hb' => by
  rw [hb] at hb'
  cases hb'
  exact hd

theorem Store.keyIn_of_batchByDenom {s : Store} {D : String → Prop} {d : String} {b : Batch}
    (hb : s.batchByDenom d = some b) (hd : D d) : s.KeyIn D b.key :=
  have ⟨hm, hbd⟩ := batchByDenom_eq_some.1 hb
  Store.keyIn_of_get (Table.get_eq_some.2 ⟨hm, rfl⟩) (hbd ▸ hd)

namespace Store.AgreeOn

variable {D : String → Prop} {s t u : Store}

theorem refl (D : String → Prop) (s : Store) : s.AgreeOn D s :=
  ⟨rfl, rfl, rfl, rfl, rfl, fun _ _ _ => rfl, fun _ _ => rfl⟩

theorem keyIn_eq (h : s.AgreeOn D t) : t.KeyIn D = s.KeyIn D := by
  funext k
  simp only [Store.KeyIn, h.batches]

theorem symm (h : s.AgreeOn D t) : t.AgreeOn D s where
  creditTypes := h.creditTypes.symm
  classes := h.classes.symm
  projects := h.projects.symm
  batches := h.batches.symm
  basketBalances := h.basketBalances.symm
  balances := fun a k hk => (h.balances a k (h.keyIn_eq ▸ hk)).symm
  supplies := fun k hk => (h.supplies k (h.keyIn_eq ▸ hk)).symm

theorem trans (h₁ : s.AgreeOn D t) (h₂ : t.AgreeOn D u) : s.AgreeOn D u where
  creditTypes := h₂.creditTypes.trans h₁.creditTypes
  classes := h₂.classes.trans h₁.classes
  projects := h₂.projects.trans h₁.projects
  batches := h₂.batches.trans h₁.batches
  basketBalances := h₂.basketBalances.trans h₁.basketBalances
  balances := fun a k hk => (h₂.balances a k (h₁.keyIn_eq ▸ hk)).trans (h₁.balances a k hk)
  supplies := fun k hk => (h₂.supplies k (h₁.keyIn_eq ▸ hk)).trans (h₁.supplies k hk)

/-- Agreement on the batches of `D₁` and on those of `D₂`, where every denom is in one of
    them, is agreement on every record. -/
theorem of_cover {D₁ D₂ : String → Prop} (h₁ : s.AgreeOn D₁ t) (h₂ : s.AgreeOn D₂ t) (hc : ∀ d, D₁ d ∨ D₂ d) :
    s.AgreeOn (fun _ => True) t := by
  have key : ∀ k, s.KeyIn D₁ k ∨ s.KeyIn D₂ k := fun k => by
    cases hb : s.batches.get k with
    | none => exact .inl fun b h => by rw [hb] at h; cases h
    | some b => exact (hc b.denom).imp (Store.keyIn_of_get hb) (Store.keyIn_of_get hb)
  refine { h₁ with balances := fun a k _ => ?_, supplies := fun k _ => ?_ }
  · exact (key k).elim (h₁.balances a k) (h₂.balances a k)
  · exact (key k).elim (h₁.supplies k) (h₂.supplies k)

theorem saveBalance (h : s.AgreeOn D t) (r : BatchBalance) :
    (s.setBalances (s.batchBalances.save r)).AgreeOn D (t.setBalances (t.batchBalances.save r)) :=
  { h with balances := fun a k hk => by simp only [setBalances_batchBalances, Table.get_save, h.balances a k hk] }

theorem saveSupply (h : s.AgreeOn D t) (r : BatchSupply) :
    (s.setSupplies (s.batchSupplies.save r)).AgreeOn D (t.setSupplies (t.batchSupplies.save r)) :=
  { h with supplies := fun k hk => by simp only [setSupplies_batchSupplies, Table.get_save, h.supplies k hk] }

theorem afterRetire (h : s.AgreeOn D t) (owner : Address) (p : RetirePlan) :
    (s.afterRetire owner p).AgreeOn D (t.afterRetire owner p) :=
  (h.saveBalance _).saveSupply _

theorem afterCancel (h : s.AgreeOn D t) (owner : Address) (p : CancelPlan) :
    (s.afterCancel owner p).AgreeOn D (t.afterCancel owner p) :=
  (h.saveBalance _).saveSupply _

theorem afterSend (h : s.AgreeOn D t) (ta fa : Address) (p : SendPlan) :
    (s.afterSend ta fa p).AgreeOn D (t.afterSend ta fa p) := by
  have hb := (h.saveBalance (p.toRecord ta)).saveBalance (p.fromRecord fa)
  dsimp only [Store.afterSend]
  split
  · exact hb.saveSupply p.supply
  · exact hb

end Store.AgreeOn

/-! ## A write outside the agreement -/

section Frame

variable {D : String → Prop} {s : Store}

theorem agreeOn_saveBalance {r : BatchBalance} {b : Batch} (hb : s.batches.get r.batchKey = some b)
    (hd : ¬ D b.denom) : s.AgreeOn D (s.setBalances (s.batchBalances.save r)) :=
  { Store.AgreeOn.refl D s with
    balances := fun a k hk => Table.get_save_ne _ r fun e =>
      hd (hk b (by rwa [show k = r.batchKey from congrArg Prod.snd e])) }

theorem agreeOn_saveSupply {r : BatchSupply} {b : Batch} (hb : s.batches.get r.batchKey = some b)
    (hd : ¬ D b.denom) : s.AgreeOn D (s.setSupplies (s.batchSupplies.save r)) :=
  { Store.AgreeOn.refl D s with supplies := fun _ hk => Table.get_save_ne _ r fun e => hd (hk b (e ▸ hb)) }

theorem batch_get_of_batchByDenom {d : String} {b : Batch} (hb : s.batchByDenom d = some b) (hd : ¬ D d) :
    s.batches.get b.key = some b ∧ ¬ D b.denom :=
  have ⟨hm, hbd⟩ := batchByDenom_eq_some.1 hb
  ⟨Table.get_eq_some.2 ⟨hm, rfl⟩, hbd ▸ hd⟩

variable {d : String}

theorem agreeOn_afterRetire {owner : Address} {p : RetirePlan} (hb : s.batchByDenom d = some p.batch) (hd : ¬ D d) :
    s.AgreeOn D (s.afterRetire owner p) :=
  have ⟨hg, hd'⟩ := batch_get_of_batchByDenom hb hd
  (agreeOn_saveBalance hg hd').trans (agreeOn_saveSupply hg hd')

theorem agreeOn_afterCancel {owner : Address} {p : CancelPlan} (hb : s.batchByDenom d = some p.batch) (hd : ¬ D d) :
    s.AgreeOn D (s.afterCancel owner p) :=
  have ⟨hg, hd'⟩ := batch_get_of_batchByDenom hb hd
  (agreeOn_saveBalance hg hd').trans (agreeOn_saveSupply hg hd')

theorem agreeOn_afterSend {ta fa : Address} {p : SendPlan} (hb : s.batchByDenom d = some p.batch) (hd : ¬ D d) :
    s.AgreeOn D (s.afterSend ta fa p) := by
  obtain ⟨hg, hd'⟩ := batch_get_of_batchByDenom hb hd
  have hbal := (agreeOn_saveBalance (r := p.toRecord ta) hg hd').trans (agreeOn_saveBalance (r := p.fromRecord fa) hg hd')
  dsimp only [Store.afterSend]
  split
  · exact hbal.trans (agreeOn_saveSupply (r := p.supply) hg hd')
  · exact hbal

end Frame

/-! ## Entries read only the records of their batch -/

section Congr

variable {D : String → Prop} {s t : Store} (h : s.AgreeOn D t)
include h

theorem batchByDenom_congr : t.batchByDenom = s.batchByDenom :=
  funext fun d => by simp only [Store.batchByDenom, h.batches]

theorem getCreditTypeFromBatchDenom_congr : getCreditTypeFromBatchDenom t = getCreditTypeFromBatchDenom s :=
  funext fun d => by
    simp only [getCreditTypeFromBatchDenom, batchByDenom_congr h, h.projects, h.classes, h.creditTypes]

theorem retirePlan_congr {owner : Address} {c : Credits} (hd : D c.batchDenom) :
    retirePlan t owner c = retirePlan s owner c := by
  unfold retirePlan
  rw [batchByDenom_congr h, getCreditTypeFromBatchDenom_congr h]
  refine Except.bind_congr_ok fun b hb => ?_
  have hk := Store.keyIn_of_batchByDenom (found_eq_ok.1 (Except.mapError_eq_ok.1 hb)) hd
  simp only [h.balances _ _ hk, h.supplies _ hk]

theorem cancelPlan_congr {owner : Address} {c : Credits} (hd : D c.batchDenom) :
    cancelPlan t owner c = cancelPlan s owner c := by
  unfold cancelPlan
  rw [batchByDenom_congr h, getCreditTypeFromBatchDenom_congr h]
  refine Except.bind_congr_ok fun b hb => ?_
  have hk := Store.keyIn_of_batchByDenom (found_eq_ok.1 (Except.mapError_eq_ok.1 hb)) hd
  simp only [h.balances _ _ hk, h.supplies _ hk]

theorem sendPlan_congr {c : SendCredits} {ta fa : Address} (hd : D c.batchDenom) :
    sendPlan t c ta fa = sendPlan s c ta fa := by
  unfold sendPlan
  rw [batchByDenom_congr h, getCreditTypeFromBatchDenom_congr h]
  refine Except.bind_congr_ok fun b hb => ?_
  have hk := Store.keyIn_of_batchByDenom (found_eq_ok.1 (Except.mapError_eq_ok.1 hb)) hd
  simp only [h.balances _ _ hk, h.supplies _ hk]

end Congr

/-! ## Requests -/

/-- The batch denoms a request's entries name. -/
def Msg.denoms : Msg → List String
  | .send m => m.credits.map SendCredits.batchDenom
  | .retire m => m.credits.map Credits.batchDenom
  | .cancel m => m.credits.map Credits.batchDenom

/-- Two requests whose entries name no batch denom in common. -/
def Msg.Disjoint (m₁ m₂ : Msg) : Prop := m₁.denoms.Disjoint m₂.denoms

theorem Msg.Disjoint.symm {m₁ m₂ : Msg} (h : m₁.Disjoint m₂) : m₂.Disjoint m₁ := List.Disjoint.symm h

section Plans

variable {s : Store}

theorem retirePlan_batch {owner : Address} {c : Credits} {p : RetirePlan} (h : retirePlan s owner c = .ok p) :
    s.batchByDenom c.batchDenom = some p.batch := by
  obtain ⟨_, _, _, _, _, _, _, _, _, hb, -, -, -, -, -, -, -, -, -, -, hp⟩ := retirePlan_ok.1 h
  exact hp ▸ hb

theorem cancelPlan_batch {owner : Address} {c : Credits} {p : CancelPlan} (h : cancelPlan s owner c = .ok p) :
    s.batchByDenom c.batchDenom = some p.batch := by
  obtain ⟨_, _, _, _, _, _, _, _, hb, -, -, -, -, -, -, -, -, -, hp⟩ := cancelPlan_ok.1 h
  exact hp ▸ hb

theorem sendPlan_batch {c : SendCredits} {ta fa : Address} {p : SendPlan} (h : sendPlan s c ta fa = .ok p) :
    s.batchByDenom c.batchDenom = some p.batch := by
  obtain ⟨_, _, _, _, _, _, _, _, _, _, _, _, hb, -, -, -, -, -, hp⟩ := sendPlan_ok.1 h
  exact hp ▸ hb

end Plans

/-- A successful request writes only records of the batches its entries name. -/
theorem handle_frame {m : Msg} {ctx ctx' : Ctx} (h : handle m ctx = .ok () ctx') :
    ctx.store.AgreeOn (· ∉ m.denoms) ctx'.store := by
  refine handle_rel_of_entries (fun a b => a.store.AgreeOn _ b.store) (fun _ => .refl _ _)
    (fun _ _ _ h₁ h₂ => h₁.trans h₂) (fun req hm c hc _ _ hp => ?_) (fun req hm c hc _ _ hp => ?_)
    (fun req hm c hc _ _ hp => ?_) h <;> subst hm
  · exact agreeOn_afterSend (sendPlan_batch hp) (not_not_intro (List.mem_map_of_mem _ hc))
  · exact agreeOn_afterRetire (retirePlan_batch hp) (not_not_intro (List.mem_map_of_mem _ hc))
  · exact agreeOn_afterCancel (cancelPlan_batch hp) (not_not_intro (List.mem_map_of_mem _ hc))

theorem deliver_frame (s : Store) (m : Msg) : s.AgreeOn (· ∉ m.denoms) (deliver s m) := by
  unfold deliver
  split
  · exact handle_frame ‹_›
  · exact .refl _ _

section Sim

variable {D : String → Prop} {ctx₁ ctx₂ c₁ : Ctx} (h : ctx₁.store.AgreeOn D ctx₂.store)
include h

theorem sendCredit_agree {req : MsgSend} {credit : SendCredits} (hd : D credit.batchDenom)
    (h1 : sendCredit req credit ctx₁ = .ok () c₁) :
    ∃ c₂, sendCredit req credit ctx₂ = .ok () c₂ ∧ c₁.store.AgreeOn D c₂.store := by
  rw [sendCredit_run] at h1 ⊢
  rw [sendPlan_congr h hd]
  cases hp : sendPlan ctx₁.store credit req.recipient req.sender with
  | error e => rw [hp] at h1; cases h1
  | ok p =>
    rw [hp] at h1
    cases h1
    exact ⟨_, rfl, h.afterSend _ _ _⟩

theorem retireCredit_agree {req : MsgRetire} {credit : Credits} (hd : D credit.batchDenom)
    (h1 : retireCredit req credit ctx₁ = .ok () c₁) :
    ∃ c₂, retireCredit req credit ctx₂ = .ok () c₂ ∧ c₁.store.AgreeOn D c₂.store := by
  rw [retireCredit_run] at h1 ⊢
  rw [retirePlan_congr h hd]
  cases hp : retirePlan ctx₁.store req.owner credit with
  | error e => rw [hp] at h1; cases h1
  | ok p =>
    rw [hp] at h1
    cases h1
    exact ⟨_, rfl, h.afterRetire _ _⟩

theorem cancelCredit_agree {req : MsgCancel} {credit : Credits} (hd : D credit.batchDenom)
    (h1 : cancelCredit req credit ctx₁ = .ok () c₁) :
    ∃ c₂, cancelCredit req credit ctx₂ = .ok () c₂ ∧ c₁.store.AgreeOn D c₂.store := by
  rw [cancelCredit_run] at h1 ⊢
  rw [cancelPlan_congr h hd]
  cases hp : cancelPlan ctx₁.store req.owner credit with
  | error e => rw [hp] at h1; cases h1
  | ok p =>
    rw [hp] at h1
    cases h1
    exact ⟨_, rfl, h.afterCancel _ _⟩

end Sim

/-- On two stores that agree on the batches a request names, the request succeeds on
    the second when it succeeds on the first, and leaves the two agreeing. -/
theorem handle_agree {D : String → Prop} {m : Msg} (hd : ∀ d ∈ m.denoms, D d) {ctx₁ c₁ : Ctx} (ctx₂ : Ctx)
    (h : ctx₁.store.AgreeOn D ctx₂.store) (h1 : handle m ctx₁ = .ok () c₁) :
    ∃ c₂, handle m ctx₂ = .ok () c₂ ∧ c₁.store.AgreeOn D c₂.store := by
  cases m with
  | send req =>
    exact forM_sim (f := sendCredit req) (fun a b => a.store.AgreeOn D b.store) req.credits
      (fun _ hc _ _ _ hr => sendCredit_agree hr (hd _ (List.mem_map_of_mem _ hc))) ctx₁ ctx₂ c₁ h h1
  | retire req =>
    exact forM_sim (f := retireCredit req) (fun a b => a.store.AgreeOn D b.store) req.credits
      (fun _ hc _ _ _ hr => retireCredit_agree hr (hd _ (List.mem_map_of_mem _ hc))) ctx₁ ctx₂ c₁ h h1
  | cancel req =>
    exact forM_sim (f := cancelCredit req) (fun a b => a.store.AgreeOn D b.store) req.credits
      (fun _ hc _ _ _ hr => cancelCredit_agree hr (hd _ (List.mem_map_of_mem _ hc))) ctx₁ ctx₂ c₁ h h1

theorem deliver_agree {D : String → Prop} {m : Msg} (hd : ∀ d ∈ m.denoms, D d) {s t : Store} (h : s.AgreeOn D t) :
    (deliver s m).AgreeOn D (deliver t m) := by
  unfold deliver
  cases h1 : handle m ⟨s, []⟩ with
  | ok _ c₁ =>
    obtain ⟨c₂, h2, hc⟩ := handle_agree hd ⟨t, []⟩ h h1
    rw [h2]
    exact hc
  | error _ c₁ =>
    cases h2 : handle m ⟨t, []⟩ with
    | ok _ c₂ =>
      obtain ⟨c₁', h1', -⟩ := handle_agree hd ⟨s, []⟩ h.symm h2
      rw [h1] at h1'
      cases h1'
    | error => exact h

/-! ## Order independence -/

/-- Off the batches of `m₂`, delivering `m₁` then `m₂` leaves what delivering `m₂`
    then `m₁` leaves: `m₂` does not write there, and `m₁` finds there what it finds
    without `m₂`. -/
theorem deliver_comm_off {m₁ m₂ : Msg} (hd : m₁.Disjoint m₂) (s : Store) :
    (deliver (deliver s m₁) m₂).AgreeOn (· ∉ m₂.denoms) (deliver (deliver s m₂) m₁) :=
  (deliver_frame (deliver s m₁) m₂).symm.trans (deliver_agree (fun _ h₁ h₂ => hd h₁ h₂) (deliver_frame s m₂))

theorem deliver_comm {m₁ m₂ : Msg} (hd : m₁.Disjoint m₂) (s : Store) :
    (deliver (deliver s m₁) m₂).AgreeOn (fun _ => True) (deliver (deliver s m₂) m₁) :=
  (deliver_comm_off hd s).of_cover (deliver_comm_off hd.symm s).symm fun d =>
    if h : d ∈ m₁.denoms then .inl (hd h) else .inr h

theorem run_agree {s t : Store} (h : s.AgreeOn (fun _ => True) t) (ms : List Msg) :
    (run s ms).AgreeOn (fun _ => True) (run t ms) := by
  induction ms generalizing s t with
  | nil => exact h
  | cons m ms ih => exact ih (deliver_agree (fun _ _ => trivial) h)

theorem run_perm {ms ms' : List Msg} (hp : ms.Perm ms') (hd : ms.Pairwise Msg.Disjoint) (s : Store) :
    (run s ms).AgreeOn (fun _ => True) (run s ms') := by
  induction hp generalizing s with
  | nil => exact .refl _ _
  | cons m _ ih => exact ih (List.pairwise_cons.1 hd).2 (deliver s m)
  | swap m₁ m₂ l => exact run_agree (deliver_comm ((List.pairwise_cons.1 hd).1 m₁ (List.mem_cons_self _ _)) s) l
  | trans h₁₂ _ ih₁ ih₂ => exact (ih₁ hd s).trans (ih₂ ((h₁₂.pairwise_iff @Msg.Disjoint.symm).1 hd) s)

/-- Requests whose entries name pairwise disjoint sets of batch denoms leave the same
    balance and supply records, whatever order they are delivered in. -/
theorem run_perm_same_records {ms ms' : List Msg} (hp : ms.Perm ms') (hd : ms.Pairwise Msg.Disjoint) (s : Store) :
    (∀ h k, (run s ms).batchBalances.get (h, k) = (run s ms').batchBalances.get (h, k)) ∧
      ∀ k, (run s ms).batchSupplies.get k = (run s ms').batchSupplies.get k :=
  have ha := run_perm hp hd s
  ⟨fun h k => (ha.balances h k fun _ _ => trivial).symm, fun k => (ha.supplies k fun _ _ => trivial).symm⟩

/-- Two batches of one class: alice holds 10 credits of the first, bob 5 of the second. -/
def twoBatchSnapshot : Store where
  creditTypes := ⟨[⟨"C", 2⟩], by decide⟩
  classes := ⟨[⟨1, "C"⟩], by decide⟩
  projects := ⟨[⟨1, 1⟩], by decide⟩
  batches := ⟨[⟨1, 1, "C01-001"⟩, ⟨2, 1, "C01-002"⟩], by decide⟩
  denomUnique := by decide
  batchSupplies := ⟨[⟨1, "10", "0", "0"⟩, ⟨2, "5", "0", "0"⟩], by decide⟩
  batchBalances := ⟨[⟨1, "alice", "10", "0", "0"⟩, ⟨2, "bob", "5", "0", "0"⟩], by decide⟩
  basketBalances := ⟨[], by decide⟩

/-- Alice's retirement and bob's cancellation each commit one event whichever runs first,
    and the two orders leave the same records. -/
theorem run_perm_same_records_twoBatchSnapshot :
    let m₁ : Msg := .retire ⟨"alice", [⟨"C01-001", "2"⟩], "US"⟩
    let m₂ : Msg := .cancel ⟨"bob", [⟨"C01-002", "1"⟩], "moved"⟩
    (deliverEvents (deliver twoBatchSnapshot m₂) m₁).length = 1 ∧
      (deliverEvents (deliver twoBatchSnapshot m₁) m₂).length = 1 ∧
      [m₁, m₂].Perm [m₂, m₁] ∧ [m₁, m₂].Pairwise Msg.Disjoint ∧
      (∀ h k, (run twoBatchSnapshot [m₁, m₂]).batchBalances.get (h, k) =
        (run twoBatchSnapshot [m₂, m₁]).batchBalances.get (h, k)) ∧
      ∀ k, (run twoBatchSnapshot [m₁, m₂]).batchSupplies.get k = (run twoBatchSnapshot [m₂, m₁]).batchSupplies.get k :=
  have hp := List.Perm.swap _ _ []
  have hd : [_, _].Pairwise Msg.Disjoint := by simp [Msg.Disjoint, Msg.denoms]
  ⟨rfl, rfl, hp, hd, run_perm_same_records hp hd twoBatchSnapshot⟩

/-! ## Only the signer pays -/

/-- The address whose credits a request spends: the sender of a `Send`, the owner of a
    `Retire` or a `Cancel`. -/
def Msg.signer : Msg → Address
  | .send m => m.sender
  | .retire m => m.owner
  | .cancel m => m.owner

@[simp] theorem holding_setSupplies (s : Store) (t) : (s.setSupplies t).holding = s.holding := rfl

theorem holding_saveBalance_ne (s : Store) {r : BatchBalance} {a : Address} {k : Nat} (h : (a, k) ≠ r.pk) :
    (s.setBalances (s.batchBalances.save r)).holding a k = s.holding a k := by
  simp only [Store.holding, setBalances_batchBalances, Table.get_save_ne _ r h]

theorem holding_afterRetire_ne (s : Store) {owner a : Address} (p : RetirePlan) (h : owner ≠ a) (k : Nat) :
    (s.afterRetire owner p).holding a k = s.holding a k := by
  rw [Store.afterRetire, holding_setSupplies]
  exact holding_saveBalance_ne s fun e => h (congrArg Prod.fst e).symm

theorem holding_afterCancel_ne (s : Store) {owner a : Address} (p : CancelPlan) (h : owner ≠ a) (k : Nat) :
    (s.afterCancel owner p).holding a k = s.holding a k := by
  rw [Store.afterCancel, holding_setSupplies]
  exact holding_saveBalance_ne s fun e => h (congrArg Prod.fst e).symm

theorem holding_afterSend_ne (s : Store) (ta fa : Address) (p : SendPlan) {a : Address} {k : Nat}
    (hto : (a, k) ≠ (ta, p.batch.key)) (hfrom : (a, k) ≠ (fa, p.batch.key)) :
    (s.afterSend ta fa p).holding a k = s.holding a k := by
  simp only [Store.holding, afterSend_batchBalances,
    Table.get_save_ne (s.batchBalances.save (p.toRecord ta)) (p.fromRecord fa) hfrom,
    Table.get_save_ne s.batchBalances (p.toRecord ta) hto]

/-- A `Send` to someone other than the sender adds the amounts sent, which are not
    negative, to the recipient's holding of the batch, and resets its escrowed amount. -/
theorem holding_afterSend_recipient {s : Store} {c : SendCredits} {ta fa : Address} {p : SendPlan}
    (h : sendPlan s c ta fa = .ok p) (hne : ta ≠ fa) :
    (s.afterSend ta fa p).holding ta p.batch.key =
        ⟨(s.holding ta p.batch.key).tradable + amount c.tradableAmount,
          (s.holding ta p.batch.key).retired + amount c.retiredAmount, 0⟩ ∧
      0 ≤ amount c.tradableAmount ∧ 0 ≤ amount c.retiredAmount := by
  obtain ⟨batch, _, _, _, tt, tr, _, _, t, x, _, _, -, -, -, -, hdecs, -, hpeq⟩ := sendPlan_ok.1 h
  simp only [getNonNegativeFixedDecs_ok, List.forall₂_cons] at hdecs
  obtain ⟨htt, htr, -, -, ht, hx, -⟩ := hdecs
  obtain ⟨rfl, hT, hR⟩ : p.batch = batch ∧ p.toTradable.val = tt.val + t.val ∧ p.toRetired.val = tr.val + x.val := by
    subst hpeq; simp
  have hto := holding_eq_getD s ta p.batch.key
  simp only [BatchBalance.amounts, amount_of_fixed htt, amount_of_fixed htr] at hto
  have hne' : (ta, p.batch.key) ≠ (p.fromRecord fa).pk := fun e => hne (congrArg Prod.fst e)
  have hget : (s.afterSend ta fa p).batchBalances.get (ta, p.batch.key) = some (p.toRecord ta) := by
    rw [afterSend_batchBalances, Table.get_save_ne _ _ hne']
    exact Table.get_save_self _ _
  rw [holding_of_get hget, hto, amount_of_fixed ht, amount_of_fixed hx]
  refine ⟨?_, (newNonNegativeFixedDecFromString_ok.1 ht).2.1, (newNonNegativeFixedDecFromString_ok.1 hx).2.1⟩
  simp [BatchBalance.amounts, SendPlan.toRecord, amount_empty, hT, hR]

/-- `a` holds at least as much tradable and as much retired of every batch in `s'` as
    in `s`. -/
def HoldsNoLess (a : Address) (s s' : Store) : Prop :=
  ∀ k, (s.holding a k).tradable ≤ (s'.holding a k).tradable ∧ (s.holding a k).retired ≤ (s'.holding a k).retired

namespace HoldsNoLess

variable {a : Address} {s s' s'' : Store}

theorem refl (s : Store) : HoldsNoLess a s s := fun _ => ⟨le_rfl, le_rfl⟩

theorem trans (h₁ : HoldsNoLess a s s') (h₂ : HoldsNoLess a s' s'') : HoldsNoLess a s s'' := fun k =>
  ⟨(h₁ k).1.trans (h₂ k).1, (h₁ k).2.trans (h₂ k).2⟩

theorem of_eq (h : ∀ k, s'.holding a k = s.holding a k) : HoldsNoLess a s s' := fun k => by
  rw [h k]
  exact ⟨le_rfl, le_rfl⟩

end HoldsNoLess

theorem holdsNoLess_afterSend {s : Store} {c : SendCredits} {ta fa a : Address} {p : SendPlan}
    (h : sendPlan s c ta fa = .ok p) (hfa : fa ≠ a) : HoldsNoLess a s (s.afterSend ta fa p) := by
  intro k
  by_cases hk : (a, k) = (ta, p.batch.key)
  · obtain ⟨rfl, rfl⟩ := Prod.mk.inj hk
    obtain ⟨he, ht, hr⟩ := holding_afterSend_recipient h (Ne.symm hfa)
    rw [he]
    exact ⟨le_add_of_nonneg_right ht, le_add_of_nonneg_right hr⟩
  · rw [holding_afterSend_ne s ta fa p hk fun e => hfa (congrArg Prod.fst e).symm]
    exact ⟨le_rfl, le_rfl⟩

/-- Along every run of requests none of which is signed by `a`, no tradable or retired
    amount `a` holds of any batch decreases. -/
theorem non_signer_holdings_never_decrease {a : Address} {ms : List Msg} (hms : ∀ m ∈ ms, m.signer ≠ a)
    (s : Store) (k : Nat) :
    (s.holding a k).tradable ≤ ((run s ms).holding a k).tradable ∧
      (s.holding a k).retired ≤ ((run s ms).holding a k).retired :=
  run_rel_of_entries (HoldsNoLess a) HoldsNoLess.refl (fun _ _ _ => HoldsNoLess.trans) (fun m => m.signer ≠ a)
    (fun _ hm _ _ _ hp => holdsNoLess_afterSend hp hm) (fun _ hm s _ p _ => .of_eq (holding_afterRetire_ne s p hm))
    (fun _ hm s _ p _ => .of_eq (holding_afterCancel_ne s p hm)) s ms hms k

theorem non_signer_holdings_never_decrease_oneBatchSnapshot :
    let ms : List Msg := [.send ⟨"alice", "bob", [⟨"C01-001", "4", "1", "US"⟩]⟩,
      .retire ⟨"alice", [⟨"C01-001", "2"⟩], "US"⟩]
    (∀ m ∈ ms, m.signer ≠ "bob") ∧ ∀ k, (oneBatchSnapshot.holding "bob" k).tradable ≤
      ((run oneBatchSnapshot ms).holding "bob" k).tradable ∧
        (oneBatchSnapshot.holding "bob" k).retired ≤ ((run oneBatchSnapshot ms).holding "bob" k).retired :=
  have hms : ∀ m ∈ [Msg.send ⟨"alice", "bob", [⟨"C01-001", "4", "1", "US"⟩]⟩,
      .retire ⟨"alice", [⟨"C01-001", "2"⟩], "US"⟩], m.signer ≠ "bob" := by simp [Msg.signer]
  ⟨hms, non_signer_holdings_never_decrease hms oneBatchSnapshot⟩

end Ecocredit
