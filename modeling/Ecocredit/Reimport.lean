/-
  Ecocredit.Reimport — the keeper against the genesis validator. At an upgrade the
  chain exports its state and the new binary imports it through `ValidateGenesis`.
  `genesis_accepted_preserved`: a snapshot the validator accepts is accepted again
  after every run of `Send`, `Retire` and `Cancel` requests, provided that
  - no holder escrows credits: every balance write stores the escrowed amount as
    `""`, so a retire from `escrowSnapshot` leaves its batch's holders 5 short of
    the supply the validator compares them with;
  - no `Send` is to its own sender: the sender's record overwrites the recipient's,
    and the sent credits vanish (`escrowSelfSent`);
  - every supply covers what its holders hold tradable, and the stored amounts
    parse at their batch's precision (`AmountsFixed`, `Covered`): a `Send` that
    retires subtracts from the supply's tradable amount without a check, so from
    `splitSupplySnapshot` it stores `"-5"`, which the supply scan rejects.

  One entry keeps `Reimportable` (`Reimportable.afterRetire`, `.afterCancel`,
  `.afterSend`) through `Accepted.setTables`: an entry rewrites records of a batch
  that already has a balance and a supply record, at the precision the keeper and
  the batch scan agree on (`genesisPrecision_of_batchPrecision`), and keeps each
  batch's held minus declared (`accounts_afterRetire`, ...).
-/

import Ecocredit.Acceptance
import Ecocredit.SupplyInvariant

namespace Ecocredit

/-! ## Writes -/

theorem exists_batchKey_save {t : Table BatchBalance BatchBalance.pk} {r : BatchBalance} {k : Nat} :
    (∃ b ∈ (t.save r).rows, b.batchKey = k) ↔ (∃ b ∈ t.rows, b.batchKey = k) ∨ r.batchKey = k := by
  constructor
  · rintro ⟨b, hb, rfl⟩
    rcases Table.mem_save.1 hb with rfl | ⟨hb, -⟩
    exacts [.inr rfl, .inl ⟨b, hb, rfl⟩]
  · rintro (⟨b, hb, rfl⟩ | rfl)
    · by_cases e : b.pk = r.pk
      · exact ⟨r, Table.mem_save.2 (.inl rfl), (congrArg Prod.snd e).symm⟩
      · exact ⟨b, Table.mem_save.2 (.inr ⟨hb, e⟩), rfl⟩
    · exact ⟨r, Table.mem_save.2 (.inl rfl), rfl⟩

theorem Table.isSome_get_save {α κ : Type} [DecidableEq κ] {pk : α → κ} {t : Table α pk} {r : α}
    (h : (t.get (pk r)).isSome) (k : κ) : ((t.save r).get k).isSome ↔ (t.get k).isSome := by
  rw [Table.get_save]
  split <;> simp_all

theorem afterSend_eq (s : Store) (ta fa : Address) (p : SendPlan) :
    s.afterSend ta fa p = (s.setBalances ((s.batchBalances.save (p.toRecord ta)).save (p.fromRecord fa))).setSupplies
      (if p.didRetire then s.batchSupplies.save p.supply else s.batchSupplies) := by
  unfold Store.afterSend; split <;> rfl

/-- A store whose balance and supply tables are replaced keeps `Accepted` when every
    new row is an old one or a row of a batch with a precision (and, for a balance,
    no escrowed amount), the batches with a balance record and with a supply record
    stay the same, every amount is well-formed, and every batch keeps its held minus
    declared. -/
theorem Accepted.setTables {s : Store} (ha : Accepted s) {tb : Table BatchBalance BatchBalance.pk}
    {ts : Table BatchSupply BatchSupply.batchKey} (hf : AmountsFixed ((s.setBalances tb).setSupplies ts))
    (hbal : ∀ b ∈ tb.rows, b ∈ s.batchBalances.rows ∨ (s.batchPrecision b.batchKey).isSome ∧ b.escrowedAmount = "")
    (hsup : ∀ r ∈ ts.rows, r ∈ s.batchSupplies.rows ∨ (s.batchPrecision r.batchKey).isSome)
    (hkeys : ∀ k, (∃ b ∈ tb.rows, b.batchKey = k) ↔ ∃ b ∈ s.batchBalances.rows, b.batchKey = k)
    (hsk : ∀ k, (ts.get k).isSome ↔ (s.batchSupplies.get k).isSome)
    (hacc : ∀ k, ((s.setBalances tb).setSupplies ts).held k - ((s.setBalances tb).setSupplies ts).declared k =
      s.held k - s.declared k) :
    Accepted ((s.setBalances tb).setSupplies ts) where
  classes := ha.classes
  batches := ha.batches
  supplies := fun r hr => by
    simp only [genesisPrecision_setSupplies, genesisPrecision_setBalances]
    rcases hsup r hr with hr' | hp
    · exact ha.supplies r hr'
    · obtain ⟨p, hp⟩ := Option.isSome_iff_exists.1 hp
      obtain ⟨ht, hx, -⟩ := hf.supplies r hr p hp
      rw [genesisPrecision_of_batchPrecision hp]
      exact ⟨.inr ht, .inr hx⟩
  balances := fun b hb => by
    simp only [genesisPrecision_setSupplies, genesisPrecision_setBalances]
    rcases hbal b hb with hb' | ⟨hp, he⟩
    · exact ha.balances b hb'
    · obtain ⟨p, hp⟩ := Option.isSome_iff_exists.1 hp
      obtain ⟨ht, hr⟩ := hf.balances b hb p hp
      exact ⟨p, genesisPrecision_of_batchPrecision hp, .inr ht, .inr hr, .inl he⟩
  baskets := fun bb hbb => by
    obtain ⟨⟨b, hb, hk⟩, hd⟩ := ha.baskets bb hbb
    obtain ⟨b', hb', hk'⟩ := (hkeys b.batchKey).2 ⟨b, hb, rfl⟩
    exact ⟨⟨b', hb', hk'.symm ▸ hk⟩, hd⟩
  together := by
    show tb.rows = [] ↔ ts.rows = []
    have hb : tb.rows = [] ↔ s.batchBalances.rows = [] := by
      simp only [List.eq_nil_iff_forall_not_mem]
      exact ⟨fun h b hb => let ⟨b', hb', _⟩ := (hkeys b.batchKey).2 ⟨b, hb, rfl⟩; h b' hb',
        fun h b hb => let ⟨b', hb', _⟩ := (hkeys b.batchKey).1 ⟨b, hb, rfl⟩; h b' hb'⟩
    have hs : ts.rows = [] ↔ s.batchSupplies.rows = [] := by
      simp only [Table.rows_eq_nil, ← Option.not_isSome_iff_eq_none, hsk]
    exact hb.trans (ha.together.trans hs.symm)
  supplied := fun b hb => by
    obtain ⟨b', hb', hk⟩ := (hkeys b.batchKey).1 ⟨b, hb, rfl⟩
    exact (hsk _).2 (hk ▸ ha.supplied b' hb')
  balanced := fun b hb => by
    obtain ⟨b', hb', hk⟩ := (hkeys b.batchKey).1 ⟨b, hb, rfl⟩
    have h₁ := ha.balanced b' hb'
    have h₂ := hacc b.batchKey
    rw [hk] at h₁
    simp only [inBaskets_setSupplies, inBaskets_setBalances] at h₂ ⊢
    linarith

/-! ## One entry -/

/-- What re-import needs of a store. -/
structure Reimportable (s : Store) : Prop where
  accepted : Accepted s
  escrowFree : EscrowFree s
  fixed : AmountsFixed s
  covered : Covered s

theorem Reimportable.afterRetire {s : Store} {owner : Address} {credit : Credits} {p : RetirePlan}
    (h : retirePlan s owner credit = .ok p) (hs : Reimportable s) : Reimportable (s.afterRetire owner p) := by
  obtain ⟨hf', hc'⟩ := stored_afterRetire h hs.fixed hs.covered
  have hacc := accounts_afterRetire h hs.escrowFree
  obtain ⟨batch, ct, ub, sup, a, ut, ur, sr, st, hb, hct, hub, hsup, -, -, -, -, -, -, -, rfl⟩ := retirePlan_ok.1 h
  have hp : (s.batchPrecision batch.key).isSome := by rw [batchPrecision_of_creditType hb hct]; rfl
  obtain ⟨hubm, hubk⟩ := BatchBalance.mem_of_get hub
  refine ⟨hs.accepted.setTables hf' (fun b hb => ?_) (fun r hr => ?_) (fun k => ?_)
    (Table.isSome_get_save (Option.isSome_iff_exists.2 ⟨sup, hsup⟩)) hacc, escrowFree_save hs.escrowFree rfl, hf', hc'⟩
  · rcases Table.mem_save.1 hb with rfl | ⟨hb, -⟩
    exacts [.inr ⟨hp, rfl⟩, .inl hb]
  · rcases Table.mem_save.1 hr with rfl | ⟨hr, -⟩
    exacts [.inr hp, .inl hr]
  · rw [exists_batchKey_save]
    exact or_iff_left_of_imp fun e => ⟨ub, hubm, hubk.trans e⟩

theorem Reimportable.afterCancel {s : Store} {owner : Address} {credit : Credits} {p : CancelPlan}
    (h : cancelPlan s owner credit = .ok p) (hs : Reimportable s) : Reimportable (s.afterCancel owner p) := by
  obtain ⟨hf', hc'⟩ := stored_afterCancel h hs.fixed hs.covered
  have hacc := accounts_afterCancel h hs.escrowFree
  obtain ⟨batch, ct, ub, sup, a, st, ut, cd, hb, hct, hub, hsup, -, -, -, -, -, -, rfl⟩ := cancelPlan_ok.1 h
  have hp : (s.batchPrecision batch.key).isSome := by rw [batchPrecision_of_creditType hb hct]; rfl
  obtain ⟨hubm, hubk⟩ := BatchBalance.mem_of_get hub
  refine ⟨hs.accepted.setTables hf' (fun b hb => ?_) (fun r hr => ?_) (fun k => ?_)
    (Table.isSome_get_save (Option.isSome_iff_exists.2 ⟨sup, hsup⟩)) hacc, escrowFree_save hs.escrowFree rfl, hf', hc'⟩
  · rcases Table.mem_save.1 hb with rfl | ⟨hb, -⟩
    exacts [.inr ⟨hp, rfl⟩, .inl hb]
  · rcases Table.mem_save.1 hr with rfl | ⟨hr, -⟩
    exacts [.inr hp, .inl hr]
  · rw [exists_batchKey_save]
    exact or_iff_left_of_imp fun e => ⟨ub, hubm, hubk.trans e⟩

theorem Reimportable.afterSend {s : Store} {credit : SendCredits} {ta fa : Address} {p : SendPlan}
    (h : sendPlan s credit ta fa = .ok p) (hne : ta ≠ fa) (hs : Reimportable s) :
    Reimportable (s.afterSend ta fa p) := by
  obtain ⟨hf', hc'⟩ := stored_afterSend h hs.fixed hs.covered
  have hacc := accounts_afterSend h hne hs.escrowFree
  have he' : EscrowFree (s.afterSend ta fa p) := by
    rw [EscrowFree, afterSend_batchBalances]
    exact escrowFree_save (escrowFree_save hs.escrowFree rfl) rfl
  rw [afterSend_eq] at hf' hc' hacc he' ⊢
  obtain ⟨batch, ct, sup, fb, _, _, _, _, _, _, _, _, hb, hct, hsup, hfb, -, -, hpeq⟩ := sendPlan_ok.1 h
  obtain rfl : batch = p.batch := by rw [hpeq]
  have hp : (s.batchPrecision p.batch.key).isSome := by rw [batchPrecision_of_creditType hb hct]; rfl
  obtain ⟨hfbm, hfbk⟩ := BatchBalance.mem_of_get hfb
  refine ⟨hs.accepted.setTables hf' (fun b hb => ?_) (fun r hr => ?_) (fun k => ?_) (fun k => ?_) hacc, he', hf', hc'⟩
  · rcases Table.mem_save.1 hb with rfl | ⟨hb, -⟩
    · exact .inr ⟨hp, rfl⟩
    rcases Table.mem_save.1 hb with rfl | ⟨hb, -⟩
    exacts [.inr ⟨hp, rfl⟩, .inl hb]
  · split at hr
    · rcases Table.mem_save.1 hr with rfl | ⟨hr, -⟩
      exacts [.inr hp, .inl hr]
    · exact .inl hr
  · rw [exists_batchKey_save, exists_batchKey_save]
    have hheld : p.batch.key = k → ∃ b ∈ s.batchBalances.rows, b.batchKey = k := fun e => ⟨fb, hfbm, hfbk.trans e⟩
    exact ⟨fun h => h.elim (·.elim id hheld) hheld, fun h => .inl (.inl h)⟩
  · split
    · refine Table.isSome_get_save ?_ k
      exact Option.isSome_iff_exists.2 ⟨sup, hsup⟩
    · exact Iff.rfl

/-! ## Runs -/

/-- From a snapshot `ValidateGenesis` accepts, in which no holder escrows credits,
    every amount parses at its batch's precision and every supply covers what its
    holders hold tradable, every run of requests other than `Send`s to their own
    sender ends in a state `ValidateGenesis` accepts. -/
theorem genesis_accepted_preserved {s : Store} (hv : validateGenesis s = .ok ()) (he : EscrowFree s)
    (hf : AmountsFixed s) (hc : Covered s) {ms : List Msg} (hms : ∀ m ∈ ms, m.NotSelfSend) :
    validateGenesis (run s ms) = .ok () := by
  have hr := run_rel_of_entries (fun s s' => Reimportable s → Reimportable s') (fun _ => id)
    (fun _ _ _ h₁ h₂ => h₂ ∘ h₁) Msg.NotSelfSend (fun _ hm _ _ _ hp hs => hs.afterSend hp (Ne.symm hm))
    (fun _ _ _ _ _ hp hs => hs.afterRetire hp) (fun _ _ _ _ _ hp hs => hs.afterCancel hp) s ms hms
  exact validateGenesis_of_accepted (hr ⟨accepted_of_validateGenesis hv, he, hf, hc⟩).accepted

theorem genesis_accepted_preserved_oneBatchSnapshot :
    validateGenesis oneBatchSnapshot = .ok () ∧ EscrowFree oneBatchSnapshot ∧ AmountsFixed oneBatchSnapshot ∧
      Covered oneBatchSnapshot ∧
      (∀ m ∈ [Msg.retire ⟨"alice", [⟨"C01-001", "2.5"⟩], "US"⟩, .send ⟨"alice", "bob", [⟨"C01-001", "1", "1.25", "US"⟩]⟩],
        m.NotSelfSend) ∧
      validateGenesis (run oneBatchSnapshot [.retire ⟨"alice", [⟨"C01-001", "2.5"⟩], "US"⟩,
        .send ⟨"alice", "bob", [⟨"C01-001", "1", "1.25", "US"⟩]⟩]) = .ok () :=
  have hv : validateGenesis oneBatchSnapshot = .ok () := rfl
  have he : EscrowFree oneBatchSnapshot := fun b hb => by rcases List.mem_singleton.1 hb with rfl; exact amount_zero
  have hms : ∀ m ∈ [Msg.retire ⟨"alice", [⟨"C01-001", "2.5"⟩], "US"⟩,
      .send ⟨"alice", "bob", [⟨"C01-001", "1", "1.25", "US"⟩]⟩], m.NotSelfSend := by simp [Msg.NotSelfSend]
  ⟨hv, he, oneBatchSnapshot_amountsFixed, oneBatchSnapshot_covered, hms,
    genesis_accepted_preserved hv he oneBatchSnapshot_amountsFixed oneBatchSnapshot_covered hms⟩

end Ecocredit
