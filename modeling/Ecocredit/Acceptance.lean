/-
  Ecocredit.Acceptance — exactly what `ValidateGenesis` (genesis.go 35–243) accepts,
  said over the document's rows: `validateGenesisFull_ok_iff`. The scans from line 76 on
  accept an imported state exactly when it satisfies `Accepted`
  (`validateGenesis_ok_iff`); the import checks before them are
  `Ecocredit.GenesisImport`'s.

  `Accepted` lists the conditions. Each one is about membership in a table, so
  whether the validator accepts does not depend on the order in which the Go code
  meets the rows or a map's entries. Three of them are edges of the code rather than
  of the spec:
  - the batch scan looks a batch's class up under its project's class key, and under
    key 0 when the project is missing (`Store.genesisPrecision`);
  - a supply record whose batch the scan did not index is parsed at precision 0,
    the map's zero value, so it must hold whole numbers;
  - the final comparison runs over the batches that have a balance record, so a
    batch with a supply record and no holders passes whatever it declares.

  Each scan has a lemma saying when it succeeds (the `_ok` lemmas of
  `Ecocredit.GenesisSpec`) and one saying what a success tells of every row (the
  `_parses` lemmas here). `validateSupply_iff` reads the final check over the
  snapshot, given the maps the scans built.

  Two consequences: what an accepted state declares (`genesis_sound_on_held_batches`),
  and that a consistent state whose balanced batches all have supply records, and
  whose basket balances all name held batches, passes (`accepted_of_consistent`); so
  does a document with valid params and rows around it (`genesis_complete`).
-/

import Ecocredit.GenesisSpec

namespace Ecocredit

/-! ## The batch index -/

/-- The precision the batch scan (genesis.go 126–155) gives batch `k`. It is the
    credit-type precision of the class found under the project's class key (key 0
    when the project is missing), and 0 when that credit type is missing. -/
def Store.genesisPrecision (s : Store) (k : Nat) : Option Nat := do
  let batch ← s.batches.get k
  let cls ← s.classes.get (((s.projects.get batch.projectKey).map Project.classKey).getD 0)
  pure (((s.creditTypes.get cls.creditTypeAbbrev).map CreditType.precision).getD 0)

@[simp] theorem genesisPrecision_setBalances (s : Store) (t) :
    (s.setBalances t).genesisPrecision = s.genesisPrecision := rfl

@[simp] theorem genesisPrecision_setSupplies (s : Store) (t) :
    (s.setSupplies t).genesisPrecision = s.genesisPrecision := rfl

/-- Where the keeper finds a precision, the batch scan finds the same one. -/
theorem genesisPrecision_of_batchPrecision {s : Store} {k p : Nat} (h : s.batchPrecision k = some p) :
    s.genesisPrecision k = some p := by
  simp only [Store.batchPrecision, Option.bind_eq_bind, Option.bind_eq_some, Option.pure_def,
    Option.some.injEq] at h
  obtain ⟨b, hb, pr, hpr, cls, hc, ct, hct, rfl⟩ := h
  simp [Store.genesisPrecision, hb, hpr, hc, hct]

section BatchScan

variable {classes : Table Class Class.key} {abbrevToPrecision : GoMap String Nat} {projectKeyToClassKey : GoMap Nat Nat}

/-- At a batch not indexed yet, one iteration succeeds only by finding the class. -/
theorem indexBatch_ok_of_fresh {idx idx' : BatchIndex} {b : Batch}
    (hfresh : idx.batchIdToPrecision.lookup b.key = none)
    (h : indexBatch classes abbrevToPrecision projectKeyToClassKey idx b = .ok idx') :
    ∃ cls, classes.get ((projectKeyToClassKey.lookup b.projectKey).getD 0) = some cls ∧
      idx' = ⟨idx.batchIdToPrecision.insert b.key ((abbrevToPrecision.lookup cls.creditTypeAbbrev).getD 0),
        idx.batchDenomToIdMap.insert b.denom b.key⟩ := by
  cases hc : classes.get ((projectKeyToClassKey.lookup b.projectKey).getD 0) with
  | none => simp [indexBatch, hfresh, hc] at h
  | some cls => exact ⟨cls, rfl, (Except.ok.inj ((indexBatch_fresh hfresh hc).symm.trans h)).symm⟩

/-- A batch scan that succeeds over batches with unique keys found every batch's class. -/
theorem batchScan_classes {l : List Batch} (hl : (l.map Batch.key).Nodup) {idx idx' : BatchIndex}
    (hfresh : ∀ b ∈ l, idx.batchIdToPrecision.lookup b.key = none)
    (h : l.foldlM (indexBatch classes abbrevToPrecision projectKeyToClassKey) idx = .ok idx') :
    ∀ b ∈ l, ∃ cls, classes.get ((projectKeyToClassKey.lookup b.projectKey).getD 0) = some cls := by
  induction l generalizing idx with
  | nil => simp
  | cons b bs ih =>
    rw [List.map_cons, List.nodup_cons] at hl
    rw [List.foldlM_cons, Except.bind_eq_ok'] at h
    obtain ⟨idx1, h1, h2⟩ := h
    obtain ⟨cls, hc, rfl⟩ := indexBatch_ok_of_fresh (hfresh b (List.mem_cons_self b bs)) h1
    rintro b' (_ | ⟨_, hb'⟩)
    · exact ⟨cls, hc⟩
    · refine ih hl.2 (fun b'' hb'' => ?_) h2 b' hb'
      rw [GoMap.lookup_insert, if_neg fun e : b''.key = b.key => hl.1 (e ▸ List.mem_map_of_mem _ hb'')]
      exact hfresh b'' (List.mem_cons_of_mem _ hb'')

end BatchScan

/-- The batch scan of a snapshot succeeds exactly when every batch's class is found. -/
theorem batchScan_iff {s : Store} :
    (∃ idx, s.batches.rows.foldlM (indexBatch s.classes (creditTypePrecisions s.creditTypes.rows)
        (projectClassKeys s.projects.rows)) ⟨.empty, .empty⟩ = .ok idx) ↔
      ∀ b ∈ s.batches.rows, (s.classes.get (((s.projects.get b.projectKey).map Project.classKey).getD 0)).isSome := by
  simp only [← projectClassKeys_lookup, Option.isSome_iff_exists]
  constructor
  · rintro ⟨idx, h⟩
    exact batchScan_classes s.batches.nodup (fun _ _ => by rfl) h
  · intro hcls
    obtain ⟨idx, h, -⟩ := batchScan_ok s.batches.nodup ⟨.empty, .empty⟩ (fun _ _ => rfl) hcls
    exact ⟨idx, h⟩

/-- A successful batch scan indexes every batch key at `genesisPrecision`, and no
    other key. -/
theorem batchScan_lookup {s : Store} {idx : BatchIndex}
    (h : s.batches.rows.foldlM (indexBatch s.classes (creditTypePrecisions s.creditTypes.rows)
      (projectClassKeys s.projects.rows)) ⟨.empty, .empty⟩ = .ok idx) (k : Nat) :
    idx.batchIdToPrecision.lookup k = s.genesisPrecision k := by
  obtain ⟨idx', h', hprec, hkeep⟩ :=
    batchScan_ok s.batches.nodup ⟨.empty, .empty⟩ (fun _ _ => rfl) (batchScan_classes s.batches.nodup (fun _ _ => by rfl) h)
  obtain rfl : idx' = idx := Except.ok.inj (h'.symm.trans h)
  cases hb : s.batches.get k with
  | none =>
    rw [hkeep k (Table.get_eq_none.1 hb)]
    simp [Store.genesisPrecision, hb]
  | some b =>
    obtain ⟨hbm, rfl⟩ := Table.get_eq_some.1 hb
    obtain ⟨cls, hc, hp⟩ := hprec b hbm
    rw [projectClassKeys_lookup] at hc
    rw [hp, creditTypePrecisions_lookup]
    simp [Store.genesisPrecision, hb, hc]

/-! ## What a successful scan tells of every row -/

theorem fixedDecOrEmpty_of_ok {s : String} {p : Nat} {d : Dec} (h : fixedDecOrZero s p = .ok d) :
    fixedDecOrEmpty p s := by
  unfold fixedDecOrZero at h
  split at h
  · exact .inl ‹_›
  · exact .inr ⟨d, h⟩

theorem declareSupply_parses {P : GoMap Nat Nat} {m m' : GoMap Nat Dec} {r : BatchSupply}
    (h : declareSupply P m r = .ok m') :
    fixedDecOrEmpty ((P.lookup r.batchKey).getD 0) r.tradableAmount ∧
      fixedDecOrEmpty ((P.lookup r.batchKey).getD 0) r.retiredAmount := by
  simp only [declareSupply, Except.bind_eq_ok'] at h
  obtain ⟨t, ht, x, hx, -⟩ := h
  exact ⟨fixedDecOrEmpty_of_ok ht, fixedDecOrEmpty_of_ok hx⟩

theorem addBalance_parses {P : GoMap Nat Nat} {m m' : GoMap Nat Dec} {b : BatchBalance}
    (h : addBalance P m b = .ok m') :
    ∃ p, P.lookup b.batchKey = some p ∧ fixedDecOrEmpty p b.tradableAmount ∧
      fixedDecOrEmpty p b.retiredAmount ∧ fixedDecOrEmpty p b.escrowedAmount := by
  unfold addBalance at h
  split at h
  · cases h
  rename_i p hp
  simp only [Except.bind_eq_ok'] at h
  obtain ⟨t, ht, r, hr, e, he, -⟩ := h
  exact ⟨p, hp, fixedDecOrEmpty_of_ok ht, fixedDecOrEmpty_of_ok hr, fixedDecOrEmpty_of_ok he⟩

theorem addBasketBalance_parses {D : GoMap String Nat} {m m' : GoMap Nat Dec} {bb : BasketBalance}
    (h : addBasketBalance D m bb = .ok m') : ∃ d, newNonNegativeDecFromString bb.balance = .ok d := by
  unfold addBasketBalance at h
  split at h
  · cases h
  simp only [Except.bind_eq_ok'] at h
  obtain ⟨d, hd, -⟩ := h
  exact ⟨d, hd⟩

/-! ## The final check -/

/-- The final check, read over the snapshot from the maps the scans built: it passes
    exactly when there are balance records iff there are supply records, and every
    batch with a balance record has a supply record declaring what its holders and
    the baskets hold. -/
theorem validateSupply_iff {s : Store} {idx : BatchIndex} {S cal0 cal : GoMap Nat Dec}
    (hidx : s.batches.rows.foldlM (indexBatch s.classes (creditTypePrecisions s.creditTypes.rows)
      (projectClassKeys s.projects.rows)) ⟨.empty, .empty⟩ = .ok idx)
    (hS : s.batchSupplies.rows.foldlM (declareSupply idx.batchIdToPrecision) .empty = .ok S)
    (hcal0 : calculateSupply idx.batchIdToPrecision s.batchBalances.rows .empty = .ok cal0)
    (hcal : s.basketBalances.rows.foldlM (addBasketBalance idx.batchDenomToIdMap) cal0 = .ok cal) :
    validateSupply cal S = .ok () ↔ (s.batchBalances.rows = [] ↔ s.batchSupplies.rows = []) ∧
      ∀ b ∈ s.batchBalances.rows, (s.batchSupplies.get b.batchKey).isSome ∧
        s.declared b.batchKey = s.held b.batchKey + s.inBaskets b.batchKey := by
  obtain ⟨v0, k0, -⟩ := calculateSupply_sound hcal0
  obtain ⟨-, v, k, -⟩ := basketScan_sound hcal
  have hkeys : ∀ key, (cal.lookup key).isSome ↔ ∃ b ∈ s.batchBalances.rows, b.batchKey = key := fun key => by
    simpa using (k key).trans (k0 key)
  have hSkeys : ∀ key, (S.lookup key).isSome ↔ (s.batchSupplies.get key).isSome := fun key => by
    simpa using congrArg Option.isSome (supplyScan_lookup hS key)
  have hcalv : ∀ key, cal.valueAt key = s.held key + s.inBaskets key := fun key => by
    rw [v, v0, GoMap.valueAt_empty, zero_add]
    simp only [batchDenomToIdMap_lookup hidx]
    rfl
  have hSv : ∀ key, S.valueAt key = s.declared key := fun key => by
    rw [GoMap.valueAt, supplyScan_lookup hS]
    rfl
  have hnil : (∀ key, cal.lookup key = none) ↔ s.batchBalances.rows = [] := by
    simp only [← Option.not_isSome_iff_eq_none, hkeys, List.eq_nil_iff_forall_not_mem]
    exact ⟨fun h b hb => h _ ⟨b, hb, rfl⟩, fun h _ ⟨b, hb, _⟩ => h b hb⟩
  have hSnil : (∀ key, S.lookup key = none) ↔ s.batchSupplies.rows = [] := by
    rw [Table.rows_eq_nil]
    exact forall_congr' fun key => by rw [← Option.not_isSome_iff_eq_none, hSkeys, Option.not_isSome_iff_eq_none]
  rw [validateSupply_ok, GoMap.size_eq_zero, GoMap.size_eq_zero, hnil, hSnil]
  refine and_congr_right fun _ => ⟨fun h b hb => ?_, fun h key cs hcs => ?_⟩
  · obtain ⟨cs, hcs⟩ := Option.isSome_iff_exists.1 ((hkeys _).2 ⟨b, hb, rfl⟩)
    obtain ⟨sv, hsv, hval⟩ := h _ _ hcs
    refine ⟨(hSkeys _).1 (by simp [hsv]), ?_⟩
    calc s.declared b.batchKey = sv.val := by rw [← hSv, GoMap.valueAt, hsv]; rfl
      _ = cal.valueAt b.batchKey := by rw [hval, GoMap.valueAt, hcs]; rfl
      _ = _ := hcalv _
  · obtain ⟨b, hb, rfl⟩ := (hkeys key).1 (by simp [hcs])
    obtain ⟨hsup, hbal⟩ := h b hb
    obtain ⟨sv, hsv⟩ := Option.isSome_iff_exists.1 ((hSkeys _).2 hsup)
    refine ⟨sv, hsv, ?_⟩
    calc sv.val = s.declared b.batchKey := by rw [← hSv, GoMap.valueAt, hsv]; rfl
      _ = cal.valueAt b.batchKey := by rw [hbal, hcalv]
      _ = cs.val := by rw [GoMap.valueAt, hcs]; rfl

/-! ## Acceptance -/

/-- What `ValidateGenesis` asks of a snapshot, row by row. -/
structure Accepted (s : Store) : Prop where
  classes : ∀ cls ∈ s.classes.rows, (s.creditTypes.get cls.creditTypeAbbrev).isSome
  batches : ∀ b ∈ s.batches.rows,
    (s.classes.get (((s.projects.get b.projectKey).map Project.classKey).getD 0)).isSome
  supplies : ∀ r ∈ s.batchSupplies.rows,
    fixedDecOrEmpty ((s.genesisPrecision r.batchKey).getD 0) r.tradableAmount ∧
      fixedDecOrEmpty ((s.genesisPrecision r.batchKey).getD 0) r.retiredAmount
  balances : ∀ b ∈ s.batchBalances.rows, ∃ p, s.genesisPrecision b.batchKey = some p ∧
    fixedDecOrEmpty p b.tradableAmount ∧ fixedDecOrEmpty p b.retiredAmount ∧ fixedDecOrEmpty p b.escrowedAmount
  baskets : ∀ bb ∈ s.basketBalances.rows,
    (∃ b ∈ s.batchBalances.rows, (s.batchByDenom bb.batchDenom).map Batch.key = some b.batchKey) ∧
      ∃ d, newNonNegativeDecFromString bb.balance = .ok d
  together : s.batchBalances.rows = [] ↔ s.batchSupplies.rows = []
  supplied : ∀ b ∈ s.batchBalances.rows, (s.batchSupplies.get b.batchKey).isSome
  balanced : ∀ b ∈ s.batchBalances.rows, s.declared b.batchKey = s.held b.batchKey + s.inBaskets b.batchKey

theorem accepted_of_validateGenesis {s : Store} (h : validateGenesis s = .ok ()) : Accepted s := by
  simp only [validateGenesis, Except.bind_eq_ok'] at h
  obtain ⟨_, hcheck, idx, hidx, S, hS, cal0, hcal0, cal, hcal, hv⟩ := h
  obtain ⟨hbaskets, -, -, -⟩ := basketScan_sound hcal
  obtain ⟨-, k0, -⟩ := calculateSupply_sound hcal0
  obtain ⟨htogether, hsupply⟩ := (validateSupply_iff hidx hS hcal0 hcal).1 hv
  refine ⟨fun cls hc => ?_, batchScan_iff.1 ⟨idx, hidx⟩, fun r hr => ?_, fun b hb => ?_, fun bb hbb => ?_,
    htogether, fun b hb => (hsupply b hb).1, fun b hb => (hsupply b hb).2⟩
  · simpa [creditTypePrecisions_lookup] using checkClasses_ok.1 hcheck cls hc
  · obtain ⟨_, _, hr⟩ := Except.foldlM_step_ok hS r hr
    simpa only [batchScan_lookup hidx] using declareSupply_parses hr
  · obtain ⟨_, _, hb⟩ := Except.foldlM_step_ok hcal0 b hb
    simpa only [batchScan_lookup hidx] using addBalance_parses hb
  · obtain ⟨key, hkey, hsome⟩ := hbaskets bb hbb
    obtain ⟨b, hb, rfl⟩ := ((k0 key).1 hsome).resolve_left (by simp)
    obtain ⟨_, _, hstep⟩ := Except.foldlM_step_ok hcal bb hbb
    exact ⟨⟨b, hb, by rwa [batchDenomToIdMap_lookup hidx] at hkey⟩, addBasketBalance_parses hstep⟩

theorem validateGenesis_of_accepted {s : Store} (ha : Accepted s) : validateGenesis s = .ok () := by
  have hcheck : checkClasses (creditTypePrecisions s.creditTypes.rows) s.classes.rows = .ok () :=
    checkClasses_ok.2 fun cls h => by simpa [creditTypePrecisions_lookup] using ha.classes cls h
  obtain ⟨idx, hidx⟩ := batchScan_iff.2 ha.batches
  have hprec := batchScan_lookup hidx
  obtain ⟨S, hS⟩ : ∃ S, s.batchSupplies.rows.foldlM (declareSupply idx.batchIdToPrecision) .empty = .ok S :=
    supplyScan_ok fun r hr => ⟨_, rfl, by simpa only [hprec] using ha.supplies r hr⟩
  obtain ⟨cal0, hcal0⟩ : ∃ m, calculateSupply idx.batchIdToPrecision s.batchBalances.rows .empty = .ok m :=
    calculateSupply_ok (fun _ _ => GoMap.nonNeg_empty _) fun b hb => by simpa only [hprec] using ha.balances b hb
  obtain ⟨-, k0, n0⟩ := calculateSupply_sound hcal0
  obtain ⟨cal, hcal⟩ : ∃ m, s.basketBalances.rows.foldlM (addBasketBalance idx.batchDenomToIdMap) cal0 = .ok m :=
    basketScan_ok (n0 GoMap.nonNeg_empty) fun bb hbb => by
      obtain ⟨⟨b, hb, hk⟩, hd⟩ := ha.baskets bb hbb
      exact ⟨⟨b.batchKey, by rw [batchDenomToIdMap_lookup hidx]; exact hk, (k0 _).2 (.inr ⟨b, hb, rfl⟩)⟩, hd⟩
  simp only [validateGenesis, Except.bind_eq_ok']
  exact ⟨(), hcheck, idx, hidx, S, hS, cal0, hcal0, cal, hcal, (validateSupply_iff hidx hS hcal0 hcal).2
    ⟨ha.together, fun b hb => ⟨ha.supplied b hb, ha.balanced b hb⟩⟩⟩

/-- On every state the scans accept, every batch with a balance record has a supply
    record declaring what its holders and the baskets hold, and every basket balance
    names a batch that has a balance record. -/
theorem genesis_sound_on_held_batches {s : Store} (h : validateGenesis s = .ok ()) :
    (∀ b ∈ s.batchBalances.rows, (s.batchSupplies.get b.batchKey).isSome ∧
      s.declared b.batchKey = s.held b.batchKey + s.inBaskets b.batchKey) ∧
      ∀ bb ∈ s.basketBalances.rows, ∃ b ∈ s.batchBalances.rows,
        (s.batchByDenom bb.batchDenom).map Batch.key = some b.batchKey :=
  have ha := accepted_of_validateGenesis h
  ⟨fun b hb => ⟨ha.supplied b hb, ha.balanced b hb⟩, fun bb hbb => (ha.baskets bb hbb).1⟩

theorem genesis_sound_on_held_batches_unheldSupplySnapshot :
    validateGenesis unheldSupplySnapshot = .ok () ∧
      ((∀ b ∈ unheldSupplySnapshot.batchBalances.rows, (unheldSupplySnapshot.batchSupplies.get b.batchKey).isSome ∧
          unheldSupplySnapshot.declared b.batchKey =
            unheldSupplySnapshot.held b.batchKey + unheldSupplySnapshot.inBaskets b.batchKey) ∧
        ∀ bb ∈ unheldSupplySnapshot.basketBalances.rows, ∃ b ∈ unheldSupplySnapshot.batchBalances.rows,
          (unheldSupplySnapshot.batchByDenom bb.batchDenom).map Batch.key = some b.batchKey) :=
  ⟨rfl, genesis_sound_on_held_batches rfl⟩

/-- A consistent state in which every batch with balance records has a supply record,
    and every basket balance's batch has balance records, satisfies `Accepted`. -/
theorem accepted_of_consistent {s : Store} (hc : Consistent s)
    (hsupplied : ∀ b ∈ s.batchBalances.rows, (s.batchSupplies.get b.batchKey).isSome)
    (hheld : ∀ bb ∈ s.basketBalances.rows, ∃ b ∈ s.batchBalances.rows,
      (s.batchByDenom bb.batchDenom).map Batch.key = some b.batchKey) : Accepted s where
  classes := hc.classes
  batches b hb := by
    obtain ⟨pr, hpr, hcls⟩ := hc.batches b hb
    simpa [hpr] using hcls
  supplies r hr := by
    obtain ⟨p, hp, ht, hr', -⟩ := hc.supplies r hr
    rw [genesisPrecision_of_batchPrecision hp]
    exact ⟨.inr ht, .inr hr'⟩
  balances b hb := by
    obtain ⟨p, hp, ht, hr, he⟩ := hc.balances b hb
    exact ⟨p, genesisPrecision_of_batchPrecision hp, .inr ht, .inr hr, .inr he⟩
  baskets bb hbb := by
    obtain ⟨_, -, _, -, d, hd⟩ := hc.baskets bb hbb
    obtain ⟨hd, d0, -⟩ := newNonNegativeFixedDecFromString_ok.1 hd
    exact ⟨hheld bb hbb, d, newNonNegativeDecFromString_ok.2 ⟨hd, d0⟩⟩
  together := hc.together
  supplied := hsupplied
  balanced b _ := hc.balanced b.batchKey

/-- Helpers that accept every value, with metadata bounded at 256 bytes. -/
def acceptingValidators : Validators Unit where
  params _ := .ok ()
  address _ := .ok ()
  classId _ := .ok ()
  projectId _ := .ok ()
  batchDenom _ := .ok ()
  jurisdiction _ := .ok ()
  creditType _ := .ok ()
  maxMetadataLength := 256
  timestampString _ := ""

/-- `oneBatchSnapshot` as a genesis document. -/
def oneBatchGenesis : Genesis where
  creditTypes := ⟨[⟨"C", "carbon", "metric ton CO2 equivalent", 2⟩], by decide⟩
  classes := ⟨[⟨1, "C01", "alice", "", "C"⟩], by decide⟩
  classIssuers := ⟨[⟨1, "alice"⟩], by decide⟩
  projects := ⟨[⟨1, "C01-001", "alice", 1, "US", ""⟩], by decide⟩
  batches := ⟨[⟨1, "alice", 1, "C01-001", some year2020.1, some year2020.2⟩], by decide⟩
  denomUnique := by decide
  batchSupplies := oneBatchSnapshot.batchSupplies
  batchBalances := oneBatchSnapshot.batchBalances
  basketBalances := oneBatchSnapshot.basketBalances

theorem oneBatchGenesis_store : oneBatchGenesis.store = oneBatchSnapshot := rfl

/-- `ValidateGenesis` accepts a document with valid params whose rows pass the JSON
    validation, whose imported state is consistent, in which every batch with balance
    records has a supply record and every basket balance's batch has balance records. -/
theorem genesis_complete {Params : Type} (v : Validators Params) {g : Genesis} {params : Params}
    (hp : v.params params = .ok ()) (hj : validateJSON v g = .ok ()) (hc : Consistent g.store)
    (hsupplied : ∀ b ∈ g.store.batchBalances.rows, (g.store.batchSupplies.get b.batchKey).isSome)
    (hheld : ∀ bb ∈ g.store.basketBalances.rows, ∃ b ∈ g.store.batchBalances.rows,
      (g.store.batchByDenom bb.batchDenom).map Batch.key = some b.batchKey) :
    validateGenesisFull v g params = .ok () := by
  simp only [validateGenesisFull, Except.bind_unit_eq_ok]
  exact ⟨hp, hj, validateGenesis_of_accepted (accepted_of_consistent hc hsupplied hheld)⟩

theorem genesis_complete_oneBatchGenesis :
    acceptingValidators.params () = .ok () ∧ validateJSON acceptingValidators oneBatchGenesis = .ok () ∧
      Consistent oneBatchGenesis.store ∧
      (∀ b ∈ oneBatchGenesis.store.batchBalances.rows, (oneBatchGenesis.store.batchSupplies.get b.batchKey).isSome) ∧
      (∀ bb ∈ oneBatchGenesis.store.basketBalances.rows, ∃ b ∈ oneBatchGenesis.store.batchBalances.rows,
        (oneBatchGenesis.store.batchByDenom bb.batchDenom).map Batch.key = some b.batchKey) ∧
      validateGenesisFull acceptingValidators oneBatchGenesis () = .ok () :=
  have hj : validateJSON acceptingValidators oneBatchGenesis = .ok () := rfl
  have hc : Consistent oneBatchGenesis.store := oneBatchGenesis_store ▸ oneBatchSnapshot_consistent
  have h1 : ∀ b ∈ oneBatchGenesis.store.batchBalances.rows,
      (oneBatchGenesis.store.batchSupplies.get b.batchKey).isSome := by
    decide
  have h2 : ∀ bb ∈ oneBatchGenesis.store.basketBalances.rows, ∃ b ∈ oneBatchGenesis.store.batchBalances.rows,
      (oneBatchGenesis.store.batchByDenom bb.batchDenom).map Batch.key = some b.batchKey := fun _ h => by cases h
  ⟨rfl, hj, hc, h1, h2, genesis_complete acceptingValidators rfl hj hc h1 h2⟩

end Ecocredit
