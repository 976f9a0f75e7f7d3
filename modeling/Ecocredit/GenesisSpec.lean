/-
  Ecocredit.GenesisSpec — what each scan of `ValidateGenesis` computes, said once,
  in both directions: what a scan that succeeds leaves in its map (`_sound`), and
  when a scan succeeds (`_ok`).

  - The credit-type, project and batch scans index the store's tables: a map built
    by last-write-wins over rows with unique keys is the table's own lookup
    (`lookup_foldl_insert`); the project scan's first-write-wins is too
    (`lookup_foldl_insertNew`).
  - The supply scan maps every batch key to its declared supply (`supplyScan_sound`).
  - `calculateSupply` adds to each key what the balance records of that key hold
    (`calculateSupply_sound`), and the basket scan adds what the baskets hold
    without adding keys (`basketScan_sound`). From a starting map with no negative
    value at a key the records name it succeeds on every list of parseable records
    (`calculateSupply_sums`); a negative starting value there is rejected by
    `SafeAddBalance` (`calculateSupply_rejects_negative_start`). `ValidateGenesis`
    starts it from the empty map.
  - `validateSupply_ok`: the final check passes exactly when the two maps are both
    empty or both not, and every calculated key has an equal declared supply.
-/

import Ecocredit.GenesisImport
import Ecocredit.Ledger

namespace Ecocredit

/-! ## Map scans -/

namespace GoMap

variable {α κ V : Type} [DecidableEq κ]

/-- Last write wins; over rows with unique keys, that is the row with the key. -/
theorem lookup_foldl_insert (key : α → κ) (val : α → V) {l : List α} (hl : (l.map key).Nodup)
    (m : GoMap κ V) (k : κ) :
    (l.foldl (fun m x => m.insert (key x) (val x)) m).lookup k = ((l.find? (key · = k)).map val).or (m.lookup k) := by
  induction l generalizing m with
  | nil => rfl
  | cons x xs ih =>
    rw [List.map_cons, List.nodup_cons] at hl
    rw [List.foldl_cons, ih hl.2, lookup_insert, List.find?_cons]
    by_cases e : key x = k
    · have : xs.find? (key · = k) = none :=
        List.find?_eq_none.2 fun y hy e' => hl.1 (by rw [e, ← of_decide_eq_true e']; exact List.mem_map_of_mem key hy)
      simp [e, this]
    · simp [e, Ne.symm e]

/-- First write wins. -/
theorem lookup_foldl_insertNew (key : α → κ) (val : α → V) (l : List α) (m : GoMap κ V) (k : κ) :
    (l.foldl (fun m x => if (m.lookup (key x)).isSome then m else m.insert (key x) (val x)) m).lookup k =
      (m.lookup k).or ((l.find? (key · = k)).map val) := by
  induction l generalizing m with
  | nil => simp
  | cons x xs ih =>
    rw [List.foldl_cons, ih, List.find?_cons]
    by_cases e : key x = k
    · subst e
      cases h : m.lookup (key x) <;> simp [h]
    · split <;> simp [lookup_insert, Ne.symm e, e]

end GoMap

theorem creditTypePrecisions_lookup (s : Store) (a : String) :
    (creditTypePrecisions s.creditTypes.rows).lookup a = (s.creditTypes.get a).map CreditType.precision := by
  rw [creditTypePrecisions, GoMap.lookup_foldl_insert _ _ s.creditTypes.nodup]
  simp only [GoMap.lookup_empty, Option.or_none]; rfl

theorem projectClassKeys_lookup (s : Store) (k : Nat) :
    (projectClassKeys s.projects.rows).lookup k = (s.projects.get k).map Project.classKey :=
  GoMap.lookup_foldl_insertNew _ _ _ _ k

/-! ## Amounts -/

/-- The value a map holds for a key; zero when absent. -/
def GoMap.valueAt {κ : Type} [DecidableEq κ] (m : GoMap κ Dec) (k : κ) : ℚ := ((m.lookup k).map Dec.val).getD 0

@[simp] theorem GoMap.valueAt_empty {κ : Type} [DecidableEq κ] (k : κ) : (GoMap.empty : GoMap κ Dec).valueAt k = 0 := rfl

/-- Every value in the map is non-negative. -/
def GoMap.NonNeg {κ : Type} [DecidableEq κ] (m : GoMap κ Dec) : Prop := ∀ k d, m.lookup k = some d → 0 ≤ d.val

/-- The value the map holds for `k`, if any, is non-negative. -/
def GoMap.NonNegAt {κ : Type} [DecidableEq κ] (m : GoMap κ Dec) (k : κ) : Prop := ∀ d, m.lookup k = some d → 0 ≤ d.val

/-- An amount `ValidateGenesis` accepts at precision `p`: empty, or parsing at `p`. -/
def fixedDecOrEmpty (p : Nat) (s : String) : Prop := s = "" ∨ fixedDec p s

theorem fixedDecOrZero_sound {s : String} {p : Nat} {d : Dec} (h : fixedDecOrZero s p = .ok d) :
    amount s = d.val ∧ 0 ≤ d.val := by
  unfold fixedDecOrZero at h
  split at h
  · cases h; subst s; simp [amount_empty, Dec.zero, Dec.val]
  · exact ⟨amount_of_fixed h, fixed_nonneg h⟩

theorem fixedDecOrZero_ok {s : String} {p : Nat} (h : fixedDecOrEmpty p s) : ∃ d, fixedDecOrZero s p = .ok d := by
  unfold fixedDecOrZero
  rcases h with rfl | ⟨d, hd⟩
  · exact ⟨_, if_pos rfl⟩
  · by_cases e : s = ""
    · exact ⟨_, if_pos e⟩
    · exact ⟨d, by rw [if_neg e, hd]⟩

theorem valueAt_insert {κ : Type} [DecidableEq κ] (m : GoMap κ Dec) (k k' : κ) (v : Dec) :
    (m.insert k v).valueAt k' = if k' = k then v.val else m.valueAt k' := by
  simp only [GoMap.valueAt, GoMap.lookup_insert]
  split <;> rfl

/-- Writing `m[k] + x` to `k` adds `x` at `k` and nothing elsewhere. -/
theorem valueAt_insert_add {κ : Type} [DecidableEq κ] {m : GoMap κ Dec} {k : κ} {v : Dec} {x : ℚ}
    (hv : v.val = m.valueAt k + x) (k' : κ) : (m.insert k v).valueAt k' = m.valueAt k' + if k = k' then x else 0 := by
  rw [valueAt_insert]
  by_cases hk : k' = k
  · subst hk; simp [hv]
  · simp [hk, Ne.symm hk]

theorem isSome_lookup_insert {κ V : Type} [DecidableEq κ] (m : GoMap κ V) (k k' : κ) (v : V) :
    ((m.insert k v).lookup k').isSome ↔ (m.lookup k').isSome ∨ k = k' := by
  rw [GoMap.lookup_insert]
  by_cases hk : k' = k
  · simp [hk]
  · simp [hk, Ne.symm hk]

theorem GoMap.NonNeg.insert {κ : Type} [DecidableEq κ] {m : GoMap κ Dec} (hm : m.NonNeg) {k : κ} {v : Dec}
    (hv : 0 ≤ v.val) : (m.insert k v).NonNeg := by
  intro k' d h
  rw [GoMap.lookup_insert] at h
  split at h
  · cases h; exact hv
  · exact hm k' d h

theorem GoMap.NonNegAt.insert {κ : Type} [DecidableEq κ] {m : GoMap κ Dec} {k : κ} (hk : m.NonNegAt k) (k' : κ)
    {v : Dec} (hv : 0 ≤ v.val) : (m.insert k' v).NonNegAt k := by
  intro d h
  rw [GoMap.lookup_insert] at h
  split at h
  · cases h; exact hv
  · exact hk d h

theorem GoMap.nonNeg_empty {κ : Type} [DecidableEq κ] : (GoMap.empty : GoMap κ Dec).NonNeg := fun _ _ h => by cases h

/-! ## `calculateSupply` -/

theorem addBalance_sound {P : GoMap Nat Nat} {m m' : GoMap Nat Dec} {b : BatchBalance}
    (h : addBalance P m b = .ok m') :
    (∀ k, m'.valueAt k = m.valueAt k + heldOf k b) ∧
      (∀ k, (m'.lookup k).isSome ↔ (m.lookup k).isSome ∨ b.batchKey = k) ∧ ∀ k, m.NonNegAt k → m'.NonNegAt k := by
  unfold addBalance at h
  split at h
  · cases h
  simp only [Except.bind_eq_ok'] at h
  obtain ⟨t, ht, r, hr, e, he, h⟩ := h
  obtain ⟨at', t0⟩ := fixedDecOrZero_sound ht
  obtain ⟨ar, r0⟩ := fixedDecOrZero_sound hr
  obtain ⟨ae, e0⟩ := fixedDecOrZero_sound he
  have tot0 : 0 ≤ ((t.add r).add e).val := by simp only [Dec.val_add]; positivity
  have : ∃ v, m' = m.insert b.batchKey v ∧ v.val = m.valueAt b.batchKey + ((t.add r).add e).val ∧ 0 ≤ v.val := by
    split at h
    · rename_i sup hsup
      simp only [Except.bind_eq_ok', Except.pure_eq_ok] at h
      obtain ⟨res, hres, rfl⟩ := h
      obtain ⟨s0, -, rfl⟩ := safeAddBalance_ok.1 hres
      exact ⟨_, rfl, by simp [GoMap.valueAt, hsup], by rw [Dec.val_add]; linarith⟩
    · rename_i hnone
      rw [Except.pure_eq_ok] at h
      exact ⟨_, h.symm, by simp [GoMap.valueAt, hnone], tot0⟩
  obtain ⟨v, rfl, hv, hv0⟩ := this
  refine ⟨fun k => ?_, fun k => isSome_lookup_insert m b.batchKey k v, fun k hk => hk.insert _ hv0⟩
  rw [valueAt_insert_add hv, heldOf]
  simp only [at', ar, ae, Dec.val_add]

theorem addBalance_ok {P : GoMap Nat Nat} {m : GoMap Nat Dec} {b : BatchBalance} (hm : m.NonNegAt b.batchKey) {p : Nat}
    (hp : P.lookup b.batchKey = some p) (ht : fixedDecOrEmpty p b.tradableAmount)
    (hr : fixedDecOrEmpty p b.retiredAmount) (he : fixedDecOrEmpty p b.escrowedAmount) :
    ∃ m', addBalance P m b = .ok m' := by
  obtain ⟨t, ht⟩ := fixedDecOrZero_ok ht
  obtain ⟨r, hr⟩ := fixedDecOrZero_ok hr
  obtain ⟨e, he⟩ := fixedDecOrZero_ok he
  have tot0 : 0 ≤ ((t.add r).add e).val := by
    simp only [Dec.val_add]
    linarith [(fixedDecOrZero_sound ht).2, (fixedDecOrZero_sound hr).2, (fixedDecOrZero_sound he).2]
  cases hs : m.lookup b.batchKey with
  | none => exact ⟨_, by simp only [addBalance, hp, ht, hr, he, hs, bind, Except.bind]; rfl⟩
  | some sup =>
    have := safeAddBalance_ok.2 ⟨hm _ hs, tot0, rfl⟩
    exact ⟨_, by simp only [addBalance, hp, ht, hr, he, hs, bind, Except.bind, this]; rfl⟩

theorem calculateSupply_sound {P : GoMap Nat Nat} {l : List BatchBalance} {m m' : GoMap Nat Dec}
    (h : calculateSupply P l m = .ok m') :
    (∀ k, m'.valueAt k = m.valueAt k + (l.map (heldOf k)).sum) ∧
      (∀ k, (m'.lookup k).isSome ↔ (m.lookup k).isSome ∨ ∃ b ∈ l, b.batchKey = k) ∧ (m.NonNeg → m'.NonNeg) := by
  induction l generalizing m with
  | nil =>
    cases h
    simp
  | cons b bs ih =>
    rw [calculateSupply, List.foldlM_cons, Except.bind_eq_ok'] at h
    obtain ⟨m1, h1, h2⟩ := h
    obtain ⟨v1, k1, n1⟩ := addBalance_sound h1
    obtain ⟨v2, k2, n2⟩ := ih h2
    refine ⟨fun k => ?_, fun k => ?_, fun hm => n2 fun k => n1 k (hm k)⟩
    · rw [v2, v1, List.map_cons, List.sum_cons, add_assoc]
    · rw [k2, k1, List.exists_mem_cons_iff, or_assoc]

theorem calculateSupply_ok {P : GoMap Nat Nat} {l : List BatchBalance} {m : GoMap Nat Dec}
    (hm : ∀ b ∈ l, m.NonNegAt b.batchKey)
    (hl : ∀ b ∈ l, ∃ p, P.lookup b.batchKey = some p ∧ fixedDecOrEmpty p b.tradableAmount ∧
      fixedDecOrEmpty p b.retiredAmount ∧ fixedDecOrEmpty p b.escrowedAmount) :
    ∃ m', calculateSupply P l m = .ok m' := by
  induction l generalizing m with
  | nil => exact ⟨m, rfl⟩
  | cons b bs ih =>
    obtain ⟨p, hp, ht, hr, he⟩ := hl b (List.mem_cons_self b bs)
    obtain ⟨m1, h1⟩ := addBalance_ok (hm b (List.mem_cons_self b bs)) hp ht hr he
    obtain ⟨m', h'⟩ := ih (fun b' hb' => (addBalance_sound h1).2.2 _ (hm b' (List.mem_cons_of_mem _ hb')))
      fun b hb => hl b (List.mem_cons_of_mem _ hb)
    exact ⟨m', by rw [calculateSupply, List.foldlM_cons, h1]; exact h'⟩

/-- From a starting map with no negative value at a key some record names, over balance
    records whose batch has a precision and whose amounts are empty or parse at it, the
    scan succeeds, adds at each key what that key's records hold, and adds exactly the
    keys of the records. -/
theorem calculateSupply_sums {P : GoMap Nat Nat} {l : List BatchBalance} {m0 : GoMap Nat Dec}
    (hm : ∀ b ∈ l, m0.NonNegAt b.batchKey)
    (hl : ∀ b ∈ l, ∃ p, P.lookup b.batchKey = some p ∧ fixedDecOrEmpty p b.tradableAmount ∧
      fixedDecOrEmpty p b.retiredAmount ∧ fixedDecOrEmpty p b.escrowedAmount) :
    ∃ m, calculateSupply P l m0 = .ok m ∧ ∀ k, m.valueAt k = m0.valueAt k + (l.map (heldOf k)).sum ∧
      ((m.lookup k).isSome ↔ (m0.lookup k).isSome ∨ ∃ b ∈ l, b.batchKey = k) := by
  obtain ⟨m, h⟩ := calculateSupply_ok hm hl
  obtain ⟨hv, hk, -⟩ := calculateSupply_sound h
  exact ⟨m, h, fun k => ⟨hv k, hk k⟩⟩

/-- Batch 1 at precision 2. -/
def batchOnePrecision : GoMap Nat Nat := GoMap.empty.insert 1 2

/-- Two holders of batch 1: alice with tradable credits, bob with retired ones. -/
def twoHolderBalances : List BatchBalance := [⟨1, "alice", "1.5", "", ""⟩, ⟨1, "bob", "", "2", ""⟩]

/-- A starting map holding 3 for batch 1, which the records name, and -1 for batch 2,
    which none does. -/
def batchOneTwoStart : GoMap Nat Dec := (GoMap.empty.insert 1 ⟨3, 0⟩).insert 2 ⟨-1, 0⟩

theorem calculateSupply_sums_twoHolderBalances :
    (∀ b ∈ twoHolderBalances, batchOneTwoStart.NonNegAt b.batchKey) ∧
      (∀ b ∈ twoHolderBalances, ∃ p, batchOnePrecision.lookup b.batchKey = some p ∧
        fixedDecOrEmpty p b.tradableAmount ∧ fixedDecOrEmpty p b.retiredAmount ∧ fixedDecOrEmpty p b.escrowedAmount) ∧
      ∃ m, calculateSupply batchOnePrecision twoHolderBalances batchOneTwoStart = .ok m ∧
        ∀ k, m.valueAt k = batchOneTwoStart.valueAt k + (twoHolderBalances.map (heldOf k)).sum ∧
          ((m.lookup k).isSome ↔ (batchOneTwoStart.lookup k).isSome ∨ ∃ b ∈ twoHolderBalances, b.batchKey = k) :=
  have hm : ∀ b ∈ twoHolderBalances, batchOneTwoStart.NonNegAt b.batchKey := fun b hb => by
    rcases List.mem_pair.1 hb with rfl | rfl <;>
      exact fun d hd => by cases hd; norm_num [Dec.val]
  have hl : ∀ b ∈ twoHolderBalances, ∃ p, batchOnePrecision.lookup b.batchKey = some p ∧
      fixedDecOrEmpty p b.tradableAmount ∧ fixedDecOrEmpty p b.retiredAmount ∧
      fixedDecOrEmpty p b.escrowedAmount := fun b hb => by
    rcases List.mem_pair.1 hb with rfl | rfl
    · exact ⟨2, rfl, .inr ⟨_, rfl⟩, .inl rfl, .inl rfl⟩
    · exact ⟨2, rfl, .inl rfl, .inr ⟨_, rfl⟩, .inl rfl⟩
  ⟨hm, hl, calculateSupply_sums hm hl⟩

/-- Without the non-negative start the scan can fail: a starting value of -1 for
    batch 1, and one record of batch 1 whose amounts parse at its precision, make
    `SafeAddBalance` reject the sum. -/
theorem calculateSupply_rejects_negative_start :
    (∀ b ∈ [(⟨1, "alice", "1", "", ""⟩ : BatchBalance)], ∃ p, batchOnePrecision.lookup b.batchKey = some p ∧
      fixedDecOrEmpty p b.tradableAmount ∧ fixedDecOrEmpty p b.retiredAmount ∧ fixedDecOrEmpty p b.escrowedAmount) ∧
      calculateSupply batchOnePrecision [⟨1, "alice", "1", "", ""⟩] (GoMap.empty.insert 1 ⟨-1, 0⟩) =
        .error ⟨.invalidAmount, "AddBalance() requires two non-negative Dec parameters"⟩ :=
  ⟨fun b hb => by
    rcases List.mem_singleton.1 hb with rfl
    exact ⟨2, rfl, .inr ⟨_, rfl⟩, .inl rfl, .inl rfl⟩, rfl⟩

/-! ## The basket scan -/

theorem addBasketBalance_sound {D : GoMap String Nat} {m m' : GoMap Nat Dec} {bb : BasketBalance}
    (h : addBasketBalance D m bb = .ok m') :
    (∃ k, D.lookup bb.batchDenom = some k ∧ (m.lookup k).isSome) ∧
      (∀ k, m'.valueAt k = m.valueAt k + if D.lookup bb.batchDenom = some k then amount bb.balance else 0) ∧
      (∀ k, (m'.lookup k).isSome ↔ (m.lookup k).isSome) ∧ (m.NonNeg → m'.NonNeg) := by
  unfold addBasketBalance at h
  split at h
  · cases h
  rename_i k hk
  simp only [Except.bind_eq_ok'] at h
  obtain ⟨d, hd, h⟩ := h
  obtain ⟨hd, d0⟩ := newNonNegativeDecFromString_ok.1 hd
  split at h
  · rename_i sup hsup
    simp only [Except.bind_eq_ok', Except.pure_eq_ok] at h
    obtain ⟨res, hres, rfl⟩ := h
    obtain ⟨s0, -, rfl⟩ := safeAddBalance_ok.1 hres
    refine ⟨⟨k, hk, by simp [hsup]⟩, fun k' => ?_, fun k' => ?_, fun hm => hm.insert (by rw [Dec.val_add]; linarith)⟩
    · have hv : (sup.add d).val = m.valueAt k + d.val := by simp [GoMap.valueAt, hsup]
      rw [valueAt_insert_add hv, hk, amount_of_ok hd]
      simp
    · rw [isSome_lookup_insert]
      constructor
      · rintro (h | rfl)
        · exact h
        · simp [hsup]
      · exact .inl
  · cases h

theorem addBasketBalance_ok {D : GoMap String Nat} {m : GoMap Nat Dec} {bb : BasketBalance} (hm : m.NonNeg)
    {k : Nat} (hk : D.lookup bb.batchDenom = some k) (hmk : (m.lookup k).isSome)
    {d : Dec} (hd : newNonNegativeDecFromString bb.balance = .ok d) :
    ∃ m', addBasketBalance D m bb = .ok m' := by
  obtain ⟨sup, hsup⟩ := Option.isSome_iff_exists.1 hmk
  have := safeAddBalance_ok.2 ⟨hm _ _ hsup, (newNonNegativeDecFromString_ok.1 hd).2, rfl⟩
  exact ⟨_, by simp only [addBasketBalance, hk, hd, hsup, this, bind, Except.bind]; rfl⟩

/-- The basket scan adds what each basket balance holds to its batch's calculated
    supply, and fails on a basket balance whose batch has none. -/
theorem basketScan_sound {D : GoMap String Nat} {l : List BasketBalance} {m m' : GoMap Nat Dec}
    (h : l.foldlM (addBasketBalance D) m = .ok m') :
    (∀ bb ∈ l, ∃ k, D.lookup bb.batchDenom = some k ∧ (m.lookup k).isSome) ∧
      (∀ k, m'.valueAt k = m.valueAt k +
        (l.map fun bb => if D.lookup bb.batchDenom = some k then amount bb.balance else 0).sum) ∧
      (∀ k, (m'.lookup k).isSome ↔ (m.lookup k).isSome) ∧ (m.NonNeg → m'.NonNeg) := by
  induction l generalizing m with
  | nil =>
    cases h
    simp
  | cons bb bbs ih =>
    rw [List.foldlM_cons, Except.bind_eq_ok'] at h
    obtain ⟨m1, h1, h2⟩ := h
    obtain ⟨c1, v1, k1, n1⟩ := addBasketBalance_sound h1
    obtain ⟨c2, v2, k2, n2⟩ := ih h2
    refine ⟨?_, fun k => ?_, fun k => (k2 k).trans (k1 k), fun hm => n2 (n1 hm)⟩
    · rintro b (_ | ⟨_, hb⟩)
      · exact c1
      · obtain ⟨k, hk, hs⟩ := c2 b hb
        exact ⟨k, hk, (k1 k).1 hs⟩
    · rw [v2, v1, List.map_cons, List.sum_cons, add_assoc]

theorem basketScan_ok {D : GoMap String Nat} {l : List BasketBalance} {m : GoMap Nat Dec} (hm : m.NonNeg)
    (hl : ∀ bb ∈ l, (∃ k, D.lookup bb.batchDenom = some k ∧ (m.lookup k).isSome) ∧
      ∃ d, newNonNegativeDecFromString bb.balance = .ok d) :
    ∃ m', l.foldlM (addBasketBalance D) m = .ok m' := by
  induction l generalizing m with
  | nil => exact ⟨m, rfl⟩
  | cons bb bbs ih =>
    obtain ⟨⟨k, hk, hmk⟩, d, hd⟩ := hl bb (List.mem_cons_self bb bbs)
    obtain ⟨m1, h1⟩ := addBasketBalance_ok hm hk hmk hd
    obtain ⟨-, -, k1, n1⟩ := addBasketBalance_sound h1
    obtain ⟨m', h'⟩ := ih (n1 hm) fun b hb => by
      obtain ⟨⟨k, hk, hs⟩, hd⟩ := hl b (List.mem_cons_of_mem _ hb)
      exact ⟨⟨k, hk, (k1 k).2 hs⟩, hd⟩
    exact ⟨m', by rw [List.foldlM_cons, h1]; exact h'⟩

/-! ## The supply scan -/

theorem declareSupply_sound {P : GoMap Nat Nat} {m m' : GoMap Nat Dec} {r : BatchSupply}
    (h : declareSupply P m r = .ok m') : ∃ v, m' = m.insert r.batchKey v ∧ v.val = supplyValue r := by
  simp only [declareSupply, Except.bind_eq_ok', Except.pure_eq_ok] at h
  obtain ⟨t, ht, x, hx, v, hv, rfl⟩ := h
  obtain ⟨-, -, rfl⟩ := safeAddBalance_ok.1 hv
  exact ⟨_, rfl, by simp [supplyValue, (fixedDecOrZero_sound ht).1, (fixedDecOrZero_sound hx).1]⟩

theorem declareSupply_ok {P : GoMap Nat Nat} {m : GoMap Nat Dec} {r : BatchSupply} {p : Nat}
    (hp : (P.lookup r.batchKey).getD 0 = p) (ht : fixedDecOrEmpty p r.tradableAmount)
    (hr : fixedDecOrEmpty p r.retiredAmount) : ∃ m', declareSupply P m r = .ok m' := by
  subst hp
  obtain ⟨t, ht⟩ := fixedDecOrZero_ok ht
  obtain ⟨x, hx⟩ := fixedDecOrZero_ok hr
  have := safeAddBalance_ok.2 ⟨(fixedDecOrZero_sound ht).2, (fixedDecOrZero_sound hx).2, rfl⟩
  exact ⟨_, by simp only [declareSupply, ht, hx, this, bind, Except.bind]; rfl⟩

/-- Over records with unique keys, the supply scan maps each key to what its record
    declares. -/
theorem supplyScan_sound {P : GoMap Nat Nat} {l : List BatchSupply} (hl : (l.map BatchSupply.batchKey).Nodup)
    {m m' : GoMap Nat Dec} (h : l.foldlM (declareSupply P) m = .ok m') (k : Nat) :
    (m'.lookup k).map Dec.val = ((l.find? (·.batchKey = k)).map supplyValue).or ((m.lookup k).map Dec.val) := by
  induction l generalizing m with
  | nil =>
    cases h
    simp
  | cons r rs ih =>
    rw [List.map_cons, List.nodup_cons] at hl
    rw [List.foldlM_cons, Except.bind_eq_ok'] at h
    obtain ⟨m1, h1, h2⟩ := h
    obtain ⟨v, rfl, hv⟩ := declareSupply_sound h1
    rw [ih hl.2 h2, GoMap.lookup_insert, List.find?_cons]
    by_cases e : r.batchKey = k
    · have : rs.find? (·.batchKey = k) = none :=
        List.find?_eq_none.2 fun y hy e' => hl.1 (by rw [e, ← of_decide_eq_true e']; exact List.mem_map_of_mem _ hy)
      simp [e, this, hv]
    · simp [e, Ne.symm e]

theorem supplyScan_ok {P : GoMap Nat Nat} {l : List BatchSupply} {m : GoMap Nat Dec}
    (hl : ∀ r ∈ l, ∃ p, (P.lookup r.batchKey).getD 0 = p ∧ fixedDecOrEmpty p r.tradableAmount ∧
      fixedDecOrEmpty p r.retiredAmount) :
    ∃ m', l.foldlM (declareSupply P) m = .ok m' := by
  induction l generalizing m with
  | nil => exact ⟨m, rfl⟩
  | cons r rs ih =>
    obtain ⟨p, hp, ht, hr⟩ := hl r (List.mem_cons_self r rs)
    obtain ⟨m1, h1⟩ := declareSupply_ok hp ht hr
    obtain ⟨m', h'⟩ := @ih m1 fun r hr => hl r (List.mem_cons_of_mem _ hr)
    exact ⟨m', by rw [List.foldlM_cons, h1]; exact h'⟩

/-! ## The final check -/

theorem checkSupply_ok {S : GoMap Nat Dec} {k : Nat} {cs : Dec} :
    checkSupply S (k, cs) = .ok () ↔ ∃ sv, S.lookup k = some sv ∧ sv.val = cs.val := by
  unfold checkSupply
  cases S.lookup k with
  | none => simp
  | some sv =>
    by_cases h : sv.cmp cs = 0
    · simp [h, (Dec.cmp_eq_zero sv cs).1 h]
    · simp [h, mt (Dec.cmp_eq_zero sv cs).2 h]

theorem validateSupply_ok {cal S : GoMap Nat Dec} :
    validateSupply cal S = .ok () ↔
      (cal.size = 0 ↔ S.size = 0) ∧ ∀ k cs, cal.lookup k = some cs → ∃ sv, S.lookup k = some sv ∧ sv.val = cs.val := by
  have hrows : cal.rows.forM (checkSupply S) = .ok () ↔
      ∀ k cs, cal.lookup k = some cs → ∃ sv, S.lookup k = some sv ∧ sv.val = cs.val := by
    rw [Except.forM_eq_ok]
    exact ⟨fun h k cs hk => checkSupply_ok.1 (h _ (GoMap.mem_rows.2 hk)),
      fun h ⟨k, cs⟩ hk => checkSupply_ok.2 (h k cs (GoMap.mem_rows.1 hk))⟩
  unfold validateSupply
  split_ifs with h1 h2
  · simp only [reduceCtorEq, false_iff, not_and]; omega
  · simp only [reduceCtorEq, false_iff, not_and]; omega
  · rw [hrows]
    exact ⟨fun h => ⟨by omega, h⟩, fun h => h.2⟩

/-! ## The batch scan -/

section BatchScan

variable {classes : Table Class Class.key} {abbrevToPrecision : GoMap String Nat} {projectKeyToClassKey : GoMap Nat Nat}

theorem indexBatch_denoms {idx idx' : BatchIndex} {b : Batch}
    (h : indexBatch classes abbrevToPrecision projectKeyToClassKey idx b = .ok idx') :
    idx'.batchDenomToIdMap = idx.batchDenomToIdMap.insert b.denom b.key := by
  unfold indexBatch at h
  dsimp only at h
  split at h
  · cases h; rfl
  · split at h
    · cases h
    · split at h <;> (cases h; rfl)

theorem batchScan_denoms {l : List Batch} {idx idx' : BatchIndex}
    (h : l.foldlM (indexBatch classes abbrevToPrecision projectKeyToClassKey) idx = .ok idx') :
    idx'.batchDenomToIdMap = l.foldl (fun m b => m.insert b.denom b.key) idx.batchDenomToIdMap := by
  induction l generalizing idx with
  | nil => cases h; rfl
  | cons b bs ih =>
    rw [List.foldlM_cons, Except.bind_eq_ok'] at h
    obtain ⟨idx1, h1, h2⟩ := h
    rw [ih h2, indexBatch_denoms h1, List.foldl_cons]

theorem indexBatch_fresh {idx : BatchIndex} {b : Batch} {cls : Class}
    (hfresh : idx.batchIdToPrecision.lookup b.key = none)
    (hcls : classes.get ((projectKeyToClassKey.lookup b.projectKey).getD 0) = some cls) :
    indexBatch classes abbrevToPrecision projectKeyToClassKey idx b =
      .ok ⟨idx.batchIdToPrecision.insert b.key ((abbrevToPrecision.lookup cls.creditTypeAbbrev).getD 0),
        idx.batchDenomToIdMap.insert b.denom b.key⟩ := by
  simp [indexBatch, hfresh, hcls, (Table.get_eq_some.1 hcls).2]

/-- Over batches with unique keys, none indexed yet, whose class lookups succeed, the
    scan succeeds and indexes each batch at its class's credit type's precision. -/
theorem batchScan_ok {l : List Batch} (hl : (l.map Batch.key).Nodup) (idx : BatchIndex)
    (hfresh : ∀ b ∈ l, idx.batchIdToPrecision.lookup b.key = none)
    (hcls : ∀ b ∈ l, ∃ cls, classes.get ((projectKeyToClassKey.lookup b.projectKey).getD 0) = some cls) :
    ∃ idx', l.foldlM (indexBatch classes abbrevToPrecision projectKeyToClassKey) idx = .ok idx' ∧
      (∀ b ∈ l, ∃ cls, classes.get ((projectKeyToClassKey.lookup b.projectKey).getD 0) = some cls ∧
        idx'.batchIdToPrecision.lookup b.key = some ((abbrevToPrecision.lookup cls.creditTypeAbbrev).getD 0)) ∧
      ∀ k, k ∉ l.map Batch.key → idx'.batchIdToPrecision.lookup k = idx.batchIdToPrecision.lookup k := by
  induction l generalizing idx with
  | nil => exact ⟨idx, rfl, by simp, fun _ _ => rfl⟩
  | cons b bs ih =>
    rw [List.map_cons, List.nodup_cons] at hl
    obtain ⟨cls, hc⟩ := hcls b (List.mem_cons_self b bs)
    obtain ⟨idx', h', hprec, hkeep⟩ := ih hl.2
      ⟨idx.batchIdToPrecision.insert b.key ((abbrevToPrecision.lookup cls.creditTypeAbbrev).getD 0),
        idx.batchDenomToIdMap.insert b.denom b.key⟩
      (fun b' hb' => by
        rw [GoMap.lookup_insert, if_neg fun e : b'.key = b.key => hl.1 (e ▸ List.mem_map_of_mem _ hb')]
        exact hfresh b' (List.mem_cons_of_mem _ hb'))
      fun b' hb' => hcls b' (List.mem_cons_of_mem _ hb')
    refine ⟨idx', by rw [List.foldlM_cons, indexBatch_fresh (hfresh b (List.mem_cons_self b bs)) hc]; exact h', ?_, ?_⟩
    · rintro b' (_ | ⟨_, hb'⟩)
      · exact ⟨cls, hc, by rw [hkeep b.key hl.1, GoMap.lookup_insert_self]⟩
      · exact hprec b' hb'
    · intro k hk
      rw [List.map_cons, List.mem_cons, not_or] at hk
      rw [hkeep k hk.2, GoMap.lookup_insert, if_neg hk.1]

end BatchScan

/-- The batch scan maps every denom to the key of the batch with that denom. -/
theorem batchDenomToIdMap_lookup {s : Store} {a : GoMap String Nat} {pc : GoMap Nat Nat} {idx : BatchIndex}
    (h : s.batches.rows.foldlM (indexBatch s.classes a pc) ⟨.empty, .empty⟩ = .ok idx) (d : String) :
    idx.batchDenomToIdMap.lookup d = (s.batchByDenom d).map Batch.key := by
  rw [batchScan_denoms h, GoMap.lookup_foldl_insert _ _ s.denomUnique]
  simp only [GoMap.lookup_empty, Option.or_none]
  rfl

/-- When every batch's project and class resolve, the batch scan succeeds and indexes
    every batch at its precision. -/
theorem batchScan_precision {s : Store}
    (hbatches : ∀ b ∈ s.batches.rows, ∃ pr, s.projects.get b.projectKey = some pr ∧ (s.classes.get pr.classKey).isSome) :
    ∃ idx, s.batches.rows.foldlM (indexBatch s.classes (creditTypePrecisions s.creditTypes.rows)
        (projectClassKeys s.projects.rows)) ⟨.empty, .empty⟩ = .ok idx ∧
      ∀ k p, s.batchPrecision k = some p → idx.batchIdToPrecision.lookup k = some p := by
  have hcls : ∀ b ∈ s.batches.rows,
      ∃ cls, s.classes.get (((projectClassKeys s.projects.rows).lookup b.projectKey).getD 0) = some cls := by
    intro b hb
    obtain ⟨pr, hpr, hc⟩ := hbatches b hb
    rw [projectClassKeys_lookup, hpr]
    exact Option.isSome_iff_exists.1 hc
  obtain ⟨idx, h, hprec, -⟩ := batchScan_ok s.batches.nodup ⟨.empty, .empty⟩ (fun _ _ => rfl) hcls
  refine ⟨idx, h, fun k p hk => ?_⟩
  simp only [Store.batchPrecision, Option.bind_eq_bind, Option.bind_eq_some, Option.pure_def, Option.some.injEq] at hk
  obtain ⟨b, hb, pr, hpr, cls, hc, ct, hct, rfl⟩ := hk
  obtain ⟨hbmem, rfl⟩ := Table.get_eq_some.1 hb
  obtain ⟨cls', hc', hp⟩ := hprec b hbmem
  rw [projectClassKeys_lookup, hpr, Option.map_some', Option.getD_some, hc, Option.some.injEq] at hc'
  subst hc'
  rw [hp, creditTypePrecisions_lookup, hct]
  rfl

theorem checkClasses_ok {abbrevToPrecision : GoMap String Nat} {l : List Class} :
    checkClasses abbrevToPrecision l = .ok () ↔ ∀ cls ∈ l, (abbrevToPrecision.lookup cls.creditTypeAbbrev).isSome := by
  rw [checkClasses, Except.forM_eq_ok]
  refine forall₂_congr fun cls _ => ?_
  split <;> simp [*]

/-- The supply scan of a snapshot maps every batch key to its declared supply. -/
theorem supplyScan_lookup {s : Store} {P : GoMap Nat Nat} {S : GoMap Nat Dec}
    (h : s.batchSupplies.rows.foldlM (declareSupply P) .empty = .ok S) (k : Nat) :
    (S.lookup k).map Dec.val = (s.batchSupplies.get k).map supplyValue := by
  rw [supplyScan_sound s.batchSupplies.nodup h]
  simp only [GoMap.lookup_empty, Option.map_none', Option.or_none]
  rfl

/-! ## A declared supply nobody holds -/

/-- Two batches of one class, both with a declared supply; only the first is held. -/
def unheldSupplySnapshot : Store where
  creditTypes := ⟨[⟨"C", 2⟩], by decide⟩
  classes := ⟨[⟨1, "C"⟩], by decide⟩
  projects := ⟨[⟨1, 1⟩], by decide⟩
  batches := ⟨[⟨1, 1, "C01-001"⟩, ⟨2, 1, "C01-002"⟩], by decide⟩
  denomUnique := by decide
  batchSupplies := ⟨[{ batchKey := 1, tradableAmount := "10" }, { batchKey := 2, tradableAmount := "5" }], by decide⟩
  batchBalances := ⟨[{ batchKey := 1, address := "alice", tradableAmount := "10" }], by decide⟩
  basketBalances := ⟨[], by decide⟩

/-- The validator accepts a snapshot whose second batch declares a supply of 5 that
    nobody holds: `validateSupply` only visits the keys of the calculated supply. -/
theorem genesis_accepts_unheld_supply :
    validateGenesis unheldSupplySnapshot = .ok () ∧
      unheldSupplySnapshot.declared 2 ≠ unheldSupplySnapshot.held 2 + unheldSupplySnapshot.inBaskets 2 := by
  refine ⟨rfl, ?_⟩
  have h5 : amount "5" = 5 := by rw [amount_of_ok (show newDecFromString "5" = .ok ⟨5, 0⟩ from rfl)]; simp [Dec.val]
  simp [Store.declared, Store.held, Store.inBaskets, heldOf, supplyValue, unheldSupplySnapshot, Table.get,
    amount_empty, h5]

/-! ## Consistent states -/

/-- What the spec asks of an imported state (spec §6): every class's credit type and
    every batch's project and class resolve, every amount is a non-negative decimal at
    its batch's precision, balance and supply records are present together, and every
    batch's declared supply is what its holders and the baskets hold. -/
structure Consistent (s : Store) : Prop where
  classes : ∀ cls ∈ s.classes.rows, (s.creditTypes.get cls.creditTypeAbbrev).isSome
  batches : ∀ b ∈ s.batches.rows, ∃ pr, s.projects.get b.projectKey = some pr ∧ (s.classes.get pr.classKey).isSome
  balances : ∀ b ∈ s.batchBalances.rows, ∃ p, s.batchPrecision b.batchKey = some p ∧
    fixedDec p b.tradableAmount ∧ fixedDec p b.retiredAmount ∧ fixedDec p b.escrowedAmount
  supplies : ∀ r ∈ s.batchSupplies.rows, ∃ p, s.batchPrecision r.batchKey = some p ∧
    fixedDec p r.tradableAmount ∧ fixedDec p r.retiredAmount ∧ fixedDec p r.cancelledAmount
  baskets : ∀ bb ∈ s.basketBalances.rows, ∃ b, s.batchByDenom bb.batchDenom = some b ∧
    ∃ p, s.batchPrecision b.key = some p ∧ fixedDec p bb.balance
  together : s.batchBalances.rows = [] ↔ s.batchSupplies.rows = []
  balanced : ∀ k, s.declared k = s.held k + s.inBaskets k

theorem amount_ten : amount "10" = 10 := by
  rw [amount_of_ok (show newDecFromString "10" = .ok ⟨10, 0⟩ from rfl)]; simp [Dec.val]

/-- One batch held by alice, and a second batch in which bob holds a record of zeros
    and for which no supply is declared. -/
def zeroBalanceSnapshot : Store where
  creditTypes := ⟨[⟨"C", 6⟩], by decide⟩
  classes := ⟨[⟨1, "C"⟩], by decide⟩
  projects := ⟨[⟨1, 1⟩], by decide⟩
  batches := ⟨[⟨1, 1, "C01-001-20200101-20210101-001"⟩, ⟨2, 1, "C01-001-20200101-20210101-002"⟩], by decide⟩
  denomUnique := by decide
  batchSupplies := ⟨[⟨1, "10", "0", "0"⟩], by decide⟩
  batchBalances := ⟨[⟨1, "alice", "10", "0", "0"⟩, ⟨2, "bob", "0", "0", "0"⟩], by decide⟩
  basketBalances := ⟨[], by decide⟩

theorem zeroBalanceSnapshot_consistent : Consistent zeroBalanceSnapshot where
  classes := by decide
  batches := by
    intro b hb
    rcases List.mem_pair.1 hb with rfl | rfl <;> exact ⟨_, rfl, rfl⟩
  balances := by
    intro b hb
    rcases List.mem_pair.1 hb with rfl | rfl <;> exact ⟨6, rfl, ⟨_, rfl⟩, ⟨_, rfl⟩, ⟨_, rfl⟩⟩
  supplies := by
    intro r hr
    rcases List.mem_singleton.1 hr with rfl
    exact ⟨6, rfl, ⟨_, rfl⟩, ⟨_, rfl⟩, ⟨_, rfl⟩⟩
  baskets := fun _ h => by cases h
  together := by simp [zeroBalanceSnapshot]
  balanced := by
    intro k
    by_cases hk : k = 1
    · subst hk
      simp [Store.declared, Store.held, Store.inBaskets, heldOf, supplyValue, Table.get, zeroBalanceSnapshot,
        amount_zero, amount_ten]
    · simp [Store.declared, Store.held, Store.inBaskets, heldOf, supplyValue, Table.get, zeroBalanceSnapshot,
        amount_zero, Ne.symm hk]

/-- The first batch's year: 2020-01-01 to 2021-01-01. -/
def year2020 : Timestamp × Timestamp := (⟨1577836800, 0⟩, ⟨1609459200, 0⟩)

/-- `zeroBalanceSnapshot` as a genesis document: a carbon credit type at precision 6,
    class `C01` and project `C01-001` administered by alice, who is also the class's
    issuer and issued both batches for 2020. -/
def zeroBalanceGenesis : Genesis where
  creditTypes := ⟨[⟨"C", "carbon", "metric ton CO2 equivalent", 6⟩], by decide⟩
  classes := ⟨[⟨1, "C01", "alice", "", "C"⟩], by decide⟩
  classIssuers := ⟨[⟨1, "alice"⟩], by decide⟩
  projects := ⟨[⟨1, "C01-001", "alice", 1, "US", ""⟩], by decide⟩
  batches := ⟨[⟨1, "alice", 1, "C01-001-20200101-20210101-001", some year2020.1, some year2020.2⟩,
    ⟨2, "alice", 1, "C01-001-20200101-20210101-002", some year2020.1, some year2020.2⟩], by decide⟩
  denomUnique := by decide
  batchSupplies := zeroBalanceSnapshot.batchSupplies
  batchBalances := zeroBalanceSnapshot.batchBalances
  basketBalances := zeroBalanceSnapshot.basketBalances

theorem zeroBalanceGenesis_store : zeroBalanceGenesis.store = zeroBalanceSnapshot := rfl

/-- Every check genesis.go makes on the rows passes, whatever the metadata bound. -/
theorem zeroBalanceGenesis_fieldsValid (n : Nat) : zeroBalanceGenesis.FieldsValid n where
  classes := by simp [zeroBalanceGenesis, show "".utf8ByteSize = 0 from rfl]
  classIssuers := by simp [zeroBalanceGenesis]
  projects := by simp [zeroBalanceGenesis, show "".utf8ByteSize = 0 from rfl]
  batches := by simp [zeroBalanceGenesis, year2020]

/-- A document with valid params, whose rows pass the JSON validation and whose imported
    state is consistent, that the validator rejects: bob's zero record puts batch 2 into
    the calculated supply, and batch 2 has no supply record. -/
theorem genesis_rejects_unsupplied_zero_balance :
    Consistent zeroBalanceGenesis.store ∧
      ∀ {Params : Type} (v : Validators Params) (params : Params), v.params params = .ok () →
        v.Accepts zeroBalanceGenesis → validateJSON v zeroBalanceGenesis = .ok () ∧
          validateGenesisFull v zeroBalanceGenesis params = .error ⟨.notFound, "supply is not found for 2 credit batch"⟩ :=
  ⟨zeroBalanceGenesis_store ▸ zeroBalanceSnapshot_consistent, fun v _ hp ha =>
    have hj := (validateJSON_ok_iff v).2 ⟨ha, zeroBalanceGenesis_fieldsValid _⟩
    ⟨hj, by rw [validateGenesisFull, hp, hj, zeroBalanceGenesis_store]; rfl⟩⟩

/-- One batch, declared at 10 and held by alice. -/
def oneBatchSnapshot : Store where
  creditTypes := ⟨[⟨"C", 2⟩], by decide⟩
  classes := ⟨[⟨1, "C"⟩], by decide⟩
  projects := ⟨[⟨1, 1⟩], by decide⟩
  batches := ⟨[⟨1, 1, "C01-001"⟩], by decide⟩
  denomUnique := by decide
  batchSupplies := ⟨[⟨1, "10", "0", "0"⟩], by decide⟩
  batchBalances := ⟨[⟨1, "alice", "10", "0", "0"⟩], by decide⟩
  basketBalances := ⟨[], by decide⟩

theorem oneBatchSnapshot_consistent : Consistent oneBatchSnapshot where
  classes := by decide
  batches := fun b hb => by rcases List.mem_singleton.1 hb with rfl; exact ⟨_, rfl, rfl⟩
  balances := fun b hb => by
    rcases List.mem_singleton.1 hb with rfl; exact ⟨2, rfl, ⟨_, rfl⟩, ⟨_, rfl⟩, ⟨_, rfl⟩⟩
  supplies := fun r hr => by
    rcases List.mem_singleton.1 hr with rfl; exact ⟨2, rfl, ⟨_, rfl⟩, ⟨_, rfl⟩, ⟨_, rfl⟩⟩
  baskets := fun _ h => by cases h
  together := by simp [oneBatchSnapshot]
  balanced := by
    intro k
    by_cases hk : k = 1
    · subst hk
      simp [Store.declared, Store.held, Store.inBaskets, heldOf, supplyValue, Table.get, oneBatchSnapshot,
        amount_zero, amount_ten]
    · simp [Store.declared, Store.held, Store.inBaskets, heldOf, supplyValue, Table.get, oneBatchSnapshot, Ne.symm hk]

end Ecocredit
