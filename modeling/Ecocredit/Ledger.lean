/-
  Ecocredit.Ledger — the per-batch accounting the spec's supply invariant is stated
  in (spec §5): what the holders of a batch hold (tradable, retired and escrowed),
  what the baskets hold of it, and the supply declared for it. An absent record and
  an amount that does not parse (the empty string among them) count as zero.
-/

import Ecocredit.Table
import Ecocredit.State

namespace Ecocredit

/-- What balance record `b` holds of batch `k`. -/
def heldOf (k : Nat) (b : BatchBalance) : ℚ :=
  if b.batchKey = k then amount b.tradableAmount + amount b.retiredAmount + amount b.escrowedAmount else 0

/-- What every holder together holds of batch `k`. -/
def Store.held (s : Store) (k : Nat) : ℚ := (s.batchBalances.rows.map (heldOf k)).sum

/-- What basket balance `bb` holds of batch `k`: its balance, when its denom names `k`. -/
def Store.basketOf (s : Store) (k : Nat) (bb : BasketBalance) : ℚ :=
  if (s.batchByDenom bb.batchDenom).map Batch.key = some k then amount bb.balance else 0

def Store.inBaskets (s : Store) (k : Nat) : ℚ := (s.basketBalances.rows.map (s.basketOf k)).sum

/-- What supply record `r` declares: tradable plus retired. -/
def supplyValue (r : BatchSupply) : ℚ := amount r.tradableAmount + amount r.retiredAmount

/-- The supply declared for batch `k`. -/
def Store.declared (s : Store) (k : Nat) : ℚ := ((s.batchSupplies.get k).map supplyValue).getD 0

/-- The precision of batch `k`: its project's class's credit type's (spec §4.2). -/
def Store.batchPrecision (s : Store) (k : Nat) : Option Nat := do
  let batch ← s.batches.get k
  let project ← s.projects.get batch.projectKey
  let cls ← s.classes.get project.classKey
  let ct ← s.creditTypes.get cls.creditTypeAbbrev
  pure ct.precision

@[simp] theorem batchPrecision_setBalances (s : Store) (t) : (s.setBalances t).batchPrecision = s.batchPrecision := rfl

@[simp] theorem batchPrecision_setSupplies (s : Store) (t) : (s.setSupplies t).batchPrecision = s.batchPrecision := rfl

theorem batchByDenom_eq_some {s : Store} {d : String} {b : Batch} :
    s.batchByDenom d = some b ↔ b ∈ s.batches.rows ∧ b.denom = d := by
  constructor
  · intro h
    exact ⟨List.mem_of_find?_eq_some h, by simpa using List.find?_some h⟩
  · rintro ⟨hb, rfl⟩
    cases h : s.batchByDenom b.denom with
    | none => exact absurd (List.find?_eq_none.1 h b hb) (by simp)
    | some b' =>
      have hd : b'.denom = b.denom := by simpa using List.find?_some h
      rw [List.inj_on_of_nodup_map s.denomUnique (List.mem_of_find?_eq_some h) hb hd]

/-- The credit type the keeper finds for a batch is the one its precision comes from. -/
theorem batchPrecision_of_creditType {s : Store} {d : String} {batch : Batch} {ct : CreditType}
    (hb : s.batchByDenom d = some batch) (hct : getCreditTypeFromBatchDenom s batch.denom = .ok ct) :
    s.batchPrecision batch.key = some ct.precision := by
  have hmem := (batchByDenom_eq_some.1 hb).1
  simp only [getCreditTypeFromBatchDenom, Except.bind_eq_ok', found_eq_ok,
    batchByDenom_eq_some.2 ⟨hmem, rfl⟩, Option.some.injEq, exists_eq_left'] at hct
  obtain ⟨pr, hpr, cls, hcls, hct⟩ := hct
  simp [Store.batchPrecision, Table.get_eq_some.2 ⟨hmem, rfl⟩, hpr, hcls, hct]

end Ecocredit
