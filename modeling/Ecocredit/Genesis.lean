/-
  Ecocredit.Genesis — `ValidateGenesis` (genesis.go 35–243) from the credit-type scan
  on, with `calculateSupply` (285–350) and `validateSupply` (352–370).

  The input is the imported store; `params.Validate`, the JSON import and the
  per-row `validateMsg` that run before these scans are `Ecocredit.GenesisImport`'s,
  which also puts the two parts together. Each of the source's loops over a table is a
  fold over the table's rows, through a step function named after what the loop body
  does; the Go maps are `GoMap`s.

  Go iterates a map in random order, so when several entries of `validateSupply`'s
  loop fail, which error comes back is not determined; the model takes insertion
  order. Whether an error comes back at all does not depend on the order.
-/

import Ecocredit.State

namespace Ecocredit

/-! ## Go maps -/

/-- A Go map: a table of pairs keyed by the first component, so `m[k] = v` is a
    `Save` of `(k, v)`. -/
abbrev GoMap (κ V : Type) := Table (κ × V) (Prod.fst : κ × V → κ)

namespace GoMap

variable {κ V : Type} [DecidableEq κ]

def empty : GoMap κ V := ⟨[], List.nodup_nil⟩

/-- `v, ok := m[k]`. -/
def lookup (m : GoMap κ V) (k : κ) : Option V := (m.get k).map Prod.snd

/-- `m[k] = v`. -/
def insert (m : GoMap κ V) (k : κ) (v : V) : GoMap κ V := m.save (k, v)

/-- `len(m)`. -/
def size (m : GoMap κ V) : Nat := m.rows.length

@[simp] theorem lookup_empty (k : κ) : (empty : GoMap κ V).lookup k = none := rfl

theorem lookup_insert (m : GoMap κ V) (k k' : κ) (v : V) :
    (m.insert k v).lookup k' = if k' = k then some v else m.lookup k' := by
  simp only [lookup, insert, Table.get_save]
  split <;> rfl

@[simp] theorem lookup_insert_self (m : GoMap κ V) (k : κ) (v : V) : (m.insert k v).lookup k = some v := by
  simp [lookup_insert]

theorem mem_rows {m : GoMap κ V} {k : κ} {v : V} : (k, v) ∈ m.rows ↔ m.lookup k = some v := by
  simp only [lookup, Option.map_eq_some', Table.get_eq_some]
  constructor
  · intro h; exact ⟨(k, v), ⟨h, rfl⟩, rfl⟩
  · rintro ⟨⟨k', v'⟩, ⟨h, rfl⟩, rfl⟩; exact h

theorem size_eq_zero {m : GoMap κ V} : m.size = 0 ↔ ∀ k, m.lookup k = none := by
  simp only [size, List.length_eq_zero, lookup, Option.map_eq_none', Table.get_eq_none]
  constructor
  · rintro h k; simp [h]
  · intro h
    cases hr : m.rows with
    | nil => rfl
    | cons x xs => exact absurd (List.mem_map_of_mem _ (hr ▸ List.mem_cons_self x xs)) (h x.1)

end GoMap

/-! ## The credit-type, class and project scans -/

/-- `abbrevToPrecision`. -/
def creditTypePrecisions (creditTypes : List CreditType) : GoMap String Nat :=
  creditTypes.foldl (fun m ct => m.insert ct.abbreviation ct.precision) .empty

def creditTypeNotFound (abbreviation : String) : Err :=
  ⟨.notFound, "credit type not exist for " ++ abbreviation ++ " abbreviation"⟩

/-- The class scan: every class's credit type is known. -/
def checkClasses (abbrevToPrecision : GoMap String Nat) (classes : List Class) : Except Err Unit :=
  classes.forM fun cls =>
    if (abbrevToPrecision.lookup cls.creditTypeAbbrev).isSome then .ok () else .error (creditTypeNotFound cls.creditTypeAbbrev)

/-- `projectKeyToClassKey`: the first project seen with a key wins. -/
def projectClassKeys (projects : List Project) : GoMap Nat Nat :=
  projects.foldl (fun m project => if (m.lookup project.key).isSome then m else m.insert project.key project.classKey) .empty

/-! ## The batch scan -/

/-- The two maps the batch scan builds. -/
structure BatchIndex where
  batchIdToPrecision : GoMap Nat Nat
  batchDenomToIdMap : GoMap String Nat

/-- One iteration of the batch scan (genesis.go 135–155). -/
def indexBatch (classes : Table Class Class.key) (abbrevToPrecision : GoMap String Nat)
    (projectKeyToClassKey : GoMap Nat Nat) (idx : BatchIndex) (batch : Batch) : Except Err BatchIndex :=
  let denoms := idx.batchDenomToIdMap.insert batch.denom batch.key
  if (idx.batchIdToPrecision.lookup batch.key).isSome then .ok ⟨idx.batchIdToPrecision, denoms⟩
  else
    let classKey := (projectKeyToClassKey.lookup batch.projectKey).getD 0
    match classes.get classKey with
    | none => .error ormNotFound
    | some cls =>
      if cls.key = classKey then
        .ok ⟨idx.batchIdToPrecision.insert batch.key ((abbrevToPrecision.lookup cls.creditTypeAbbrev).getD 0), denoms⟩
      else .ok ⟨idx.batchIdToPrecision, denoms⟩

/-! ## Supplies, declared and calculated -/

/-- An amount that may be empty: `""` is zero, anything else must parse at the
    precision (the `if x != ""` blocks of genesis.go). -/
def fixedDecOrZero (s : String) (precision : Nat) : Except Err Dec :=
  if s = "" then .ok .zero else newNonNegativeFixedDecFromString s precision

/-- One iteration of the supply scan (genesis.go 166–193). -/
def declareSupply (batchIdToPrecision : GoMap Nat Nat) (batchIdToSupply : GoMap Nat Dec)
    (batchSupply : BatchSupply) : Except Err (GoMap Nat Dec) := do
  let precision := (batchIdToPrecision.lookup batchSupply.batchKey).getD 0
  let tSupply ← fixedDecOrZero batchSupply.tradableAmount precision
  let rSupply ← fixedDecOrZero batchSupply.retiredAmount precision
  let total ← safeAddBalance tSupply rSupply
  pure (batchIdToSupply.insert batchSupply.batchKey total)

def creditTypeNotExist (batchKey : Nat) : Err :=
  ⟨.invalidType, "credit type not exist for " ++ toString batchKey ++ " batch"⟩

/-- One iteration of `calculateSupply`'s loop (genesis.go 292–347). `math.Add` is exact
    and cannot fail on these values. -/
def addBalance (batchIdToPrecision : GoMap Nat Nat) (batchIdToSupply : GoMap Nat Dec)
    (balance : BatchBalance) : Except Err (GoMap Nat Dec) :=
  match batchIdToPrecision.lookup balance.batchKey with
  | none => .error (creditTypeNotExist balance.batchKey)
  | some precision => do
    let tradable ← fixedDecOrZero balance.tradableAmount precision
    let retired ← fixedDecOrZero balance.retiredAmount precision
    let escrowed ← fixedDecOrZero balance.escrowedAmount precision
    let total := (tradable.add retired).add escrowed
    match batchIdToSupply.lookup balance.batchKey with
    | some supply => do
      let result ← safeAddBalance supply total
      pure (batchIdToSupply.insert balance.batchKey result)
    | none => pure (batchIdToSupply.insert balance.batchKey total)

def calculateSupply (batchIdToPrecision : GoMap Nat Nat) (balances : List BatchBalance)
    (batchIdToSupply : GoMap Nat Dec) : Except Err (GoMap Nat Dec) :=
  balances.foldlM (addBalance batchIdToPrecision) batchIdToSupply

def unknownBatchInBasket (batchId : Nat) : Err := ⟨.plain, "unknown credit batch " ++ toString batchId ++ " in basket"⟩

/-- One iteration of the basket-balance scan (genesis.go 211–235). -/
def addBasketBalance (batchDenomToIdMap : GoMap String Nat) (batchIdToCalSupply : GoMap Nat Dec)
    (bBalance : BasketBalance) : Except Err (GoMap Nat Dec) :=
  match batchDenomToIdMap.lookup bBalance.batchDenom with
  | none => .error (unknownBatchInBasket 0)
  | some batchId => do
    let bb ← newNonNegativeDecFromString bBalance.balance
    match batchIdToCalSupply.lookup batchId with
    | some amount => do
      let result ← safeAddBalance amount bb
      pure (batchIdToCalSupply.insert batchId result)
    | none => .error (unknownBatchInBasket batchId)

/-- The check of one calculated entry against the declared supplies. -/
def checkSupply (batchIdToSupply : GoMap Nat Dec) (entry : Nat × Dec) : Except Err Unit :=
  match batchIdToSupply.lookup entry.1 with
  | some s =>
    if s.cmp entry.2 ≠ 0 then
      .error ⟨.invalidCoins, "supply is incorrect for " ++ toString entry.1 ++ " credit batch, expected " ++
        s.string ++ ", got " ++ entry.2.string⟩
    else .ok ()
  | none => .error ⟨.notFound, "supply is not found for " ++ toString entry.1 ++ " credit batch"⟩

def validateSupply (batchIdToSupplyCal batchIdToSupply : GoMap Nat Dec) : Except Err Unit :=
  if batchIdToSupplyCal.size = 0 ∧ batchIdToSupply.size > 0 then
    .error ⟨.invalidRequest, "batch supply was given but no balances were found"⟩
  else if batchIdToSupply.size = 0 ∧ batchIdToSupplyCal.size > 0 then
    .error ⟨.invalidRequest, "batch balances were given but no supplies were found"⟩
  else batchIdToSupplyCal.rows.forM (checkSupply batchIdToSupply)

/-! ## The validator -/

def validateGenesis (s : Store) : Except Err Unit := do
  let abbrevToPrecision := creditTypePrecisions s.creditTypes.rows
  checkClasses abbrevToPrecision s.classes.rows
  let projectKeyToClassKey := projectClassKeys s.projects.rows
  let idx ← s.batches.rows.foldlM (indexBatch s.classes abbrevToPrecision projectKeyToClassKey) ⟨.empty, .empty⟩
  let batchIdToSupply ← s.batchSupplies.rows.foldlM (declareSupply idx.batchIdToPrecision) .empty
  let batchIdToCalSupply ← calculateSupply idx.batchIdToPrecision s.batchBalances.rows .empty
  let batchIdToCalSupply ← s.basketBalances.rows.foldlM (addBasketBalance idx.batchDenomToIdMap) batchIdToCalSupply
  validateSupply batchIdToCalSupply batchIdToSupply

end Ecocredit
