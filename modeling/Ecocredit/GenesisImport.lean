/-
  Ecocredit.GenesisImport — the part of `ValidateGenesis` (genesis.go 35–74) that runs
  before the state scans: `params.Validate`, the JSON import, and `ValidateJSON`, which
  hands every imported row to `validateMsg` (245–283) and through it to the `Validate`
  methods of `Class`, `ClassIssuer`, `Project` and `Batch` (393–480).

  `ValidateGenesis` receives a document; a `Genesis` is that document as the import
  decodes it into the tables, each row in the `core` form the `Validate` methods take,
  with every field they read. `Genesis.store` is the imported state as the scans from
  line 76 on, and the keeper, read it (`Ecocredit.State` keeps only the fields those
  read); `validateGenesisFull` is the whole function.

  The checks call functions that are not in the repository's sources: `params.Validate`,
  address decoding, `ValidateClassId`, `ValidateProjectId`, `ValidateBatchDenom`,
  `ValidateJurisdiction`, `CreditType.Validate`, the bound `MaxMetadataLength` and the
  printing of a timestamp. They are the fields of `Validators`, and every result here
  holds for every choice of them.

  Proved:
  (1) One `_ok_iff` per `Validate` method: it passes exactly when every check it makes
      passes. The checks split into those the helpers make (`Validators.Accepts`) and
      those genesis.go makes itself (`Genesis.FieldsValid`). A batch passes only when
      its end date is strictly after its start date (`Timestamp.compare_eq_one`), though
      the error text says "the same as or after".
  (2) `validateJSON_ok_iff`: the JSON validation passes exactly when both hold of every
      row of the document.
-/

import Ecocredit.Genesis

namespace Ecocredit

/-! ## The rows of the document -/

/-- `google.protobuf.Timestamp`. -/
structure Timestamp where
  seconds : Int
  nanos : Int
  deriving DecidableEq, Repr

/-- gogoproto's generated `Timestamp.Compare`: by seconds, then by nanoseconds. -/
def Timestamp.compare (t u : Timestamp) : Int :=
  if t.seconds ≠ u.seconds then (if t.seconds < u.seconds then -1 else 1)
  else if t.nanos ≠ u.nanos then (if t.nanos < u.nanos then -1 else 1)
  else 0

/-- `t.Compare(u) == 1` exactly when `t` is strictly later than `u`. -/
theorem Timestamp.compare_eq_one {t u : Timestamp} :
    t.compare u = 1 ↔ u.seconds < t.seconds ∨ u.seconds = t.seconds ∧ u.nanos < t.nanos := by
  unfold Timestamp.compare
  split_ifs <;> simp only [false_iff, true_iff, zero_ne_one, not_or, not_and, not_lt] <;> omega

namespace Core

/-- `core.CreditType`. -/
structure CreditType where
  abbreviation : String
  name : String
  unit : String
  precision : Nat
  deriving DecidableEq, Repr

/-- `core.Class`. -/
structure Class where
  key : Nat
  id : String
  admin : Address
  metadata : String
  creditTypeAbbrev : String
  deriving DecidableEq, Repr

/-- `core.ClassIssuer`. -/
structure ClassIssuer where
  classKey : Nat
  issuer : Address
  deriving DecidableEq, Repr

def ClassIssuer.pk (c : ClassIssuer) : Nat × Address := (c.classKey, c.issuer)

/-- `core.Project`, without `ReferenceId`, which no check reads. -/
structure Project where
  key : Nat
  id : String
  admin : Address
  classKey : Nat
  jurisdiction : String
  metadata : String
  deriving DecidableEq, Repr

/-- `core.Batch`, without `Metadata`, `IssuanceDate` and `Open`, which no check reads. -/
structure Batch where
  key : Nat
  issuer : Address
  projectKey : Nat
  denom : String
  startDate : Option Timestamp
  endDate : Option Timestamp
  deriving DecidableEq, Repr

/-! The `api` rows the scans and the keeper read. -/

def CreditType.toApi (ct : CreditType) : Ecocredit.CreditType := ⟨ct.abbreviation, ct.precision⟩

def Class.toApi (c : Class) : Ecocredit.Class := ⟨c.key, c.creditTypeAbbrev⟩

def Project.toApi (p : Project) : Ecocredit.Project := ⟨p.key, p.classKey⟩

def Batch.toApi (b : Batch) : Ecocredit.Batch := ⟨b.key, b.projectKey, b.denom⟩

end Core

/-- The genesis document, as the JSON import writes it into the tables. -/
structure Genesis where
  creditTypes : Table Core.CreditType Core.CreditType.abbreviation
  classes : Table Core.Class Core.Class.key
  classIssuers : Table Core.ClassIssuer Core.ClassIssuer.pk
  projects : Table Core.Project Core.Project.key
  batches : Table Core.Batch Core.Batch.key
  /-- The batch table's unique `denom` index, which the import enforces. -/
  denomUnique : (batches.rows.map Core.Batch.denom).Nodup
  batchSupplies : Table BatchSupply BatchSupply.batchKey
  batchBalances : Table BatchBalance BatchBalance.pk
  basketBalances : Table BasketBalance BasketBalance.pk

/-- The imported state, as the scans from genesis.go 76 on read it. -/
def Genesis.store (g : Genesis) : Store where
  creditTypes := g.creditTypes.map Core.CreditType.toApi fun _ => rfl
  classes := g.classes.map Core.Class.toApi fun _ => rfl
  projects := g.projects.map Core.Project.toApi fun _ => rfl
  batches := g.batches.map Core.Batch.toApi fun _ => rfl
  denomUnique := by simpa only [Table.map, List.map_map] using g.denomUnique
  batchSupplies := g.batchSupplies
  batchBalances := g.batchBalances
  basketBalances := g.basketBalances

/-- A row as the ORM hands it to the JSON validator. -/
inductive Row where
  | creditType (ct : Core.CreditType)
  | cls (c : Core.Class)
  | classIssuer (c : Core.ClassIssuer)
  | project (p : Core.Project)
  | batch (b : Core.Batch)
  | batchSupply (r : BatchSupply)
  | batchBalance (b : BatchBalance)
  | basketBalance (b : BasketBalance)

/-- Every row of the document, table by table. -/
def Genesis.rows (g : Genesis) : List Row :=
  g.creditTypes.rows.map .creditType ++ g.classes.rows.map .cls ++ g.classIssuers.rows.map .classIssuer ++
    g.projects.rows.map .project ++ g.batches.rows.map .batch ++ g.batchSupplies.rows.map .batchSupply ++
    g.batchBalances.rows.map .batchBalance ++ g.basketBalances.rows.map .basketBalance

/-! ## The checks -/

/-- What `ValidateGenesis` calls outside the repository's sources. -/
structure Validators (Params : Type) where
  /-- `params.Validate()`. -/
  params : Params → Except Err Unit
  /-- `sdk.AccAddressFromBech32(sdk.AccAddress(a).String())`. -/
  address : Address → Except Err Unit
  classId : String → Except Err Unit
  projectId : String → Except Err Unit
  batchDenom : String → Except Err Unit
  jurisdiction : String → Except Err Unit
  /-- `CreditType.Validate()`. -/
  creditType : Core.CreditType → Except Err Unit
  maxMetadataLength : Nat
  /-- `Timestamp.String()`. -/
  timestampString : Timestamp → String

/-- `sdkerrors.Wrap(err, description)`: the code stays, the text gets the prefix. -/
def Err.wrap (description : String) (err : Err) : Err := ⟨err.code, description ++ ": " ++ err.msg⟩

/-- Go's `if cond { return err }`. -/
def failIf (cond : Prop) [Decidable cond] (err : Err) : Except Err Unit := if cond then .error err else .ok ()

@[simp] theorem failIf_eq_ok {cond : Prop} [Decidable cond] {err : Err} : failIf cond err = .ok () ↔ ¬cond := by
  unfold failIf
  split_ifs <;> simp [*]

section Checks

variable {Params : Type} (v : Validators Params)

/-- `Class.Validate` (genesis.go 393–415). -/
def Core.Class.validate (c : Core.Class) : Except Err Unit := do
  failIf (c.metadata.utf8ByteSize > v.maxMetadataLength) ⟨.maxLimit, "credit class metadata"⟩
  (v.address c.admin).mapError (Err.wrap "admin")
  failIf (c.id = "") ⟨.invalidRequest, "class id cannot be empty"⟩
  v.classId c.id
  failIf (c.creditTypeAbbrev = "") ⟨.invalidRequest, "must specify a credit type abbreviation"⟩

/-- `ClassIssuer.Validate` (418–428). -/
def Core.ClassIssuer.validate (c : Core.ClassIssuer) : Except Err Unit := do
  failIf (c.classKey = 0) ⟨.invalidRequest, "class key cannot be zero"⟩
  (v.address c.issuer).mapError (Err.wrap "issuer")

/-- `Project.Validate` (431–453). -/
def Core.Project.validate (p : Core.Project) : Except Err Unit := do
  (v.address p.admin).mapError (Err.wrap "admin")
  failIf (p.classKey = 0) ⟨.invalidRequest, "class key cannot be zero"⟩
  v.jurisdiction p.jurisdiction
  failIf (p.metadata.utf8ByteSize > v.maxMetadataLength) ⟨.maxLimit, "project metadata"⟩
  v.projectId p.id

/-- `Batch.Validate` (456–480). -/
def Core.Batch.validate (b : Core.Batch) : Except Err Unit := do
  v.batchDenom b.denom
  failIf (b.projectKey = 0) ⟨.invalidRequest, "project key cannot be zero"⟩
  let some start := b.startDate | .error ⟨.invalidRequest, "must provide a start date for the credit batch"⟩
  let some stop := b.endDate | .error ⟨.invalidRequest, "must provide an end date for the credit batch"⟩
  failIf (stop.compare start ≠ 1) ⟨.invalidRequest, "the batch end date (" ++ v.timestampString stop ++
    ") must be the same as or after the batch start date (" ++ v.timestampString start ++ ")"⟩
  (v.address b.issuer).mapError (Err.wrap "issuer")

/-- `validateMsg` (245–283): a row of the five checked tables goes to its `Validate`;
    every other row passes. -/
def validateMsg : Row → Except Err Unit
  | .creditType ct => v.creditType ct
  | .cls c => c.validate v
  | .classIssuer c => c.validate v
  | .project p => p.validate v
  | .batch b => b.validate v
  | _ => .ok ()

/-- `ormdb.ValidateJSON` with `validateMsg` as the JSON validator. Which failing row's
    error comes back, and how the ORM wraps it, is the ORM's; the model returns the
    first failing row's error, so it fails exactly when some row fails. -/
def validateJSON (g : Genesis) : Except Err Unit := g.rows.forM (validateMsg v)

/-- `ValidateGenesis(data, params)` (genesis.go 35–243). -/
def validateGenesisFull (g : Genesis) (params : Params) : Except Err Unit := do
  v.params params
  validateJSON v g
  validateGenesis g.store

/-! ## When the checks pass -/

/-- The helpers accept every value the record checks hand them. -/
@[mk_iff] structure Validators.Accepts (g : Genesis) : Prop where
  creditTypes : ∀ ct ∈ g.creditTypes.rows, v.creditType ct = .ok ()
  classes : ∀ c ∈ g.classes.rows, v.address c.admin = .ok () ∧ v.classId c.id = .ok ()
  classIssuers : ∀ c ∈ g.classIssuers.rows, v.address c.issuer = .ok ()
  projects : ∀ p ∈ g.projects.rows,
    v.address p.admin = .ok () ∧ v.jurisdiction p.jurisdiction = .ok () ∧ v.projectId p.id = .ok ()
  batches : ∀ b ∈ g.batches.rows, v.batchDenom b.denom = .ok () ∧ v.address b.issuer = .ok ()

/-- The checks genesis.go makes itself. -/
@[mk_iff] structure Genesis.FieldsValid (maxMetadataLength : Nat) (g : Genesis) : Prop where
  classes : ∀ c ∈ g.classes.rows,
    c.metadata.utf8ByteSize ≤ maxMetadataLength ∧ c.id ≠ "" ∧ c.creditTypeAbbrev ≠ ""
  classIssuers : ∀ c ∈ g.classIssuers.rows, c.classKey ≠ 0
  projects : ∀ p ∈ g.projects.rows, p.classKey ≠ 0 ∧ p.metadata.utf8ByteSize ≤ maxMetadataLength
  batches : ∀ b ∈ g.batches.rows, b.projectKey ≠ 0 ∧ ∃ start stop, b.startDate = some start ∧
    b.endDate = some stop ∧ (start.seconds < stop.seconds ∨ start.seconds = stop.seconds ∧ start.nanos < stop.nanos)

theorem Core.Class.validate_ok_iff {c : Core.Class} : c.validate v = .ok () ↔
    (v.address c.admin = .ok () ∧ v.classId c.id = .ok ()) ∧
      c.metadata.utf8ByteSize ≤ v.maxMetadataLength ∧ c.id ≠ "" ∧ c.creditTypeAbbrev ≠ "" := by
  simp only [Core.Class.validate, Except.bind_unit_eq_ok, failIf_eq_ok, Except.mapError_eq_ok, not_lt]
  tauto

theorem Core.ClassIssuer.validate_ok_iff {c : Core.ClassIssuer} :
    c.validate v = .ok () ↔ v.address c.issuer = .ok () ∧ c.classKey ≠ 0 := by
  simp only [Core.ClassIssuer.validate, Except.bind_unit_eq_ok, failIf_eq_ok, Except.mapError_eq_ok]
  tauto

theorem Core.Project.validate_ok_iff {p : Core.Project} : p.validate v = .ok () ↔
    (v.address p.admin = .ok () ∧ v.jurisdiction p.jurisdiction = .ok () ∧ v.projectId p.id = .ok ()) ∧
      p.classKey ≠ 0 ∧ p.metadata.utf8ByteSize ≤ v.maxMetadataLength := by
  simp only [Core.Project.validate, Except.bind_unit_eq_ok, failIf_eq_ok, Except.mapError_eq_ok, not_lt]
  tauto

theorem Core.Batch.validate_ok_iff {b : Core.Batch} : b.validate v = .ok () ↔
    (v.batchDenom b.denom = .ok () ∧ v.address b.issuer = .ok ()) ∧
      b.projectKey ≠ 0 ∧ ∃ start stop, b.startDate = some start ∧ b.endDate = some stop ∧
        (start.seconds < stop.seconds ∨ start.seconds = stop.seconds ∧ start.nanos < stop.nanos) := by
  rcases b with ⟨_, _, _, _, _ | start, _ | stop⟩ <;>
    simp only [Core.Batch.validate, Except.bind_unit_eq_ok, failIf_eq_ok, Except.mapError_eq_ok, not_not,
      Timestamp.compare_eq_one, reduceCtorEq, and_false, false_and, exists_false, Option.some.injEq, exists_and_left,
      exists_eq_left', exists_eq']
  tauto

/-- The JSON validation passes exactly when the helpers accept every value handed to
    them and every check genesis.go makes itself passes, on every row. -/
theorem validateJSON_ok_iff {g : Genesis} :
    validateJSON v g = .ok () ↔ v.Accepts g ∧ g.FieldsValid v.maxMetadataLength := by
  simp only [validateJSON, Except.forM_eq_ok, Genesis.rows, List.mem_append, List.mem_map, or_imp, forall_and,
    forall_exists_index, and_imp, forall_apply_eq_imp_iff₂, validateMsg, Core.Class.validate_ok_iff,
    Core.ClassIssuer.validate_ok_iff, Core.Project.validate_ok_iff, Core.Batch.validate_ok_iff,
    Validators.accepts_iff, Genesis.fieldsValid_iff, implies_true, and_true, and_assoc]
  tauto


end Checks

end Ecocredit
