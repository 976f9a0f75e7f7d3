/-
  Ecocredit.State — the ecocredit state store (`api.StateStore`: the `CreditType`,
  `Class`, `Project`, `Batch`, `BatchSupply` and `BatchBalance` tables, and the
  basket module's `BasketBalance` table), the events, and the keeper's monad.

  A record keeps the fields the modelled code reads or writes; amounts are the
  stored strings. A string field a Go struct literal leaves out is `""`, as in Go,
  so `{ batchKey := k, address := a, tradableAmount := t, retiredAmount := r }` is
  a balance whose `escrowedAmount` is empty, exactly the record the keeper writes.

  The keeper runs in `EStateM Err Ctx`: an error keeps the store and the events
  the call has already produced, as a Go handler that returns an error leaves its
  writes in the context it was given.
-/

import Ecocredit.Table

namespace Ecocredit

/-- An account address; the messages carry it decoded (address format is out of scope). -/
abbrev Address := String

structure CreditType where
  abbreviation : String
  precision : Nat
  deriving DecidableEq, Repr

structure Class where
  key : Nat
  creditTypeAbbrev : String
  deriving DecidableEq, Repr

structure Project where
  key : Nat
  classKey : Nat
  deriving DecidableEq, Repr

structure Batch where
  key : Nat
  projectKey : Nat
  denom : String
  deriving DecidableEq, Repr

structure BatchSupply where
  batchKey : Nat
  tradableAmount : String := ""
  retiredAmount : String := ""
  cancelledAmount : String := ""
  deriving DecidableEq, Repr

structure BatchBalance where
  batchKey : Nat
  address : Address
  tradableAmount : String := ""
  retiredAmount : String := ""
  escrowedAmount : String := ""
  deriving DecidableEq, Repr

/-- The primary key of `BatchBalance`: address and batch. -/
def BatchBalance.pk (b : BatchBalance) : Address × Nat := (b.address, b.batchKey)

/-- A balance found by holder and batch is a row of that batch. -/
theorem BatchBalance.mem_of_get {t : Table BatchBalance BatchBalance.pk} {h : Address} {k : Nat} {b : BatchBalance}
    (hg : t.get (h, k) = some b) : b ∈ t.rows ∧ b.batchKey = k :=
  have ⟨hbm, hbk⟩ := Table.get_eq_some.1 hg
  ⟨hbm, congrArg Prod.snd hbk⟩

structure BasketBalance where
  basketId : Nat
  batchDenom : String
  balance : String
  deriving DecidableEq, Repr

def BasketBalance.pk (b : BasketBalance) : Nat × String := (b.basketId, b.batchDenom)

structure Store where
  creditTypes : Table CreditType CreditType.abbreviation
  classes : Table Class Class.key
  projects : Table Project Project.key
  batches : Table Batch Batch.key
  /-- The batch table's unique `denom` index. -/
  denomUnique : (batches.rows.map Batch.denom).Nodup
  batchSupplies : Table BatchSupply BatchSupply.batchKey
  batchBalances : Table BatchBalance BatchBalance.pk
  basketBalances : Table BasketBalance BasketBalance.pk

/-- `BatchTable().GetByDenom`. -/
def Store.batchByDenom (s : Store) (denom : String) : Option Batch := s.batches.rows.find? (·.denom = denom)

/-! ## Errors and lookups -/

def ormNotFound : Err := ⟨.ormNotFound, "not found"⟩

/-- A `Get` of the ORM: `NotFound` when the row is absent. -/
def found {α : Type} : Option α → Except Err α
  | some a => .ok a
  | none => .error ormNotFound

/-- Modelled from the spec: `utils.GetCreditTypeFromBatchDenom` (not in the sources),
    the credit type reached from a batch through its project and class (spec §4.2). -/
def getCreditTypeFromBatchDenom (s : Store) (denom : String) : Except Err CreditType := do
  let batch ← found (s.batchByDenom denom)
  let project ← found (s.projects.get batch.projectKey)
  let cls ← found (s.classes.get project.classKey)
  found (s.creditTypes.get cls.creditTypeAbbrev)

/-! ## Events and the keeper's monad -/

inductive Event where
  | transfer (sender recipient : Address) (batchDenom tradableAmount retiredAmount : String)
  | retire (owner : Address) (batchDenom amount jurisdiction : String)
  | cancel (owner : Address) (batchDenom amount reason : String)
  deriving DecidableEq, Repr

/-- The store and the event manager of an SDK context. -/
structure Ctx where
  store : Store
  events : List Event

abbrev KeeperM := EStateM Err Ctx

/-- Return the result of a computation that writes nothing. -/
def liftExcept {α : Type} (x : Except Err α) : KeeperM α := fun ctx =>
  match x with
  | .ok a => .ok a ctx
  | .error e => .error e ctx

def Store.setBalances (s : Store) (t : Table BatchBalance BatchBalance.pk) : Store := { s with batchBalances := t }

def Store.setSupplies (s : Store) (t : Table BatchSupply BatchSupply.batchKey) : Store := { s with batchSupplies := t }

/-- `BatchBalanceTable().Save`. -/
def saveBalance (b : BatchBalance) : KeeperM Unit := fun ctx =>
  .ok () { ctx with store := ctx.store.setBalances (ctx.store.batchBalances.save b) }

/-- `BatchBalanceTable().Update`. -/
def updateBalance (b : BatchBalance) : KeeperM Unit := fun ctx =>
  match ctx.store.batchBalances.update b with
  | some t => .ok () { ctx with store := ctx.store.setBalances t }
  | none => .error ormNotFound ctx

/-- `BatchSupplyTable().Update`. -/
def updateSupply (b : BatchSupply) : KeeperM Unit := fun ctx =>
  match ctx.store.batchSupplies.update b with
  | some t => .ok () { ctx with store := ctx.store.setSupplies t }
  | none => .error ormNotFound ctx

/-- `EventManager().EmitTypedEvent`. -/
def emit (e : Event) : KeeperM Unit := fun ctx => .ok () { ctx with events := ctx.events ++ [e] }

/-! ## Field lemmas -/

@[simp] theorem setBalances_batchBalances (s : Store) (t) : (s.setBalances t).batchBalances = t := rfl
@[simp] theorem setBalances_batchSupplies (s : Store) (t) : (s.setBalances t).batchSupplies = s.batchSupplies := rfl
@[simp] theorem setBalances_batches (s : Store) (t) : (s.setBalances t).batches = s.batches := rfl
@[simp] theorem setBalances_basketBalances (s : Store) (t) : (s.setBalances t).basketBalances = s.basketBalances := rfl
@[simp] theorem setBalances_projects (s : Store) (t) : (s.setBalances t).projects = s.projects := rfl
@[simp] theorem setBalances_classes (s : Store) (t) : (s.setBalances t).classes = s.classes := rfl
@[simp] theorem setBalances_creditTypes (s : Store) (t) : (s.setBalances t).creditTypes = s.creditTypes := rfl
@[simp] theorem setSupplies_batchSupplies (s : Store) (t) : (s.setSupplies t).batchSupplies = t := rfl
@[simp] theorem setSupplies_batchBalances (s : Store) (t) : (s.setSupplies t).batchBalances = s.batchBalances := rfl
@[simp] theorem setSupplies_batches (s : Store) (t) : (s.setSupplies t).batches = s.batches := rfl
@[simp] theorem setSupplies_basketBalances (s : Store) (t) : (s.setSupplies t).basketBalances = s.basketBalances := rfl
@[simp] theorem setSupplies_projects (s : Store) (t) : (s.setSupplies t).projects = s.projects := rfl
@[simp] theorem setSupplies_classes (s : Store) (t) : (s.setSupplies t).classes = s.classes := rfl
@[simp] theorem setSupplies_creditTypes (s : Store) (t) : (s.setSupplies t).creditTypes = s.creditTypes := rfl

@[simp] theorem setBalances_setBalances (s : Store) (t t') : (s.setBalances t).setBalances t' = s.setBalances t' := rfl
@[simp] theorem setSupplies_setSupplies (s : Store) (t t') : (s.setSupplies t).setSupplies t' = s.setSupplies t' := rfl

@[simp] theorem found_eq_ok {α : Type} {o : Option α} {a : α} : found o = .ok a ↔ o = some a := by
  cases o <;> simp [found, ormNotFound]

/-! ## Except -/

@[simp] theorem Except.bind_eq_ok' {ε α β : Type} {x : Except ε α} {f : α → Except ε β} {b : β} :
    x >>= f = .ok b ↔ ∃ a, x = .ok a ∧ f a = .ok b := by
  cases x <;> simp [bind, Except.bind]

/-- Go's `if err := x(); err != nil { return err }` followed by `y`. -/
@[simp] theorem Except.bind_unit_eq_ok {ε β : Type} {x : Except ε Unit} {y : Except ε β} {b : β} :
    (x >>= fun _ => y) = .ok b ↔ x = .ok () ∧ y = .ok b := by
  cases x <;> simp [bind, Except.bind]

@[simp] theorem Except.mapError_eq_ok {ε ε' α : Type} {x : Except ε α} {f : ε → ε'} {a : α} :
    x.mapError f = .ok a ↔ x = .ok a := by
  cases x <;> simp [Except.mapError]

@[simp] theorem Except.pure_eq_ok {ε α : Type} {a b : α} : (pure a : Except ε α) = .ok b ↔ a = b := by
  simp [pure, Except.pure]

theorem Except.forM_eq_ok {ε β : Type} {l : List β} {f : β → Except ε Unit} :
    l.forM f = .ok () ↔ ∀ x ∈ l, f x = .ok () := by
  induction l with
  | nil => simp [pure, Except.pure]
  | cons x xs ih =>
    rw [List.forM_cons']
    cases h : f x <;> simp [bind, Except.bind, h, ih]

/-- Every element a successful left fold meets is met by a step that succeeds. -/
theorem Except.foldlM_step_ok {ε σ β : Type} {f : σ → β → Except ε σ} {l : List β} {m m' : σ}
    (h : l.foldlM f m = .ok m') : ∀ x ∈ l, ∃ a b, f a x = .ok b := by
  induction l generalizing m with
  | nil => simp
  | cons x xs ih =>
    rw [List.foldlM_cons, Except.bind_eq_ok'] at h
    obtain ⟨m1, h1, h2⟩ := h
    rintro y (_ | ⟨_, hy⟩)
    · exact ⟨m, m1, h1⟩
    · exact ih h2 y hy

/-- Two continuations that agree on every value the computation can return give the
    same result. -/
theorem Except.bind_congr_ok {ε α β : Type} {x : Except ε α} {f g : α → Except ε β}
    (h : ∀ a, x = .ok a → f a = g a) : x >>= f = x >>= g := by
  cases x with
  | error e => rfl
  | ok a => exact h a rfl

end Ecocredit
