/-
  Ecocredit.Keeper — the three balance-mutating message handlers of the core keeper,
  `Send` (send.go), `Retire` (unnamed/part_001) and `Cancel` (cancel.go), and the
  transaction boundary around them.

  Each handler loops over the request's entries. An entry first reads the batch,
  its credit type, the balances and the supply and does all of its arithmetic, and
  only then writes: `sendPlan`, `retirePlan` and `cancelPlan` are those first parts
  (no side effect), the handlers are the plans followed by the writes and events
  exactly as the sources order them. The writes are whole-record `Save`/`Update`s
  built from struct literals that never set `EscrowedAmount`.

  `deliver` is the environment the spec assumes (§1, §5): a message runs on a
  branch of the store that is committed only when the handler returns no error;
  `run` delivers messages one at a time.
-/

import Ecocredit.State

namespace Ecocredit

/-! ## Messages -/

structure SendCredits where
  batchDenom : String
  tradableAmount : String
  retiredAmount : String
  retirementJurisdiction : String
  deriving DecidableEq, Repr

structure MsgSend where
  sender : Address
  recipient : Address
  credits : List SendCredits
  deriving DecidableEq, Repr

structure Credits where
  batchDenom : String
  amount : String
  deriving DecidableEq, Repr

structure MsgRetire where
  owner : Address
  credits : List Credits
  jurisdiction : String
  deriving DecidableEq, Repr

structure MsgCancel where
  owner : Address
  credits : List Credits
  reason : String
  deriving DecidableEq, Repr

inductive Msg where
  | send (m : MsgSend)
  | retire (m : MsgRetire)
  | cancel (m : MsgCancel)
  deriving DecidableEq, Repr

/-- The error an entry raises when its batch denom is unknown. -/
def batchNotFound (denom : String) (err : Err) : Err :=
  ⟨.invalidRequest, "could not get batch with denom " ++ denom ++ ": " ++ err.msg⟩

/-! ## Send -/

/-- What `sendEcocredits` reads and computes before its first write. -/
structure SendPlan where
  batch : Batch
  batchSupply : BatchSupply
  toTradable : Dec
  toRetired : Dec
  fromTradable : Dec
  fromRetired : Dec
  sendAmtRetired : Dec
  supplyTradable : Dec
  supplyRetired : Dec
  didRetire : Bool

/-- `sendEcocredits` up to its first write (send.go 48–122). -/
def sendPlan (s : Store) (credit : SendCredits) (toAddr fromAddr : Address) : Except Err SendPlan := do
  let batch ← (found (s.batchByDenom credit.batchDenom)).mapError (batchNotFound credit.batchDenom)
  let creditType ← getCreditTypeFromBatchDenom s batch.denom
  let precision := creditType.precision
  let batchSupply ← found (s.batchSupplies.get batch.key)
  let fromBalance ← (found (s.batchBalances.get (fromAddr, batch.key))).mapError fun err =>
    if err.code = .ormNotFound then ⟨.insufficientCredits, "you do not have any credits from batch " ++ batch.denom⟩
    else err
  let toBalance := (s.batchBalances.get (toAddr, batch.key)).getD
    { batchKey := batch.key, address := toAddr, tradableAmount := "0", retiredAmount := "0" }
  let decs ← getNonNegativeFixedDecs precision [toBalance.tradableAmount, toBalance.retiredAmount,
    fromBalance.tradableAmount, fromBalance.retiredAmount, credit.tradableAmount, credit.retiredAmount,
    batchSupply.tradableAmount, batchSupply.retiredAmount]
  let sendAmtTradable := decs.getD 4 .zero
  let sendAmtRetired := decs.getD 5 .zero
  let (fromTradable, toTradable) ←
    if sendAmtTradable.isZero then pure (decs.getD 2 .zero, decs.getD 0 .zero)
    else pure (← safeSubBalance (decs.getD 2 .zero) sendAmtTradable, (decs.getD 0 .zero).add sendAmtTradable)
  let didRetire := !sendAmtRetired.isZero
  let (fromTradable, toRetired, supplyRetired, supplyTradable) ←
    if sendAmtRetired.isZero then pure (fromTradable, decs.getD 1 .zero, decs.getD 7 .zero, decs.getD 6 .zero)
    else
      pure (← safeSubBalance fromTradable sendAmtRetired, (decs.getD 1 .zero).add sendAmtRetired,
        (decs.getD 7 .zero).add sendAmtRetired, (decs.getD 6 .zero).sub sendAmtRetired)
  return ⟨batch, batchSupply, toTradable, toRetired, fromTradable, decs.getD 3 .zero, sendAmtRetired,
    supplyTradable, supplyRetired, didRetire⟩

def sendEcocredits (credit : SendCredits) (toAddr fromAddr : Address) : KeeperM Unit := do
  let p ← liftExcept (sendPlan (← get).store credit toAddr fromAddr)
  -- update the "to" balance
  saveBalance
    { batchKey := p.batch.key, address := toAddr, tradableAmount := p.toTradable.string,
      retiredAmount := p.toRetired.string }
  -- update the "from" balance
  updateBalance
    { batchKey := p.batch.key, address := fromAddr, tradableAmount := p.fromTradable.string,
      retiredAmount := p.fromRetired.string }
  -- update the "retired" supply only if credits were retired
  if p.didRetire then
    updateSupply
      { batchKey := p.batch.key, tradableAmount := p.supplyTradable.string,
        retiredAmount := p.supplyRetired.string, cancelledAmount := p.batchSupply.cancelledAmount }
    emit (.retire toAddr credit.batchDenom p.sendAmtRetired.string credit.retirementJurisdiction)

/-- The loop body of `Keeper.Send`, for one entry. -/
def sendCredit (req : MsgSend) (credit : SendCredits) : KeeperM Unit := do
  sendEcocredits credit req.recipient req.sender
  emit (.transfer req.sender req.recipient credit.batchDenom credit.tradableAmount credit.retiredAmount)

/-- `Keeper.Send`. -/
def send (req : MsgSend) : KeeperM Unit := req.credits.forM (sendCredit req)

/-! ## Retire -/

/-- What one entry of `Retire` reads and computes before its first write. -/
structure RetirePlan where
  batch : Batch
  batchSupply : BatchSupply
  userTradableBalance : Dec
  userRetiredBalance : Dec
  supplyTradable : Dec
  supplyRetired : Dec

/-- The loop body of `Retire` up to its first write (part_001 26–73). -/
def retirePlan (s : Store) (owner : Address) (credit : Credits) : Except Err RetirePlan := do
  let batch ← (found (s.batchByDenom credit.batchDenom)).mapError (batchNotFound credit.batchDenom)
  let creditType ← getCreditTypeFromBatchDenom s batch.denom
  let userBalance ← (found (s.batchBalances.get (owner, batch.key))).mapError fun err =>
    ⟨.invalidRequest, "could not get " ++ batch.denom ++ " balance for " ++ owner ++ ": " ++ err.msg⟩
  let decs ← getNonNegativeFixedDecs creditType.precision [credit.amount, userBalance.tradableAmount]
  let amtToRetire := decs.getD 0 .zero
  let userTradableBalance ← safeSubBalance (decs.getD 1 .zero) amtToRetire
  let userRetiredBalance ← newNonNegativeFixedDecFromString userBalance.retiredAmount creditType.precision
  let userRetiredBalance := userRetiredBalance.add amtToRetire
  let batchSupply ← found (s.batchSupplies.get batch.key)
  let decs ← getNonNegativeFixedDecs creditType.precision [batchSupply.retiredAmount, batchSupply.tradableAmount]
  let supplyRetired := (decs.getD 0 .zero).add amtToRetire
  let supplyTradable ← safeSubBalance (decs.getD 1 .zero) amtToRetire
  return ⟨batch, batchSupply, userTradableBalance, userRetiredBalance, supplyTradable, supplyRetired⟩

/-- The loop body of `Keeper.Retire`, for one entry. -/
def retireCredit (req : MsgRetire) (credit : Credits) : KeeperM Unit := do
  let p ← liftExcept (retirePlan (← get).store req.owner credit)
  updateBalance
    { batchKey := p.batch.key, address := req.owner, tradableAmount := p.userTradableBalance.string,
      retiredAmount := p.userRetiredBalance.string }
  updateSupply
    { batchKey := p.batch.key, tradableAmount := p.supplyTradable.string,
      retiredAmount := p.supplyRetired.string, cancelledAmount := p.batchSupply.cancelledAmount }
  emit (.retire req.owner credit.batchDenom credit.amount req.jurisdiction)

/-- `Keeper.Retire`. -/
def retire (req : MsgRetire) : KeeperM Unit := req.credits.forM (retireCredit req)

/-! ## Cancel -/

/-- What one entry of `Cancel` reads and computes before its first write. -/
structure CancelPlan where
  batch : Batch
  userBalance : BatchBalance
  batchSupply : BatchSupply
  userBalTradable : Dec
  supplyTradable : Dec
  cancelledDec : Dec

/-- The loop body of `Cancel` up to its first write (cancel.go 29–61). -/
def cancelPlan (s : Store) (owner : Address) (credit : Credits) : Except Err CancelPlan := do
  let batch ← (found (s.batchByDenom credit.batchDenom)).mapError (batchNotFound credit.batchDenom)
  let creditType ← getCreditTypeFromBatchDenom s batch.denom
  let userBalance ← (found (s.batchBalances.get (owner, batch.key))).mapError fun err =>
    ⟨.invalidRequest, "could not get " ++ batch.denom ++ " balance for " ++ owner ++ ": " ++ err.msg⟩
  let batchSupply ← found (s.batchSupplies.get batch.key)
  let decs ← getNonNegativeFixedDecs creditType.precision [credit.amount, batchSupply.tradableAmount,
    userBalance.tradableAmount, batchSupply.cancelledAmount]
  let amtToCancelDec := decs.getD 0 .zero
  let userBalTradable ← safeSubBalance (decs.getD 2 .zero) amtToCancelDec
  let supplyTradable ← safeSubBalance (decs.getD 1 .zero) amtToCancelDec
  let cancelledDec := (decs.getD 3 .zero).add amtToCancelDec
  return ⟨batch, userBalance, batchSupply, userBalTradable, supplyTradable, cancelledDec⟩

/-- The loop body of `Keeper.Cancel`, for one entry. -/
def cancelCredit (req : MsgCancel) (credit : Credits) : KeeperM Unit := do
  let p ← liftExcept (cancelPlan (← get).store req.owner credit)
  updateBalance
    { batchKey := p.batch.key, address := req.owner, tradableAmount := p.userBalTradable.string,
      retiredAmount := p.userBalance.retiredAmount }
  updateSupply
    { batchKey := p.batch.key, tradableAmount := p.supplyTradable.string,
      retiredAmount := p.batchSupply.retiredAmount, cancelledAmount := p.cancelledDec.string }
  emit (.cancel req.owner credit.batchDenom credit.amount req.reason)

/-- `Keeper.Cancel`. -/
def cancel (req : MsgCancel) : KeeperM Unit := req.credits.forM (cancelCredit req)

/-! ## The transaction boundary -/

def handle : Msg → KeeperM Unit
  | .send m => send m
  | .retire m => retire m
  | .cancel m => cancel m

/-- Modelled from the spec (§1, §5): a message runs on a branch of the store with a
    fresh event manager, committed only when its handler returns no error. -/
def deliver (s : Store) (m : Msg) : Store :=
  match handle m ⟨s, []⟩ with
  | .ok _ ctx => ctx.store
  | .error _ _ => s

/-- Modelled from the spec (§1, §5): the events a delivered message leaves; those of a
    message whose handler fails are discarded with its branch of the store. -/
def deliverEvents (s : Store) (m : Msg) : List Event :=
  match handle m ⟨s, []⟩ with
  | .ok _ ctx => ctx.events
  | .error _ _ => []

/-- Messages delivered one at a time. -/
def run (s : Store) (ms : List Msg) : Store := ms.foldl deliver s

end Ecocredit
