import Ecocredit.Decimal
import Ecocredit.Table
import Ecocredit.State
import Ecocredit.Keeper
import Ecocredit.KeeperSpec
import Ecocredit.Runs
import Ecocredit.Conservation
import Ecocredit.Ledger
import Ecocredit.Genesis
import Ecocredit.GenesisImport
import Ecocredit.GenesisSpec
import Ecocredit.WellFormed
import Ecocredit.SupplyInvariant
import Ecocredit.Effects
import Ecocredit.Acceptance
import Ecocredit.Reimport
import Ecocredit.Footprint
import Ecocredit.EventLog
