import WitnessedTransfer.Config
import WitnessedTransfer.Holding.Basic
import WitnessedTransfer.Message.Json
import WitnessedTransfer.RecordStore
import WitnessedTransfer.LockTable
import WitnessedTransfer.Bus.Wait
import WitnessedTransfer.Agent.Failing
import WitnessedTransfer.Agent.Inbound
import WitnessedTransfer.World.Service
import WitnessedTransfer.Bus.Exchange
import WitnessedTransfer.Logging
import WitnessedTransfer.Json.Pointer
import WitnessedTransfer.Proofs.Step.Records
import WitnessedTransfer.Proofs.Deed.Basic
import WitnessedTransfer.Proofs.Deed.Failing
import WitnessedTransfer.Proofs.Deed.Requesting
import WitnessedTransfer.Proofs.Decimal.Value
import WitnessedTransfer.Proofs.Deed.Closing
import WitnessedTransfer.Proofs.Deed.Gossip
import WitnessedTransfer.Proofs.Deed.Minting
import WitnessedTransfer.Proofs.Deed.Notarizing
import WitnessedTransfer.Proofs.Deed.Operation
import WitnessedTransfer.Proofs.Deed.Runs
import WitnessedTransfer.Proofs.Holding.Changes
import WitnessedTransfer.Proofs.Holding.Entries
import WitnessedTransfer.Proofs.Holding.Notes
import WitnessedTransfer.Proofs.Ledger.Conservation
import WitnessedTransfer.Proofs.Wallet.Consent
import WitnessedTransfer.Proofs.Record.History
import WitnessedTransfer.Proofs.Record.Replay
import WitnessedTransfer.Proofs.Record.Binding
import WitnessedTransfer.Proofs.Step.Frames
import WitnessedTransfer.Proofs.Ledger.Consent
import WitnessedTransfer.Proofs.Record.Roles
import WitnessedTransfer.Proofs.World.Backing
import WitnessedTransfer.Proofs.World.Outcome
import WitnessedTransfer.Proofs.Wallet.Payment
import WitnessedTransfer.Proofs.Step.Coining
import WitnessedTransfer.Proofs.Ledger.Accounting
import WitnessedTransfer.Proofs.World.Naming
import WitnessedTransfer.Proofs.World.Coverage
import WitnessedTransfer.Proofs.Wallet.Settling
import WitnessedTransfer.Proofs.Record.Weight
import WitnessedTransfer.Proofs.World.Draining
import WitnessedTransfer.Proofs.Ledger.Securing
import WitnessedTransfer.Proofs.Ledger.Committing
import WitnessedTransfer.Proofs.Record.Demand
import WitnessedTransfer.Proofs.World.Asking
import WitnessedTransfer.Proofs.Wallet.Selecting
import WitnessedTransfer.Proofs.Wallet.Staking
import WitnessedTransfer.Proofs.World.Staking
import WitnessedTransfer.Proofs.LockTable
import WitnessedTransfer.Proofs.Bus.Stepwise
import WitnessedTransfer.Proofs.Bus.Vigil
import WitnessedTransfer.Proofs.Bus.Waiting
import WitnessedTransfer.Proofs.Json.RoundTrip
import WitnessedTransfer.Proofs.Bus.Mirroring
import WitnessedTransfer.Proofs.Record.Failing
import WitnessedTransfer.Proofs.Record.Awaiting
import WitnessedTransfer.Proofs.Step.Overflowing
import WitnessedTransfer.Proofs.Record.Withstanding
import WitnessedTransfer.Proofs.Wallet.Closing
import WitnessedTransfer.Proofs.Decimal.Rounding
import WitnessedTransfer.Proofs.Ledger.Balancing
import WitnessedTransfer.Proofs.Ledger.Notarizing
import WitnessedTransfer.Proofs.Step.Counting
import WitnessedTransfer.Proofs.Step.Undoing
import WitnessedTransfer.Proofs.Record.Retrying
import WitnessedTransfer.Proofs.Holding.Isolation
import WitnessedTransfer.Proofs.Ledger.Issuing
import WitnessedTransfer.Proofs.Ledger.Proposing
import WitnessedTransfer.Proofs.Record.Threads
import WitnessedTransfer.Proofs.Record.Opening
import WitnessedTransfer.Proofs.Bus.Turns
import WitnessedTransfer.Proofs.Bus.Confirming
import WitnessedTransfer.Proofs.Wallet.Minting
import WitnessedTransfer.Proofs.Ledger.Checking
import WitnessedTransfer.Proofs.Holding.Sequence
import WitnessedTransfer.Proofs.Directory.Interest
import WitnessedTransfer.Proofs.Record.Purging
