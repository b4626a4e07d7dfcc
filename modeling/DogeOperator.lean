import DogeOperator.Bytes
import DogeOperator.Outcome
import DogeOperator.Utx0
import DogeOperator.Redeem
import DogeOperator.Crypto
import DogeOperator.Digests
import DogeOperator.Tx
import DogeOperator.TxRecovery
import DogeOperator.Delimited
import DogeOperator.RedeemLayout
import DogeOperator.Preimage
import DogeOperator.LegacySighash
import DogeOperator.Panics
import DogeOperator.Utx0Codec
import DogeOperator.PersistedParser
import DogeOperator.Network
import DogeOperator.LocalEndpoints
import DogeOperator.Records
import DogeOperator.Manager
import DogeOperator.Prepare
import DogeOperator.PrepareSpec
import DogeOperator.PrepareRecovery
import DogeOperator.Confirm
import DogeOperator.Finalize
import DogeOperator.Deposit
import DogeOperator.Spendable
import DogeOperator.ApplySignatures
import DogeOperator.Intervals
import DogeOperator.Base64
import DogeOperator.Batches
import DogeOperator.Partition
import DogeOperator.Json
import DogeOperator.Vaa
import DogeOperator.VaaBody
import DogeOperator.LocalManager
import DogeOperator.ManagerClient
import DogeOperator.Agreement
import DogeOperator.Program
import DogeOperator.Store
import DogeOperator.Operations
import DogeOperator.Solana
import DogeOperator.Electrs
import DogeOperator.Graph
import DogeOperator.Signing
import DogeOperator.Resume
import DogeOperator.Withdraw
import DogeOperator.Footprint
import DogeOperator.GraphSpec
import DogeOperator.Postings
import DogeOperator.SingleBroadcast
import DogeOperator.ChainReads
import DogeOperator.MissedLanding
import DogeOperator.FailedSnapshots
import DogeOperator.Conservation
import DogeOperator.Registrations
import DogeOperator.RepeatedRegistrations
import DogeOperator.ChangeOutput
import DogeOperator.ManagerResponse
import DogeOperator.CommandLine
import DogeOperator.Daemon
import DogeOperator.DispatchedArgs
import DogeOperator.Transition
import DogeOperator.CrashRecovery
import DogeOperator.BroadcastRecovery
import DogeOperator.TrailingRun
import DogeOperator.PollFailures
import DogeOperator.WaitingDaemon
import DogeOperator.ObservedBatch
import DogeOperator.MerkleTree
import DogeOperator.CustodyOps
import DogeOperator.SpentLeaves
import DogeOperator.SparseTree
import DogeOperator.SpentProofs
import DogeOperator.MembershipProofs
import DogeOperator.PairLevels
import DogeOperator.TransactionBranch
import DogeOperator.ManagerSetCodec
import DogeOperator.ScriptPushes
import DogeOperator.ScriptSig
import DogeOperator.SignMagnitude
import DogeOperator.ScriptBuilder
import DogeOperator.SortByKey
import DogeOperator.TrackedSpent
import DogeOperator.DecimalText
import DogeOperator.DogeAmount
import DogeOperator.AmountBranches
import DogeOperator.AmountReadings
import DogeOperator.ScientificAmounts
import DogeOperator.CustodyValidation
import DogeOperator.Ipv6Text
import DogeOperator.HostFilters
import DogeOperator.WriteOnce
import DogeOperator.RecordRequests
import DogeOperator.DoubleRounding
import DogeOperator.EvidenceValidator
import DogeOperator.CompletedEvidence
import DogeOperator.EvidenceRuns
import DogeOperator.KeyedRecords
import DogeOperator.BatchLifecycle
import DogeOperator.OperatorSessions
import DogeOperator.DepositRun
import DogeOperator.DepositSpend
import DogeOperator.DepositSession
import DogeOperator.DepositsBacked
import DogeOperator.SolanaChain
import DogeOperator.BridgeSetup
import DogeOperator.SetupCommands
import DogeOperator.BridgeGenesis
import DogeOperator.SetupSessions
import DogeOperator.OutputLookup
import DogeOperator.ProcessOwnership
import DogeOperator.OwnedProcesses
import DogeOperator.CleanupRuns
import DogeOperator.RecordedProcesses
