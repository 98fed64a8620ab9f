import SanBridge.Library.Checked
import SanBridge.Library.Runs
import SanBridge.Library.TokenBucket
import SanBridge.Library.Accounts
import SanBridge.Library.BigEndian
import SanBridge.Library.CeilFee
import SanBridge.Library.LockMint
import SanBridge.Library.Matching
import SanBridge.Library.Sorting
import SanBridge.Library.Readability
import SanBridge.Library.Permutation
import SanBridge.Library.Decimal
import SanBridge.Library.Base58
import SanBridge.Solana.Runtime
import SanBridge.Solana.MsgCodec
import SanBridge.Solana.State
import SanBridge.Solana.Amounts
import SanBridge.Solana.Instructions
import SanBridge.Solana.Effects
import SanBridge.Solana.Program
import SanBridge.Solana.Endpoint
import SanBridge.Solana.Custody
import SanBridge.Solana.Buckets
import SanBridge.Solana.Replay
import SanBridge.Solana.Quotes
import SanBridge.Solana.ReceiveTypes
import SanBridge.Solana.Limits
import SanBridge.Solana.Activation
import SanBridge.Solana.Tenants
import SanBridge.Solana.Governance
import SanBridge.Solana.Fees
import SanBridge.Solana.Isolation
import SanBridge.Evm.Runtime
import SanBridge.Evm.Base
import SanBridge.Evm.Contract
import SanBridge.Evm.Program
import SanBridge.Evm.Buckets
import SanBridge.Evm.Limits
import SanBridge.Evm.Arithmetic
import SanBridge.Evm.Activation
import SanBridge.Evm.Governance
import SanBridge.Evm.Quotes
import SanBridge.System.Bridge
import SanBridge.System.Routing
import SanBridge.System.Conservation
import SanBridge.System.Delivery
import SanBridge.System.Activation
import SanBridge.System.Channels
import SanBridge.System.Ledgers
import SanBridge.System.Redemption
import SanBridge.Tooling.Runtime
import SanBridge.Tooling.Inventory
import SanBridge.Tooling.Policy
import SanBridge.Tooling.Pathway
import SanBridge.Tooling.Checker
import SanBridge.Tooling.Handoff
import SanBridge.Tooling.TokenAmounts
import SanBridge.Tooling.Manifest
import SanBridge.Tooling.Acceptance
import SanBridge.Tooling.Building
import SanBridge.Tooling.Evidence
import SanBridge.Tooling.Reconciliation
import SanBridge.Tooling.Agreement
import SanBridge.Tooling.Backing
import SanBridge.Tooling.SolanaScan
import SanBridge.Tooling.Pagination
import SanBridge.Tooling.Extraction
import SanBridge.Tooling.Settlement
import SanBridge.Tooling.Events
import SanBridge.Tooling.RobinhoodScan
import SanBridge.Tooling.Coverage
import SanBridge.Tooling.Correspondence
import SanBridge.Tooling.Canonical
import SanBridge.Tooling.Binding
import SanBridge.Tooling.Ordering
import SanBridge.Tooling.Arrangement
import SanBridge.Tooling.Collation
import SanBridge.Library.Slices
import SanBridge.Solana.ComposeMsgCodec
import SanBridge.Solana.Inversion
import SanBridge.Tooling.Outstanding
import SanBridge.Tooling.Readiness
import SanBridge.Library.OneTime
import SanBridge.EndpointMock.Instructions
import SanBridge.EndpointMock.Program
import SanBridge.EndpointMock.Authorization
import SanBridge.EndpointMock.Deliveries
import SanBridge.Tooling.StoreBindings
import SanBridge.Library.Packing
import SanBridge.Tooling.CommonContext
import SanBridge.Tooling.ProgramId
import SanBridge.Tooling.Repetition
import SanBridge.Library.Grouping
import SanBridge.Tooling.Corroboration
