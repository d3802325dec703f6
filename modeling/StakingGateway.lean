import StakingGateway.Abi.Decoder
import StakingGateway.Abi.Encoder
import StakingGateway.Abi.Schema
import StakingGateway.Address
import StakingGateway.Bytes
import StakingGateway.CallData.Codec
import StakingGateway.CallData.Fault
import StakingGateway.CallData.Layout
import StakingGateway.Chain
import StakingGateway.Execution.Executor
import StakingGateway.Execution.Guard
import StakingGateway.Execution.Lookup
import StakingGateway.Execution.Phase
import StakingGateway.Execution.Transition
import StakingGateway.Failure
import StakingGateway.Gas
import StakingGateway.Gateway.Call
import StakingGateway.Gateway.Config
import StakingGateway.Interface.Method
import StakingGateway.Interface.RoutingTable
import StakingGateway.Interface.Selector
import StakingGateway.Json.Codec
import StakingGateway.Json.OctetList
import StakingGateway.Json.Parser
import StakingGateway.Json.Token
import StakingGateway.Json.Value
import StakingGateway.Keccak
import StakingGateway.Proofs.Abi.Arrangement
import StakingGateway.Proofs.Abi.CanonicalLayout
import StakingGateway.Proofs.Abi.RoundTrip
import StakingGateway.Proofs.Abi.Words
import StakingGateway.Proofs.BigEndian
import StakingGateway.Proofs.CallData
import StakingGateway.Proofs.Chain.Conservation
import StakingGateway.Proofs.Chain.ExchangeRate
import StakingGateway.Proofs.Execution.Effect
import StakingGateway.Proofs.Execution.Footprint
import StakingGateway.Proofs.Execution.Metering
import StakingGateway.Proofs.Execution.Simulation
import StakingGateway.Proofs.Execution.Snapshot
import StakingGateway.Proofs.Fallible
import StakingGateway.Proofs.Gateway.Admission
import StakingGateway.Proofs.Gateway.CallEffect
import StakingGateway.Proofs.Gateway.Delivery
import StakingGateway.Proofs.Gateway.ExactCost
import StakingGateway.Proofs.Gateway.History
import StakingGateway.Proofs.Gateway.Offer
import StakingGateway.Proofs.Gateway.Threshold
import StakingGateway.Proofs.Json.LawfulCodec
import StakingGateway.Proofs.Json.RoundTrip
import StakingGateway.Proofs.Json.Tokens
import StakingGateway.Proofs.Reference.Books
import StakingGateway.Proofs.Reference.ConstantRate
import StakingGateway.Proofs.Reference.Effects
import StakingGateway.Proofs.Reference.Exchanges
import StakingGateway.Proofs.Reference.GasBlindness
import StakingGateway.Proofs.Reference.GenesisBooks
import StakingGateway.Proofs.Reference.Keys
import StakingGateway.Proofs.Reference.Messages
import StakingGateway.Proofs.Reference.Queries
import StakingGateway.Proofs.Reference.Readings
import StakingGateway.Proofs.Reference.Records
import StakingGateway.Proofs.Reference.StoredRecords
import StakingGateway.Proofs.Reference.TokenCount
import StakingGateway.Proofs.Store.Layers
import StakingGateway.Proofs.Store.SortedMaps
import StakingGateway.Proofs.Store.Totals
import StakingGateway.Proofs.Text.Ascii
import StakingGateway.Proofs.Text.Digits
import StakingGateway.Reference.CallData
import StakingGateway.Reference.Fault
import StakingGateway.Reference.Genesis
import StakingGateway.Reference.Key
import StakingGateway.Reference.Module
import StakingGateway.Reference.Record
import StakingGateway.Reference.Shares
import StakingGateway.ReturnData
import StakingGateway.Staking.Block
import StakingGateway.Staking.Coin
import StakingGateway.Staking.Record
import StakingGateway.Staking.Request
import StakingGateway.Store.ByteMap
import StakingGateway.Store.LayeredStore
import StakingGateway.Store.Order
import StakingGateway.Text.Blank
import StakingGateway.Text.Numeral
import StakingGateway.Text.Printable
import StakingGateway.Text.Quoted
import StakingGateway.Text.Utf8
import StakingGateway.Uint256
import StakingGateway.Proofs.Gateway.Settlement
import StakingGateway.Proofs.Reference.Ownership
import StakingGateway.Proofs.Reference.Bookings
import StakingGateway.Proofs.Reference.Plans
import StakingGateway.Proofs.Reference.Refusals
import StakingGateway.Proofs.Reference.ShareCount
import StakingGateway.Proofs.Chain.Isolation
import StakingGateway.Proofs.Chain.Shares
import StakingGateway.Proofs.Chain.Commutation
import StakingGateway.Proofs.Chain.Rejections
import StakingGateway.Proofs.Chain.Unbondings
import StakingGateway.Proofs.Execution.Course
import StakingGateway.Proofs.Gateway.Diagnoses
import StakingGateway.Proofs.Gateway.ReadOnlyFrames
import StakingGateway.Proofs.Reference.Unbondings
import StakingGateway.Proofs.Gateway.Requests
import StakingGateway.Proofs.Reference.Stakes
import StakingGateway.Proofs.Chain.Undelegation
import StakingGateway.Proofs.Chain.Redelegation
import StakingGateway.Proofs.Reference.Cancellations
import StakingGateway.Proofs.Chain.Cancellation
import StakingGateway.Proofs.Reference.Rounding
import StakingGateway.Proofs.Reference.Moves
import StakingGateway.Proofs.Reference.Holders
import StakingGateway.Proofs.Chain.Delegation
import StakingGateway.Proofs.Chain.RedelegationHistory
import StakingGateway.Proofs.Chain.Restoration
import StakingGateway.Proofs.Execution.NestedTransactions
import StakingGateway.Proofs.Abi.WordOctets
import StakingGateway.Proofs.Abi.GuardedReads
import StakingGateway.Proofs.Abi.LayoutGrammar
import StakingGateway.Proofs.Abi.CutLayout
import StakingGateway.Proofs.Gateway.CutCallData
import StakingGateway.Proofs.ReturnData
import StakingGateway.Proofs.Interface.Routing
import StakingGateway.Proofs.Store.Scans
import StakingGateway.Proofs.Abi.CanonicalNames
import StakingGateway.Proofs.Interface.Signatures
import StakingGateway.Proofs.Reference.Persistence
