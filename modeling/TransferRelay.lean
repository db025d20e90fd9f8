import TransferRelay.Abi.Buffer
import TransferRelay.Abi.Layout
import TransferRelay.Address
import TransferRelay.Amount
import TransferRelay.BigEndian
import TransferRelay.Binary64
import TransferRelay.Chain.Call
import TransferRelay.Chain.FanOut
import TransferRelay.Chain.Ledger
import TransferRelay.Chain.Plan
import TransferRelay.Chain.Race
import TransferRelay.Chain.World
import TransferRelay.Config.Environment
import TransferRelay.Config.Load
import TransferRelay.Config.SettingsFile
import TransferRelay.Contract
import TransferRelay.Crypto.Keccak
import TransferRelay.Crypto.Secp256k1
import TransferRelay.Crypto.Signer
import TransferRelay.Decimal.Shortest
import TransferRelay.DomainName.Composition
import TransferRelay.DomainName.CompositionTable
import TransferRelay.DomainName.Direction
import TransferRelay.DomainName.DirectionTable
import TransferRelay.DomainName.Joining
import TransferRelay.DomainName.JoiningTable
import TransferRelay.DomainName.Mapping
import TransferRelay.DomainName.MappingTable
import TransferRelay.DomainName.Name
import TransferRelay.DomainName.Punycode
import TransferRelay.Fault
import TransferRelay.Hex
import TransferRelay.Http.Listen
import TransferRelay.Http.Service
import TransferRelay.Http.Status
import TransferRelay.Http.Target
import TransferRelay.Json.Embedded
import TransferRelay.Json.Fault
import TransferRelay.Json.Number
import TransferRelay.Json.Numeral
import TransferRelay.Json.QuotedString
import TransferRelay.Json.Reader
import TransferRelay.Json.Text
import TransferRelay.Json.Value
import TransferRelay.Main
import TransferRelay.Metrics
import TransferRelay.Net.Host
import TransferRelay.Net.SocketAddress
import TransferRelay.Net.Url
import TransferRelay.Node.Client
import TransferRelay.Node.Exchange
import TransferRelay.Node.Returns
import TransferRelay.Proofs.Abi.Layout
import TransferRelay.Proofs.Abi.Reading
import TransferRelay.Proofs.Address
import TransferRelay.Proofs.Amount.Numeral
import TransferRelay.Proofs.Chain.Agreement
import TransferRelay.Proofs.Chain.Booking
import TransferRelay.Proofs.Chain.Coupling
import TransferRelay.Proofs.Chain.Deeds
import TransferRelay.Proofs.Chain.Endings
import TransferRelay.Proofs.Chain.FanOut
import TransferRelay.Proofs.Chain.Interleaving
import TransferRelay.Proofs.Chain.Ledger
import TransferRelay.Proofs.Chain.Locality
import TransferRelay.Proofs.Chain.Running
import TransferRelay.Proofs.Chain.Spending
import TransferRelay.Proofs.Chain.Window
import TransferRelay.Proofs.Config.Loading
import TransferRelay.Proofs.Config.Redaction
import TransferRelay.Proofs.Config.Usability
import TransferRelay.Proofs.Hex.Spelling
import TransferRelay.Proofs.Json.Completeness
import TransferRelay.Proofs.Json.Grammar
import TransferRelay.Proofs.Json.Numerals
import TransferRelay.Proofs.Json.Parts
import TransferRelay.Proofs.Metrics.Exposition
import TransferRelay.Proofs.Net.SocketAddress
import TransferRelay.Proofs.Node.Confirmation
import TransferRelay.Proofs.Node.Failures
import TransferRelay.Proofs.Node.Mirroring
import TransferRelay.Proofs.Node.Replies
import TransferRelay.Proofs.Node.Returns
import TransferRelay.Proofs.Node.Serving
import TransferRelay.Proofs.Node.Starting
import TransferRelay.Proofs.Recharge.Canonical
import TransferRelay.Proofs.Recharge.Delimiting
import TransferRelay.Proofs.Recharge.Layout
import TransferRelay.Proofs.Recharge.Rendering
import TransferRelay.Proofs.Results
import TransferRelay.Proofs.Rpc.BatchRequest
import TransferRelay.Proofs.Rpc.Calling
import TransferRelay.Proofs.Rpc.Demand
import TransferRelay.Proofs.Rpc.Envelopes
import TransferRelay.Proofs.Rpc.ExactAmounts
import TransferRelay.Proofs.Rpc.Independence
import TransferRelay.Proofs.Rpc.InputFaults
import TransferRelay.Proofs.Rpc.Inspection
import TransferRelay.Proofs.Rpc.Positional
import TransferRelay.Proofs.Rpc.Racing
import TransferRelay.Proofs.Rpc.Reading
import TransferRelay.Proofs.Rpc.RechargeReports
import TransferRelay.Proofs.Rpc.Respelling
import TransferRelay.Proofs.Rpc.Telling
import TransferRelay.Proofs.Rpc.TransferRequest
import TransferRelay.Proofs.Rpc.WithdrawalOrders
import TransferRelay.Proofs.Rpc.WithdrawalReports
import TransferRelay.Proofs.Session.Accounts
import TransferRelay.Proofs.Session.Keeping
import TransferRelay.Proofs.Session.Keyless
import TransferRelay.Proofs.Session.RequestCounts
import TransferRelay.Proofs.Session.Secrecy
import TransferRelay.Proofs.Session.Submissions
import TransferRelay.Proofs.Text.Digits
import TransferRelay.Proofs.Transfer.Batch
import TransferRelay.Proofs.Transfer.Course
import TransferRelay.Proofs.Transfer.Guard
import TransferRelay.Proofs.Transfer.History
import TransferRelay.Proofs.Transfer.Spelling
import TransferRelay.Proofs.Withdrawal
import TransferRelay.Reading
import TransferRelay.Recharge
import TransferRelay.Rpc.Envelope
import TransferRelay.Rpc.Handle
import TransferRelay.Rpc.Method
import TransferRelay.Rpc.Params
import TransferRelay.Rpc.Refusal
import TransferRelay.Rpc.Shape
import TransferRelay.Session.Basic
import TransferRelay.Session.Operation
import TransferRelay.Session.OverNode
import TransferRelay.Text.Alphanumeric
import TransferRelay.Text.Blank
import TransferRelay.Text.CodeRange
import TransferRelay.Text.Digit
import TransferRelay.Text.Printable
import TransferRelay.Text.Quoted
import TransferRelay.Text.Split
import TransferRelay.Text.Unsigned
import TransferRelay.Text.Utf8
import TransferRelay.Transfer.Id
import TransferRelay.Transfer.Inquiry
import TransferRelay.Transfer.Kind
import TransferRelay.Transfer.Process
import TransferRelay.Transfer.State
import TransferRelay.Withdrawal
