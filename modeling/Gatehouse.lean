import Gatehouse.Auth.Algorithm
import Gatehouse.Auth.Bearer
import Gatehouse.Auth.ClaimCheck
import Gatehouse.Auth.Claims
import Gatehouse.Auth.PublicKey
import Gatehouse.Auth.Settings
import Gatehouse.Auth.SignedToken
import Gatehouse.Auth.TokenVerifier
import Gatehouse.CommandLine.Arguments
import Gatehouse.CommandLine.Help
import Gatehouse.CommandLine.Session
import Gatehouse.Company.Basic
import Gatehouse.Company.Codec
import Gatehouse.Company.Criteria
import Gatehouse.Company.Error
import Gatehouse.Company.ListRequest
import Gatehouse.Company.Order
import Gatehouse.Company.Page
import Gatehouse.Company.Paging
import Gatehouse.Company.Registry
import Gatehouse.Company.Service
import Gatehouse.Company.Validation
import Gatehouse.Config.Address
import Gatehouse.Config.Environment
import Gatehouse.Config.Layer
import Gatehouse.Config.Literal
import Gatehouse.Config.Load
import Gatehouse.Config.Settings
import Gatehouse.Crypto.Armour
import Gatehouse.Crypto.Curve
import Gatehouse.Crypto.Der
import Gatehouse.Crypto.Digest
import Gatehouse.Crypto.Edwards
import Gatehouse.Crypto.Modular
import Gatehouse.Crypto.Rsa
import Gatehouse.Decimal.Double
import Gatehouse.Decimal.Numeral
import Gatehouse.Decimal.Shortest
import Gatehouse.Gate.Call
import Gatehouse.Gate.Failure
import Gatehouse.Gate.Pipeline
import Gatehouse.Gate.RemoteStatus
import Gatehouse.Http.Endpoint
import Gatehouse.Http.EventStream
import Gatehouse.Http.Input
import Gatehouse.Http.MediaType
import Gatehouse.Http.Message
import Gatehouse.Http.Problem
import Gatehouse.Http.RequestId
import Gatehouse.Http.Route
import Gatehouse.Http.Target
import Gatehouse.Json.Basic
import Gatehouse.Json.Decode
import Gatehouse.Json.Printer
import Gatehouse.Json.Tree
import Gatehouse.Log
import Gatehouse.Logging.Filter
import Gatehouse.Main
import Gatehouse.Notify.Channel
import Gatehouse.Notify.Event
import Gatehouse.Notify.Sink
import Gatehouse.Policy.Checker
import Gatehouse.Policy.Condition
import Gatehouse.Policy.Evaluator
import Gatehouse.Policy.Operation
import Gatehouse.Policy.Settings
import Gatehouse.Policy.Subject
import Gatehouse.Policy.Table
import Gatehouse.Program
import Gatehouse.Proofs.Auth.Bearer
import Gatehouse.Proofs.Company.Backing
import Gatehouse.Proofs.Company.Coverage
import Gatehouse.Proofs.Company.Errand
import Gatehouse.Proofs.Company.Overlap
import Gatehouse.Proofs.Company.Rows
import Gatehouse.Proofs.Company.Traffic
import Gatehouse.Proofs.Gate.Clearance
import Gatehouse.Proofs.Gate.Completion
import Gatehouse.Proofs.Gate.Denial
import Gatehouse.Proofs.Gate.Discretion
import Gatehouse.Proofs.Gate.Front
import Gatehouse.Proofs.Gate.News
import Gatehouse.Proofs.Gate.Step
import Gatehouse.Proofs.Http.Answer
import Gatehouse.Proofs.Http.Credential
import Gatehouse.Proofs.Http.EventAccess
import Gatehouse.Proofs.Http.Precedence
import Gatehouse.Proofs.Policy.Chain
import Gatehouse.Proofs.Process
import Gatehouse.Proofs.Run
import Gatehouse.Proofs.Surroundings
import Gatehouse.Rehearsal.Site
import Gatehouse.Rehearsal.Transcript
import Gatehouse.Rehearsal.World
import Gatehouse.Server.App
import Gatehouse.Text.Base64
import Gatehouse.Text.Blank
import Gatehouse.Text.Lowercase
import Gatehouse.Text.Percent
import Gatehouse.Text.Quoted
import Gatehouse.Text.Table.Case
import Gatehouse.Text.Table.Letters
import Gatehouse.Text.Table.Printable
import Gatehouse.Text.Utf8
import Gatehouse.Timestamp
import Gatehouse.Uuid
import Gatehouse.Yaml.Node
import Gatehouse.Yaml.Place
import Gatehouse.Yaml.Printer
import Gatehouse.Yaml.Scalar
import Gatehouse.Yaml.Text
import Gatehouse.Yaml.Token
import Gatehouse.Yaml.Value
import Gatehouse.Proofs.Company.Effects
import Gatehouse.Proofs.Company.Visits
import Gatehouse.Proofs.Company.Replay
import Gatehouse.Proofs.Gate.Welcome
import Gatehouse.Proofs.Company.Flaws
import Gatehouse.Proofs.Company.Sorting
import Gatehouse.Proofs.Company.Ledger
import Gatehouse.Proofs.Company.Lineage
import Gatehouse.Proofs.Company.Announcement
import Gatehouse.Proofs.Company.LifeCycle
import Gatehouse.Proofs.Auth.Verification
import Gatehouse.Proofs.Company.Pages
import Gatehouse.Proofs.Gate.Favour
import Gatehouse.Proofs.Company.Privilege
import Gatehouse.Proofs.Company.Cause
import Gatehouse.Proofs.Http.Disclosure
import Gatehouse.Proofs.Http.Streaming
import Gatehouse.Proofs.Json.Writing
import Gatehouse.Proofs.Json.Forms
import Gatehouse.Proofs.Timestamp
import Gatehouse.Proofs.Uuid
import Gatehouse.Proofs.Company.Shapes
import Gatehouse.Proofs.Http.Wire
import Gatehouse.Proofs.Gate.Gapless
import Gatehouse.Proofs.Policy.Evaluation
import Gatehouse.Proofs.Auth.Validity
import Gatehouse.Proofs.Json.Values
import Gatehouse.Proofs.Auth.Payload
import Gatehouse.Proofs.Company.Arrangement
import Gatehouse.Proofs.Company.Revision
import Gatehouse.Proofs.Company.Parameters
import Gatehouse.Proofs.Company.Search
import Gatehouse.Proofs.Auth.Scheme
import Gatehouse.Proofs.Auth.Family
import Gatehouse.Proofs.Auth.Rewriting
import Gatehouse.Proofs.Json.Controls
import Gatehouse.Proofs.Http.Framing
import Gatehouse.Proofs.Company.Growth
import Gatehouse.Proofs.Notify.Fanout
import Gatehouse.Proofs.Server.Startup
import Gatehouse.Proofs.Config.Layers
import Gatehouse.Proofs.Config.Loading
import Gatehouse.Proofs.Config.Policy
import Gatehouse.Proofs.Config.Dump
