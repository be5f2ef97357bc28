import Appliance.Address
import Appliance.Backoff
import Appliance.Certificate
import Appliance.CommandLine.Arguments
import Appliance.CommandLine.Grammar
import Appliance.CommandLine.Output
import Appliance.CommandLine.Report
import Appliance.CommandLine.Run
import Appliance.CommandLine.World
import Appliance.Credential
import Appliance.Decimal.Binary64
import Appliance.Decimal.Shortest
import Appliance.Dialogue
import Appliance.Digest
import Appliance.Disconnect
import Appliance.Duration
import Appliance.Event
import Appliance.Fault
import Appliance.Files
import Appliance.Http.Body
import Appliance.Http.Head
import Appliance.Http.Request
import Appliance.Hub.Channel
import Appliance.Hub.Opening
import Appliance.Hub.Record
import Appliance.Json.Record
import Appliance.Json.Token
import Appliance.Json.Tree
import Appliance.Json.Value
import Appliance.Listener
import Appliance.Listener.Callback
import Appliance.Listener.History
import Appliance.Listener.Course
import Appliance.Listener.Log
import Appliance.Listener.Options
import Appliance.Listener.Standing
import Appliance.Listener.State
import Appliance.Listener.Tenure
import Appliance.Main
import Appliance.Network
import Appliance.Prompt
import Appliance.Rehearsal.CommandRun
import Appliance.Rehearsal.Counterpart
import Appliance.Rehearsal.EventHub
import Appliance.Rehearsal.Listening
import Appliance.Rehearsal.Requests
import Appliance.Rehearsal.Sessions
import Appliance.Scope
import Appliance.Secret
import Appliance.Secret.Builder
import Appliance.Session
import Appliance.Session.Management
import Appliance.Session.Sharing
import Appliance.Subscriptions
import Appliance.Text.Ascii
import Appliance.Text.Base64
import Appliance.Text.Blank
import Appliance.Text.CodeMap
import Appliance.Text.Direction
import Appliance.Text.Joining
import Appliance.Text.Mark
import Appliance.Text.Normal
import Appliance.Text.Normal.Table
import Appliance.Text.Quoted
import Appliance.Text.Ranges
import Appliance.Text.Utf8
import Appliance.Token
import Appliance.TokenService.Body
import Appliance.TokenService.Exchange
import Appliance.TokenService.Grant
import Appliance.TokenService.Options
import Appliance.TokenService.Provider
import Appliance.TokenService.Wire
import Appliance.Url.Domain
import Appliance.Url.Domain.Mapping
import Appliance.Url.Domain.Punycode
import Appliance.Url.Host
import Appliance.Url.Percent
import Appliance.Url.Web
import Appliance.WebSocket.Frame
import Appliance.WebSocket.Message
import Appliance.WebSocket.Upgrade
import Appliance.Proofs.Listener.Moves
import Appliance.Proofs.Listener.Walk
import Appliance.Proofs.Listener.Told
import Appliance.Proofs.Listener.Ledger
import Appliance.Proofs.Listener.Renewal
import Appliance.Proofs.Session.Disposal
import Appliance.Hub.Listening
import Appliance.Proofs.Hub.Opening
import Appliance.Proofs.Listener.Failure
import Appliance.Proofs.Hub.Ending
import Appliance.Proofs.Hub.Healing
import Appliance.Proofs.Session.Finality
import Appliance.Proofs.Listener.Turns
import Appliance.Proofs.Listener.Rules
import Appliance.Proofs.Listener.Channels
import Appliance.Proofs.Listener.Rest
import Appliance.Proofs.Listener.Quiescence
import Appliance.Proofs.Listener.Tenure
import Appliance.Hub.Transcript
import Appliance.Hub.Tasks
import Appliance.Proofs.Hub.Packing
import Appliance.Proofs.Hub.Delivery
import Appliance.Proofs.Subscriptions
import Appliance.Proofs.Hub.Transcript
import Appliance.Proofs.TokenService.Lifetime
import Appliance.Proofs.Listener.Vigilance
import Appliance.Proofs.Hub.Tasks
import Appliance.Proofs.Hub.Attendance
import Appliance.Proofs.Hub.Gap
import Appliance.Proofs.Hub.Schedule
import Appliance.Subscriptions.Deed
import Appliance.Proofs.Histories
import Appliance.Proofs.Subscriptions.Entries
import Appliance.Proofs.Subscriptions.History
import Appliance.Proofs.Subscriptions.Refinement
import Appliance.Proofs.Subscriptions.Scripts
import Appliance.Proofs.Listener.Course
import Appliance.Proofs.Listener.Enactment
import Appliance.Proofs.Listener.Reconnection
import Appliance.Hub.Held
import Appliance.Proofs.Hub.Held
import Appliance.Proofs.Url.Authority
import Appliance.Proofs.Url.Web
import Appliance.Proofs.Address
import Appliance.Client
import Appliance.Proofs.Secrecy.Alike
import Appliance.Proofs.Secrecy.Exchange
import Appliance.Proofs.Secrecy.Session
import Appliance.Proofs.Secrecy.Listener
import Appliance.Proofs.Secrecy.Client
import Appliance.Proofs.Secrecy.Command
import Appliance.Proofs.Secrecy
import Appliance.Session.Family
import Appliance.Proofs.Hub.Silence
import Appliance.Proofs.Hub.BreakingOff
import Appliance.Proofs.Hub.Timeout
import Appliance.Proofs.Listener.Talk
import Appliance.Proofs.Listener.Attempts
import Appliance.Proofs.Session.Family
import Appliance.Proofs.Backoff
import Appliance.Proofs.TokenService.Answers
import Appliance.Proofs.TokenService.Scopes
import Appliance.Session.Lineage
import Appliance.Proofs.Session.Lineage
import Appliance.Proofs.Json.Lexer
import Appliance.Proofs.Json.Nesting
import Appliance.Proofs.Json.Values
import Appliance.Proofs.TokenService.Grants
import Appliance.Proofs.Hub.Events
import Appliance.Proofs.Text.Digits
import Appliance.Proofs.Text.Parts
import Appliance.Proofs.Url.Path
import Appliance.Proofs.Address.Written
import Appliance.Proofs.Address.Equality
import Appliance.Proofs.Secret.Builder
import Appliance.Proofs.Prompt
import Appliance.Proofs.Files
import Appliance.Proofs.Certificate
import Appliance.Proofs.Json.Marks
import Appliance.Proofs.Json.Layout
import Appliance.Proofs.Json.Members
import Appliance.Proofs.MemberOrder
