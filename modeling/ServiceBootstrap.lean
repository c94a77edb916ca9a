import ServiceBootstrap.CommandLine
import ServiceBootstrap.Configuration
import ServiceBootstrap.Configuration.Description
import ServiceBootstrap.Configuration.Key
import ServiceBootstrap.Event
import ServiceBootstrap.Failure
import ServiceBootstrap.Failure.InputOutput
import ServiceBootstrap.Failure.Provider
import ServiceBootstrap.Files
import ServiceBootstrap.Files.Directory
import ServiceBootstrap.Hello.Request
import ServiceBootstrap.Hello.Response
import ServiceBootstrap.Hello.Root
import ServiceBootstrap.Hello.Script
import ServiceBootstrap.Hello.Serve
import ServiceBootstrap.Instance
import ServiceBootstrap.InstanceId
import ServiceBootstrap.Json.Written
import ServiceBootstrap.Lifecycle
import ServiceBootstrap.Main
import ServiceBootstrap.NameMap
import ServiceBootstrap.Number.Binary64
import ServiceBootstrap.Pending
import ServiceBootstrap.Program
import ServiceBootstrap.Registry
import ServiceBootstrap.Server.Acceptor
import ServiceBootstrap.Server.Address
import ServiceBootstrap.Server.Handle
import ServiceBootstrap.Server.Host
import ServiceBootstrap.Server.Network
import ServiceBootstrap.Server.Provider
import ServiceBootstrap.Server.Running
import ServiceBootstrap.Server.Start
import ServiceBootstrap.Session.Command
import ServiceBootstrap.Session.Layer
import ServiceBootstrap.Session.Provider
import ServiceBootstrap.Session.Run
import ServiceBootstrap.Session.Scheduler
import ServiceBootstrap.Session.Script
import ServiceBootstrap.Session.Stage
import ServiceBootstrap.Session.Stop
import ServiceBootstrap.Settings
import ServiceBootstrap.Settings.Load
import ServiceBootstrap.Table
import ServiceBootstrap.Text.Blank
import ServiceBootstrap.Text.Entries
import ServiceBootstrap.Text.Printable
import ServiceBootstrap.Text.Quoted
import ServiceBootstrap.Text.Utf8
import ServiceBootstrap.Toml.Document
import ServiceBootstrap.Toml.Draft
import ServiceBootstrap.Toml.Figure
import ServiceBootstrap.Toml.Moment
import ServiceBootstrap.Toml.Quotation
import ServiceBootstrap.Toml.Space
import ServiceBootstrap.Toml.Tree
import ServiceBootstrap.Toml.Written
import ServiceBootstrap.Value
import ServiceBootstrap.Value.ClientAuth
import ServiceBootstrap.Value.Type
import ServiceBootstrap.View
import ServiceBootstrap.View.Json
import ServiceBootstrap.View.Toml
import ServiceBootstrap.Proofs.Configuration.Described
import ServiceBootstrap.Proofs.Configuration.History
import ServiceBootstrap.Proofs.Configuration.Typed
import ServiceBootstrap.Proofs.Hello.Deeds
import ServiceBootstrap.Proofs.Hello.Exchange
import ServiceBootstrap.Proofs.Hello.HeadReads
import ServiceBootstrap.Proofs.Hello.Outcome
import ServiceBootstrap.Proofs.Hello.RequestLine
import ServiceBootstrap.Proofs.Hello.RootPath
import ServiceBootstrap.Proofs.Json.Document
import ServiceBootstrap.Proofs.Json.Members
import ServiceBootstrap.Proofs.NameMap
import ServiceBootstrap.Proofs.Pending.Failures
import ServiceBootstrap.Proofs.Pending.Handle
import ServiceBootstrap.Proofs.Pending.Laws
import ServiceBootstrap.Proofs.Pending.Record
import ServiceBootstrap.Proofs.Pending.Stack
import ServiceBootstrap.Proofs.Program.Arguments
import ServiceBootstrap.Proofs.Program.Served
import ServiceBootstrap.Proofs.Program.Shown
import ServiceBootstrap.Proofs.Registry.Attempts
import ServiceBootstrap.Proofs.Registry.Callers
import ServiceBootstrap.Proofs.Registry.Choice
import ServiceBootstrap.Proofs.Registry.Failures
import ServiceBootstrap.Proofs.Registry.Listing
import ServiceBootstrap.Proofs.Server.CutOff
import ServiceBootstrap.Proofs.Server.Ledger
import ServiceBootstrap.Proofs.Server.Request
import ServiceBootstrap.Proofs.Server.Shutdown
import ServiceBootstrap.Proofs.Server.StopRequest
import ServiceBootstrap.Proofs.Session.Beside
import ServiceBootstrap.Proofs.Session.Chronicle
import ServiceBootstrap.Proofs.Session.Coarse
import ServiceBootstrap.Proofs.Session.Company
import ServiceBootstrap.Proofs.Session.Independence
import ServiceBootstrap.Proofs.Session.Keeps
import ServiceBootstrap.Proofs.Session.Life
import ServiceBootstrap.Proofs.Session.Records
import ServiceBootstrap.Proofs.Session.Resident
import ServiceBootstrap.Proofs.Session.ServerStart
import ServiceBootstrap.Proofs.Session.Share
import ServiceBootstrap.Proofs.Session.Spawned
import ServiceBootstrap.Proofs.Settings.Decoding
import ServiceBootstrap.Proofs.Settings.Lookup
import ServiceBootstrap.Proofs.Settings.Misfits
import ServiceBootstrap.Proofs.Settings.Precedence
import ServiceBootstrap.Proofs.Text.ByteOrder
import ServiceBootstrap.Proofs.Text.Legible
import ServiceBootstrap.Proofs.Toml.Members
import ServiceBootstrap.Proofs.Toml.Strings
import ServiceBootstrap.Proofs.Toml.Values
import ServiceBootstrap.Proofs.Toml.WellFormed
import ServiceBootstrap.Proofs.View.Parts
