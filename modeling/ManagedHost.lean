import ManagedHost.Application
import ManagedHost.Binding.Function
import ManagedHost.Binding.Registry
import ManagedHost.Bridge.Exit
import ManagedHost.Bridge.Inbound
import ManagedHost.Bridge.Load
import ManagedHost.Bridge.Loader
import ManagedHost.Bridge.Objects
import ManagedHost.Bridge.Operation
import ManagedHost.Bridge.Outbound
import ManagedHost.Bridge.Outside
import ManagedHost.Bridge.State
import ManagedHost.Bridge.Teardown
import ManagedHost.Bridge.Typed
import ManagedHost.Bridge.World
import ManagedHost.CommandLine
import ManagedHost.Decimal.Double
import ManagedHost.Error
import ManagedHost.FileSystem
import ManagedHost.Json.Reader
import ManagedHost.Json.Records
import ManagedHost.Json.Writer
import ManagedHost.Launcher.Outcome
import ManagedHost.Launcher.Process
import ManagedHost.Launcher.Script
import ManagedHost.Log
import ManagedHost.Log.Filter
import ManagedHost.Main
import ManagedHost.Objects.Heap
import ManagedHost.Objects.Tracking
import ManagedHost.Path
import ManagedHost.Runtime.Assemblies
import ManagedHost.Runtime.Listing
import ManagedHost.Runtime.Root
import ManagedHost.Runtime.Selection
import ManagedHost.Server.Connection
import ManagedHost.Server.Exports
import ManagedHost.Server.Lobby
import ManagedHost.Server.Session
import ManagedHost.Settings.Basic
import ManagedHost.Settings.Document
import ManagedHost.Settings.Loader
import ManagedHost.StandIn.Handlers
import ManagedHost.StandIn.Host
import ManagedHost.StandIn.Layout
import ManagedHost.StandIn.Method
import ManagedHost.StandIn.Routine
import ManagedHost.StandIn.Scene
import ManagedHost.StandIn.Stage
import ManagedHost.Table
import ManagedHost.Text.Blank
import ManagedHost.Text.Number
import ManagedHost.Text.Printable
import ManagedHost.Text.Quoted
import ManagedHost.Text.Redaction
import ManagedHost.Text.Similarity
import ManagedHost.Text.Utf8
import ManagedHost.Toml.Reader
import ManagedHost.Toml.Value
import ManagedHost.Version
import ManagedHost.Wire.Arguments
import ManagedHost.Wire.Basic
import ManagedHost.Wire.Cell
import ManagedHost.Wire.Signature
import ManagedHost.Proofs.Ambient
import ManagedHost.Proofs.History
import ManagedHost.Proofs.Callback
import ManagedHost.Proofs.Lifecycle
import ManagedHost.Proofs.Stance
import ManagedHost.Proofs.SingleHost
import ManagedHost.Proofs.Aim
import ManagedHost.Proofs.Effects
import ManagedHost.Proofs.ExitTarget
import ManagedHost.Proofs.FailedLoad
import ManagedHost.Proofs.CallThrough
import ManagedHost.Proofs.TrackedValues
import ManagedHost.Proofs.TypedCalls
import ManagedHost.Proofs.NameReuse
import ManagedHost.Proofs.TornDown
import ManagedHost.Proofs.HookPairs
import ManagedHost.Proofs.Interlude
import ManagedHost.Proofs.BindingMap
import ManagedHost.Proofs.Telling
import ManagedHost.Proofs.BindingsTold
import ManagedHost.Proofs.ImportCalls
import ManagedHost.Proofs.TypedImports
import ManagedHost.Proofs.Adapters
import ManagedHost.Proofs.Sparing
import ManagedHost.Proofs.AtRest
import ManagedHost.Proofs.ProgramEnd
import ManagedHost.Proofs.ImportCache
import ManagedHost.Proofs.FreshImports
import ManagedHost.Proofs.RuntimeChoice
import ManagedHost.Proofs.Exchanges
import ManagedHost.Proofs.LoadOrder
import ManagedHost.Proofs.TrustedList
import ManagedHost.Proofs.OtherObjects
import ManagedHost.Proofs.UnrelatedDeath
import ManagedHost.Proofs.SelectionBounds
import ManagedHost.Proofs.FirstRegistrations
import ManagedHost.Proofs.ReturnedTexts
import ManagedHost.Proofs.ConnectEvents
import ManagedHost.Proofs.VersionGrammar
import ManagedHost.Proofs.ListingRoundTrip
import ManagedHost.Proofs.ResolvedPlaces
import ManagedHost.Proofs.RuntimeRoot
import ManagedHost.Proofs.SettingsOverride
import ManagedHost.Proofs.Sweeping
import ManagedHost.Proofs.SeatHolders
import ManagedHost.Proofs.LobbyRuns
import ManagedHost.Proofs.Kicks
