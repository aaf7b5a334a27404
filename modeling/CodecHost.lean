import CodecHost.Action
import CodecHost.Bytes
import CodecHost.CommandLine.Arguments
import CodecHost.CommandLine.Program
import CodecHost.Config
import CodecHost.Config.Format
import CodecHost.Config.Json
import CodecHost.Config.Reading
import CodecHost.Config.Toml
import CodecHost.Config.Toml.Document
import CodecHost.Config.Toml.Number
import CodecHost.Config.Toml.Table
import CodecHost.Config.Toml.Text
import CodecHost.Config.Yaml
import CodecHost.Config.Yaml.Cursor
import CodecHost.Config.Yaml.Node
import CodecHost.Config.Yaml.Scalar
import CodecHost.Config.Yaml.Token
import CodecHost.Context
import CodecHost.Directory
import CodecHost.Error
import CodecHost.Event
import CodecHost.Host
import CodecHost.IoError
import CodecHost.Main
import CodecHost.ModuleId
import CodecHost.ModuleTable
import CodecHost.Path
import CodecHost.Plugin
import CodecHost.Proofs.ActivePlugins
import CodecHost.Proofs.ActiveTables
import CodecHost.Proofs.Anchors
import CodecHost.Proofs.BuiltinActivation
import CodecHost.Proofs.CatalogWorlds
import CodecHost.Proofs.ClosedMemory
import CodecHost.Proofs.ContextMoves
import CodecHost.Proofs.FailedBuild
import CodecHost.Proofs.HandleConservation
import CodecHost.Proofs.Holdings
import CodecHost.Proofs.HookBalance
import CodecHost.Proofs.HookSafety
import CodecHost.Proofs.HookTurns
import CodecHost.Proofs.HostMoves
import CodecHost.Proofs.Ledger
import CodecHost.Proofs.LoadAnswers
import CodecHost.Proofs.RegistryOutcomes
import CodecHost.Proofs.RegistryReads
import CodecHost.Proofs.RegistryRuns
import CodecHost.Proofs.Runs
import CodecHost.Proofs.SharedTables
import CodecHost.Proofs.TableContents
import CodecHost.Proofs.TablesInPlace
import CodecHost.Proofs.Trails
import CodecHost.Proofs.Worlds
import CodecHost.Registry
import CodecHost.Report
import CodecHost.Run
import CodecHost.Scan
import CodecHost.SearchPath
import CodecHost.Surroundings
import CodecHost.System.Catalog
import CodecHost.System.Environment
import CodecHost.System.FileTree
import CodecHost.System.Machine
import CodecHost.System.SharedObject
import CodecHost.System.UseCount
import CodecHost.Text.LowerCase
import CodecHost.Text.Quoted
import CodecHost.Text.Reader
import CodecHost.Text.Unprintable
import CodecHost.Text.Utf8
import CodecHost.Proofs.ReferenceAccounts
import CodecHost.Proofs.ClientRounds
import CodecHost.Proofs.TeardownOrder
import CodecHost.Proofs.RegistryViews
import CodecHost.Proofs.LoadOutcomes
import CodecHost.Proofs.FailedLoads
import CodecHost.Proofs.EncoderRanks
import CodecHost.Proofs.NewCycles
import CodecHost.Proofs.DirectoryOrder
import CodecHost.Proofs.ScanBuffers
import CodecHost.Proofs.TextBytes
import CodecHost.Proofs.BulkLoads
import CodecHost.Proofs.ModuleNames
import CodecHost.Proofs.SearchPathLoads
import CodecHost.Proofs.RepeatedScans
import CodecHost.Proofs.ForcedUnloads
import CodecHost.Proofs.OpenCounts
import CodecHost.Proofs.Lookups
import CodecHost.Proofs.SearchPathValues
import CodecHost.Proofs.ListingTexts
import CodecHost.Proofs.LoadAttempts
import CodecHost.Proofs.LoadCommand
import CodecHost.Proofs.ScanCommand
import CodecHost.Proofs.FileNames
import CodecHost.Proofs.LetterCase
import CodecHost.Proofs.ConfigFiles
