import WikiMarkup.Text.Bytes
import WikiMarkup.Text.Quoted
import WikiMarkup.Number.Shortest
import WikiMarkup.Json.Reader
import WikiMarkup.Json.Printer
import WikiMarkup.Document.Event
import WikiMarkup.Wire.Record
import WikiMarkup.Wire.Events
import WikiMarkup.Render.Trace
import WikiMarkup.Digest.Sha256
import WikiMarkup.Files.Host
import WikiMarkup.Pattern.Parser
import WikiMarkup.Store.Renderings
import WikiMarkup.Toml.Value
import WikiMarkup.Toml.Scalar
import WikiMarkup.Toml.Quoted
import WikiMarkup.Toml.Reader
import WikiMarkup.Settings.Expansion
import WikiMarkup.Settings.Basic
import WikiMarkup.Settings.Written
import WikiMarkup.Settings.Load
import WikiMarkup.Command.Arguments
import WikiMarkup.Command.Run
import WikiMarkup.Main
import WikiMarkup.Proofs.Nesting
import WikiMarkup.Proofs.Delivery
import WikiMarkup.Proofs.Frame
import WikiMarkup.Proofs.Separation
import WikiMarkup.Proofs.Observation
import WikiMarkup.Proofs.MacroMarker
import WikiMarkup.Proofs.LinkLabel
import WikiMarkup.Proofs.Mapping
import WikiMarkup.Proofs.FormatReset
import WikiMarkup.Proofs.Restoration
import WikiMarkup.Proofs.Blocks
import WikiMarkup.Proofs.InlineTrees
import WikiMarkup.Proofs.Outlines
import WikiMarkup.Proofs.Scopes
import WikiMarkup.Proofs.Growth
import WikiMarkup.Proofs.Sorting
import WikiMarkup.Proofs.RequestKeys
import WikiMarkup.Proofs.JsonText
import WikiMarkup.Proofs.Codecs
import WikiMarkup.Proofs.EventText
import WikiMarkup.Proofs.PathNames
import WikiMarkup.Proofs.TreePaths
import WikiMarkup.Proofs.Directories
import WikiMarkup.Proofs.TextBytes
import WikiMarkup.Proofs.StoreFiles
import WikiMarkup.Proofs.VersionedStore
import WikiMarkup.Proofs.StoredText
import WikiMarkup.Proofs.RenderingRuns
import WikiMarkup.Proofs.StoredStates
import WikiMarkup.Proofs.RenderingStore
import WikiMarkup.Proofs.CachedRendering
import WikiMarkup.Proofs.CachedWarnings
import WikiMarkup.Proofs.Brackets
import WikiMarkup.Proofs.InterruptedWrites
import WikiMarkup.Proofs.SharedStores
import WikiMarkup.Proofs.TreeChanges
import WikiMarkup.Proofs.RefusedChanges
import WikiMarkup.Proofs.FoundDirectories
import WikiMarkup.Proofs.Buckets
import WikiMarkup.Proofs.SparedFiles
import WikiMarkup.Proofs.WarningCounts
import WikiMarkup.Proofs.TypedReading
import WikiMarkup.Proofs.Spellings
import WikiMarkup.Proofs.EventGrammar
import WikiMarkup.Proofs.Respellings
import WikiMarkup.Proofs.CompletedOpenings
import WikiMarkup.Proofs.UnmatchedEnds
import WikiMarkup.Proofs.FreeStandingLinks
import WikiMarkup.Proofs.NestedItems
import WikiMarkup.Proofs.NestedTables
import WikiMarkup.Proofs.ReadableForms
import WikiMarkup.Proofs.OrderedMapping
import WikiMarkup.Proofs.BracedReferences
import WikiMarkup.Proofs.ExtensionStates
import WikiMarkup.Proofs.LinkForms
import WikiMarkup.Proofs.IndependentFamilies
import WikiMarkup.Proofs.NearestSettings
