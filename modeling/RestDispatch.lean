import RestDispatch.Config.Decode
import RestDispatch.Config.Dotenv
import RestDispatch.Config.Environment
import RestDispatch.Config.Error
import RestDispatch.Config.Files
import RestDispatch.Config.Loader
import RestDispatch.Config.Schema
import RestDispatch.Config.Tree
import RestDispatch.Config.Validate
import RestDispatch.Decimal.Nearest
import RestDispatch.Decimal.Scaled
import RestDispatch.Decimal.Shortest
import RestDispatch.Dispatch.Action
import RestDispatch.Dispatch.Chain
import RestDispatch.Dispatch.Diagnostics
import RestDispatch.Dispatch.Endpoint
import RestDispatch.Dispatch.Failure
import RestDispatch.Dispatch.Fixtures
import RestDispatch.Dispatch.Probe
import RestDispatch.Dispatch.Request
import RestDispatch.Dispatch.Resolve
import RestDispatch.Dispatch.Response
import RestDispatch.Json.Read
import RestDispatch.Json.Value
import RestDispatch.Regex.Automaton
import RestDispatch.Regex.Automaton.Classes
import RestDispatch.Regex.Automaton.Machine
import RestDispatch.Regex.Automaton.Trie
import RestDispatch.Regex.CharSet
import RestDispatch.Regex.Denote
import RestDispatch.Regex.Expr
import RestDispatch.Regex.Match
import RestDispatch.Regex.Parse
import RestDispatch.Regex.Pattern
import RestDispatch.Regex.Property
import RestDispatch.Regex.Syntax
import RestDispatch.Regex.Utf8Ranges
import RestDispatch.Report.Build
import RestDispatch.Report.Config
import RestDispatch.Report.Dispatch
import RestDispatch.Report.Routing
import RestDispatch.Report.Telemetry
import RestDispatch.Route.Method
import RestDispatch.Route.Params
import RestDispatch.Route.Path
import RestDispatch.Route.Pattern
import RestDispatch.Route.Rule
import RestDispatch.Route.Segment
import RestDispatch.Service.Build
import RestDispatch.Service.Engine
import RestDispatch.Service.Metered
import RestDispatch.Service.Registry
import RestDispatch.Telemetry.Config
import RestDispatch.Telemetry.Filter
import RestDispatch.Telemetry.Metrics
import RestDispatch.Telemetry.Setup
import RestDispatch.Text.Blank
import RestDispatch.Text.Case
import RestDispatch.Text.Classes
import RestDispatch.Text.Form
import RestDispatch.Text.Normalize
import RestDispatch.Text.Quoted
import RestDispatch.Toml.Document
import RestDispatch.Toml.Read
import RestDispatch.Toml.Value
import RestDispatch.Unicode.Age
import RestDispatch.Unicode.Bidi
import RestDispatch.Unicode.Casing
import RestDispatch.Unicode.Category
import RestDispatch.Unicode.Folding
import RestDispatch.Unicode.Idna
import RestDispatch.Unicode.Normalization
import RestDispatch.Unicode.Property
import RestDispatch.Unicode.Revision
import RestDispatch.Unicode.Script
import RestDispatch.Unicode.Segmentation
import RestDispatch.Unicode.Table
import RestDispatch.Web.DomainName
import RestDispatch.Web.Headers
import RestDispatch.Web.Host
import RestDispatch.Web.Punycode
import RestDispatch.Web.Url
import RestDispatch.Web.Uuid
import RestDispatch.Proofs.PathMatching
import RestDispatch.Proofs.Resolution
import RestDispatch.Proofs.ChainRun
import RestDispatch.Proofs.Service
import RestDispatch.Proofs.AcceptedPaths
import RestDispatch.Proofs.EndpointRouting
import RestDispatch.Proofs.RoutedPath
import RestDispatch.Proofs.ConfigScope
import RestDispatch.Proofs.ActionSelection
import RestDispatch.Proofs.ConfiguredEngine
import RestDispatch.Proofs.RequestTarget
import RestDispatch.Proofs.CaseFolding
import RestDispatch.Proofs.CaselessConstraints
import RestDispatch.Proofs.CaseBlindRouting
import RestDispatch.Proofs.PatternLists
import RestDispatch.Proofs.RuleMonotonicity
import RestDispatch.Proofs.EngineSwitches
import RestDispatch.Proofs.PatternRendering
import RestDispatch.Proofs.CanonicalPaths
import RestDispatch.Proofs.MethodFilters
import RestDispatch.Proofs.DispatchMetrics
