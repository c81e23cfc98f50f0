import Trellis.Signature.Param
import Trellis.Signature.ServiceName
import Trellis.Text.Quoted
import Trellis.Dict
import Trellis.Decimal.Layout
import Trellis.Json.Basic
import Trellis.Json.Reader
import Trellis.Json.Printer
import Trellis.Error
import Trellis.Log
import Trellis.Json.Decode
import Trellis.Config.Decode
import Trellis.Object.Class
import Trellis.Object.Construction
import Trellis.Table
import Trellis.Object.Handle
import Trellis.Layer.Basic
import Trellis.Metadata.Value
import Trellis.Metadata.Decoration
import Trellis.Resolution.Resolver
import Trellis.Composition.Walk
import Trellis.Composition.Report
import Trellis.Composition.Application
import Trellis.Composition.Description
import Trellis.Object.Effect
import Trellis.Composition.Json
import Trellis.Workbench.Operations
import Trellis.Toml.Reader
import Trellis.Toml.Writer
import Trellis.Config.Load
import Trellis.Config.Save
import Trellis.Composition.Shared
import Trellis.Shop.Request
import Trellis.Greeting.Survey
import Trellis.Cli.Run
import Trellis.Metadata.Overview
import Trellis.Config.SettingType
import Trellis.Applications
import Trellis.Main
import Trellis.Proofs.Metadata.Tags
import Trellis.Proofs.Metadata.Writing
import Trellis.Proofs.Composition.ImportGraph
import Trellis.Proofs.Composition.Composability
import Trellis.Proofs.Layer.Build
import Trellis.Proofs.Composition.SetUp
import Trellis.Proofs.Composition.Providers
import Trellis.Proofs.Composition.Services
import Trellis.Proofs.Composition.Stages
import Trellis.Proofs.Composition.Imported
import Trellis.Proofs.Object.Outline
import Trellis.Proofs.Metadata.Blind
import Trellis.Proofs.Layer.Outline
import Trellis.Proofs.Composition.Outline
import Trellis.Proofs.Resolution.Used
import Trellis.Proofs.Composition.Injection
import Trellis.Proofs.Composition.Policy
import Trellis.Proofs.Resolution.Memory
import Trellis.Proofs.Composition.Process
import Trellis.Proofs.Composition.Transparency
import Trellis.Proofs.Layer.Lookup
import Trellis.Proofs.Composition.Lookup
import Trellis.Proofs.Composition.Realization
import Trellis.Proofs.Composition.Agreement
import Trellis.Proofs.Signature.Params
import Trellis.Proofs.Metadata.Controllers
import Trellis.Proofs.Composition.Binding
import Trellis.Proofs.Composition.Shuffling
import Trellis.Proofs.Composition.ImportOrder
import Trellis.Proofs.Composition.Accounting
import Trellis.Proofs.Signature.Separation
import Trellis.Proofs.Composition.Independence
import Trellis.Proofs.Composition.Inquiry
import Trellis.Proofs.Config.Tree
import Trellis.Proofs.Layer.Outcome
import Trellis.Proofs.Layer.Merging
import Trellis.Proofs.Resolution.Matching
import Trellis.Proofs.Resolution.Tiers
import Trellis.Proofs.Config.Extraction
import Trellis.Proofs.Config.Sources
import Trellis.Proofs.Config.Loading
import Trellis.Proofs.Config.Saving
import Trellis.Proofs.Signature.Cuts
import Trellis.Proofs.Signature.Offsets
import Trellis.Proofs.Signature.Layers
import Trellis.Proofs.Signature.Spellings
import Trellis.Proofs.Metadata.Paths
import Trellis.Proofs.Composition.Constructibility
import Trellis.Proofs.Shop.Cart
