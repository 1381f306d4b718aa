import NodeForest.Number.Layout
import NodeForest.Number.Literal
import NodeForest.Text.Blank
import NodeForest.Text.Lowercase
import NodeForest.Text.Quoted
import NodeForest.Location
import NodeForest.OrderedMap
import NodeForest.Value
import NodeForest.Constant
import NodeForest.Qualifiers
import NodeForest.Definition.Arithmetic
import NodeForest.Definition.BuildError
import NodeForest.Definition.Builder
import NodeForest.Definition.Equality
import NodeForest.Definition.Expansion
import NodeForest.Diagnostic
import NodeForest.Options
import NodeForest.Repository.Basic
import NodeForest.Repository.Bind
import NodeForest.Pattern.Basic
import NodeForest.Pattern.Reader
import NodeForest.Repository.Forest
import NodeForest.Repository.Mux
import NodeForest.Repository.Outline
import NodeForest.Repository.Search
import NodeForest.Json.Basic
import NodeForest.Json.Forest
import NodeForest.Json.Options
import NodeForest.Settings
import NodeForest.Group
import NodeForest.Workspace.Basic
import NodeForest.Workspace.Handle
import NodeForest.Script.Evaluation
import NodeForest.Script.RepositoryCommand
import NodeForest.Script.Command
import NodeForest.Script.Session
import NodeForest.Proofs.Reporting
import NodeForest.Proofs.Mirror
import NodeForest.Proofs.StoreConsistency
import NodeForest.Proofs.Growth
import NodeForest.Proofs.Repetition
import NodeForest.Proofs.Delivery
import NodeForest.Proofs.References
import NodeForest.Proofs.Cycles
import NodeForest.Proofs.FailedBind
import NodeForest.Proofs.AnonymousBind
import NodeForest.Proofs.Retention
import NodeForest.Proofs.CallSite
import NodeForest.Proofs.ErrorLimit
import NodeForest.Proofs.Isolation
import NodeForest.Proofs.FrozenForest
import NodeForest.Proofs.Untouched
import NodeForest.Proofs.RecordFields
import NodeForest.Proofs.Labels
import NodeForest.Proofs.FreshNames
import NodeForest.Proofs.Expressions
import NodeForest.Proofs.Searching
import NodeForest.Proofs.Trail
import NodeForest.Proofs.SharedConstants
import NodeForest.Proofs.Adoption
import NodeForest.Proofs.Building
import NodeForest.Proofs.Expanding
import NodeForest.Proofs.Transparency
import NodeForest.Proofs.FailedExtension
import NodeForest.Proofs.Requalifying
import NodeForest.Proofs.Family
import NodeForest.Proofs.Frames
import NodeForest.Proofs.Walks
import NodeForest.Proofs.SettingsRoundTrip
import NodeForest.Proofs.FieldOrder
import NodeForest.Proofs.UniqueNames
