import AnnotationGuards.Chain.Basic
import AnnotationGuards.Chain.Linking
import AnnotationGuards.Chain.Scan
import AnnotationGuards.Chain.State
import AnnotationGuards.Chain.Target
import AnnotationGuards.Codec.Annotation
import AnnotationGuards.Codec.Basic
import AnnotationGuards.Codec.Config
import AnnotationGuards.Codec.Member
import AnnotationGuards.Codec.Status
import AnnotationGuards.Codec.Value
import AnnotationGuards.Config
import AnnotationGuards.Decimal.FloatFormat
import AnnotationGuards.Decimal.Notation
import AnnotationGuards.Decimal.Shortest
import AnnotationGuards.Entries
import AnnotationGuards.Graph.CycleWalk
import AnnotationGuards.Graph.Reachable
import AnnotationGuards.Guard.Classification
import AnnotationGuards.Guard.Definition
import AnnotationGuards.Guard.Error
import AnnotationGuards.Guard.HandlerLookup
import AnnotationGuards.Guard.MetaGraph
import AnnotationGuards.Guard.Verdicts
import AnnotationGuards.Handler.Basic
import AnnotationGuards.Handler.Matching
import AnnotationGuards.Handler.Script
import AnnotationGuards.Handler.Wiring
import AnnotationGuards.Json.Basic
import AnnotationGuards.Json.Number
import AnnotationGuards.Json.Parser
import AnnotationGuards.Message.Rendering
import AnnotationGuards.Message.Template
import AnnotationGuards.Program.Annotation
import AnnotationGuards.Program.Member
import AnnotationGuards.Program.Primitive
import AnnotationGuards.Program.Slot
import AnnotationGuards.Program.TypeDef
import AnnotationGuards.Program.TypeId
import AnnotationGuards.Program.Value
import AnnotationGuards.Proofs.Chain.Contribution
import AnnotationGuards.Proofs.Chain.Scan
import AnnotationGuards.Proofs.Graph.CycleWalk
import AnnotationGuards.Proofs.Guard.Classification
import AnnotationGuards.Proofs.Guard.Definition
import AnnotationGuards.Proofs.Guard.MetaGraph
import AnnotationGuards.Realm.Arena
import AnnotationGuards.Realm.Basic
import AnnotationGuards.Realm.Calls
import AnnotationGuards.Registry.Attributes
import AnnotationGuards.Registry.Basic
import AnnotationGuards.Registry.Builtin
import AnnotationGuards.Registry.Naming
import AnnotationGuards.Registry.Subtyping
import AnnotationGuards.Text.Blank
import AnnotationGuards.Text.Numeral
import AnnotationGuards.Proofs.Realm.History
import AnnotationGuards.Proofs.Chain.Nesting
import AnnotationGuards.Proofs.Realm.Nesting
import AnnotationGuards.Proofs.Chain.Protection
import AnnotationGuards.Proofs.Realm.Protection
import AnnotationGuards.Proofs.Message.Rendering
import AnnotationGuards.Proofs.Chain.Addresses
import AnnotationGuards.Proofs.Chain.Checks
import AnnotationGuards.Proofs.Chain.Forest
import AnnotationGuards.Proofs.Realm.Chains
import AnnotationGuards.Proofs.Handler.Matching
import AnnotationGuards.Proofs.Realm.Boundary
import AnnotationGuards.Proofs.Chain.Slots
import AnnotationGuards.Proofs.Realm.Dispatch
import AnnotationGuards.Proofs.Realm.Answers
import AnnotationGuards.Proofs.Registry.Bare
import AnnotationGuards.Proofs.Realm.Independence
import AnnotationGuards.Proofs.Chain.Composition
import AnnotationGuards.Proofs.Realm.Composition
import AnnotationGuards.Proofs.Chain.Faults
import AnnotationGuards.Proofs.Realm.Faults
import AnnotationGuards.Proofs.Program.Widening
import AnnotationGuards.Proofs.Chain.Stops
import AnnotationGuards.Proofs.Realm.Concealment
import AnnotationGuards.Proofs.Chain.Nulls
import AnnotationGuards.Proofs.Realm.Nulls
import AnnotationGuards.Handler.Declaration
import AnnotationGuards.Proofs.Handler.Wiring
import AnnotationGuards.Proofs.Handler.Invocation
import AnnotationGuards.Proofs.Realm.WellTyped
import AnnotationGuards.Proofs.Chain.Constructions
import AnnotationGuards.Proofs.Realm.Steps
import AnnotationGuards.Proofs.Realm.HandlerRuns
import AnnotationGuards.Registry.Changes
import AnnotationGuards.Engine.Live
import AnnotationGuards.Proofs.Registry.Changes
import AnnotationGuards.Proofs.Registry.Names
import AnnotationGuards.Proofs.Registry.Subtyping
import AnnotationGuards.Proofs.Graph.Reachable
import AnnotationGuards.Proofs.Guard.Handlers
import AnnotationGuards.Proofs.Engine.Stability
import AnnotationGuards.Proofs.Engine.Definitions
import AnnotationGuards.Proofs.Chain.Handlers
import AnnotationGuards.Proofs.Realm.Handlers
import AnnotationGuards.Proofs.Results
import AnnotationGuards.Proofs.Handler.Overloads
import AnnotationGuards.Proofs.Realm.Isolation
import AnnotationGuards.Proofs.Registry.Hints
import AnnotationGuards.Proofs.Realm.Hints
import AnnotationGuards.Proofs.Codec.Shapes
import AnnotationGuards.Proofs.Codec.RoundTrip
import AnnotationGuards.Proofs.Guard.Circularity
import AnnotationGuards.Proofs.Handler.Nearest
import AnnotationGuards.Proofs.Handler.DeclarationOrder
import AnnotationGuards.Proofs.Handler.Injection
import AnnotationGuards.Proofs.Guard.HandlerLookup
import AnnotationGuards.Proofs.Registry.Signatures
import AnnotationGuards.Proofs.Registry.Attributes
import AnnotationGuards.Proofs.Message.Templates
import AnnotationGuards.Proofs.Graph.Pruning
import AnnotationGuards.Proofs.Guard.Agreement
