import ScriptSemantics.Conversion.Basic
import ScriptSemantics.Conversion.Standard
import ScriptSemantics.Conversion.UserDefined
import ScriptSemantics.DataType
import ScriptSemantics.Declaration.Class
import ScriptSemantics.Declaration.Function
import ScriptSemantics.Declaration.Global
import ScriptSemantics.Declaration.Template
import ScriptSemantics.Declaration.Type
import ScriptSemantics.Diagnostic
import ScriptSemantics.Digest
import ScriptSemantics.Expression
import ScriptSemantics.Fundamental
import ScriptSemantics.Initialization.Basic
import ScriptSemantics.Initialization.Building
import ScriptSemantics.Lookup.Call
import ScriptSemantics.Lookup.Names
import ScriptSemantics.Lookup.Operators
import ScriptSemantics.Lookup.Result
import ScriptSemantics.Namespace.Graph
import ScriptSemantics.Namespace.Tree
import ScriptSemantics.Operator
import ScriptSemantics.Overload.Candidate
import ScriptSemantics.Overload.Resolution
import ScriptSemantics.Path
import ScriptSemantics.Registry.Basic
import ScriptSemantics.Registry.Builtins
import ScriptSemantics.Registry.Hierarchy
import ScriptSemantics.Registry.Registration
import ScriptSemantics.Report.Analysis
import ScriptSemantics.Report.Basic
import ScriptSemantics.Report.Declaration
import ScriptSemantics.Report.Error
import ScriptSemantics.Report.Session
import ScriptSemantics.Scope.Basic
import ScriptSemantics.Scope.Identifier
import ScriptSemantics.Session.Basic
import ScriptSemantics.Session.FunctionInstance
import ScriptSemantics.Session.FunctionTemplate
import ScriptSemantics.Session.Instantiation
import ScriptSemantics.Session.Substitution
import ScriptSemantics.Table
import ScriptSemantics.Template.Completion
import ScriptSemantics.Template.Deduction
import ScriptSemantics.Template.Error
import ScriptSemantics.Template.InstanceCache
import ScriptSemantics.TemplateArgument
import ScriptSemantics.TypeHash
import ScriptSemantics.Proofs.Execution
import ScriptSemantics.Proofs.Overload.OrderIndependence
import ScriptSemantics.Proofs.Session.Tracking
import ScriptSemantics.Proofs.Registry.Changes
import ScriptSemantics.Proofs.Template.Completion
import ScriptSemantics.Proofs.Session.ClassConstruction
import ScriptSemantics.Proofs.Session.Moves
import ScriptSemantics.Proofs.Session.Growth
import ScriptSemantics.Proofs.Session.Memoization
import ScriptSemantics.Proofs.Namespace.Paths
import ScriptSemantics.Proofs.Registry.Rollback
import ScriptSemantics.Proofs.Session.FailedInstances
import ScriptSemantics.Proofs.Session.ClassInstances
import ScriptSemantics.Proofs.Session.Bracketing
import ScriptSemantics.Proofs.Conversion.Comparison
import ScriptSemantics.Proofs.Conversion.Validity
import ScriptSemantics.Proofs.Overload.Evaluation
import ScriptSemantics.Proofs.Overload.Selection
import ScriptSemantics.Proofs.Overload.Acyclicity
import ScriptSemantics.Proofs.Overload.Soundness
import ScriptSemantics.Proofs.Overload.FreeCalls
import ScriptSemantics.Proofs.Identity.Mixing
import ScriptSemantics.Proofs.Session.Lookups
import ScriptSemantics.Proofs.Session.Ranking
import ScriptSemantics.Proofs.Session.Calls
import ScriptSemantics.Proofs.Session.Reproduction
import ScriptSemantics.Proofs.Initialization.Narrowing
import ScriptSemantics.Proofs.Registry.Refusals
import ScriptSemantics.Proofs.Registry.Names
import ScriptSemantics.Proofs.Conversion.Selection
import ScriptSemantics.Proofs.Registry.Reordering
import ScriptSemantics.Proofs.Conversion.DeclarationOrder
import ScriptSemantics.Proofs.Namespace.Hierarchy
import ScriptSemantics.Proofs.Namespace.Edges
import ScriptSemantics.Proofs.Conversion.ConstCorrectness
import ScriptSemantics.Proofs.Initialization.Explicitness
import ScriptSemantics.Proofs.Overload.Marks
import ScriptSemantics.Proofs.Session.DeletedCalls
import ScriptSemantics.Proofs.Scope.Slots
import ScriptSemantics.Proofs.Lookup.Qualification
import ScriptSemantics.Proofs.Conversion.ConstReferences
import ScriptSemantics.Proofs.Registry.Filing
import ScriptSemantics.Proofs.Registry.BaseChains
import ScriptSemantics.Proofs.Conversion.ReferenceBindings
import ScriptSemantics.Proofs.Lookup.MemberLayout
import ScriptSemantics.Proofs.Template.Derivations
import ScriptSemantics.Proofs.Session.Merging
import ScriptSemantics.Proofs.Conversion.UniqueDominance
import ScriptSemantics.Proofs.Initialization.Coherence
import ScriptSemantics.Proofs.Initialization.ListElements
import ScriptSemantics.Proofs.Session.CompletedKeys
import ScriptSemantics.Proofs.Conversion.RankOrder
import ScriptSemantics.Proofs.Lookup.OperatorDuplicates
import ScriptSemantics.Proofs.Lookup.Shadowing
import ScriptSemantics.Proofs.Scope.EnclosingNamespaces
import ScriptSemantics.Proofs.Scope.IdentifierPaths
import ScriptSemantics.Proofs.Session.InstanceNames
import ScriptSemantics.Proofs.Overload.ArgumentOrder
import ScriptSemantics.Proofs.Lookup.DeclaredNames
