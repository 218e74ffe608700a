import ScopeResolution.Declaration.Keywords
import ScopeResolution.Resolver.Declaring
import ScopeResolution.Resolver.Querying
import ScopeResolution.Text.Quoted
import ScopeResolution.Proofs.Store.Arena
import ScopeResolution.Proofs.SymbolStore.Edit
import ScopeResolution.Proofs.SymbolStore.Links
import ScopeResolution.Proofs.SymbolStore.Removal
import ScopeResolution.Proofs.SymbolStore.Operation
import ScopeResolution.Proofs.Resolver.Operation
import ScopeResolution.Proofs.Resolver.ScopeStack
import ScopeResolution.Proofs.Declaration.Coexistence
import ScopeResolution.Proofs.Declaration.TypeEquivalence
import ScopeResolution.Proofs.Resolver.Overloads
import ScopeResolution.Proofs.SymbolStore.Confinement
import ScopeResolution.Proofs.Resolver.ClosedFunction
import ScopeResolution.Proofs.Table.Slots
import ScopeResolution.Proofs.Declaration.Judgement
import ScopeResolution.Proofs.Resolver.DeclarationEffect
import ScopeResolution.Proofs.Resolver.Repetition
import ScopeResolution.Proofs.Resolver.Stability
import ScopeResolution.Proofs.SymbolStore.Catalogue
import ScopeResolution.Proofs.Lookup.Inheritance
import ScopeResolution.Proofs.Lookup.BasePaths
import ScopeResolution.Proofs.Lookup.RoundTrip
import ScopeResolution.Proofs.Resolver.BuilderSteps
import ScopeResolution.Proofs.Lookup.PeerSearch
import ScopeResolution.Proofs.Resolver.QualifiedNames
import ScopeResolution.Proofs.SymbolStore.References
import ScopeResolution.Proofs.SymbolStore.Home
import ScopeResolution.Proofs.SymbolStore.Ancestry
import ScopeResolution.Proofs.Lookup.DeepSearch
import ScopeResolution.Proofs.Resolver.OpenFunctions
import ScopeResolution.Proofs.Resolver.Recording
import ScopeResolution.Proofs.Resolver.Lifetimes
import ScopeResolution.Proofs.Resolver.Orphans
import ScopeResolution.Proofs.Resolver.OverloadVerdicts
import ScopeResolution.Proofs.SymbolStore.Closure
import ScopeResolution.Proofs.Resolver.Bodies
import ScopeResolution.Proofs.Lookup.MemberOrigin
import ScopeResolution.Proofs.Resolver.MemberAccess
import ScopeResolution.Proofs.Lookup.Qualifiers
import ScopeResolution.Proofs.Resolver.QualifiedChains
import ScopeResolution.Proofs.Resolver.ClassNames
import ScopeResolution.Proofs.Resolver.LocalOverloads
import ScopeResolution.Proofs.Resolver.AliasTargets
import ScopeResolution.Proofs.Resolver.Failures
import ScopeResolution.Proofs.Resolver.Shadowing
import ScopeResolution.Proofs.SymbolStore.Chronicle
import ScopeResolution.Proofs.Resolver.DeclarationOrder
import ScopeResolution.Proofs.Lookup.SearchDepth
import ScopeResolution.Proofs.Store.Reuse
import ScopeResolution.Proofs.Store.History
import ScopeResolution.Proofs.SymbolStore.Ageing
import ScopeResolution.Proofs.SymbolStore.Aliases
import ScopeResolution.Proofs.SymbolStore.ParentChains
import ScopeResolution.Proofs.Lookup.Classification
import ScopeResolution.Proofs.Lookup.Narrowing
import ScopeResolution.Proofs.Resolver.SealedClasses
import ScopeResolution.Proofs.Lookup.NameReading
import ScopeResolution.Proofs.SymbolStore.Ownership
import ScopeResolution.Proofs.Report.Suggestion
import ScopeResolution.Proofs.Source.Accounting
import ScopeResolution.Proofs.Resolver.ScopeChains
import ScopeResolution.Proofs.Text.EditDistance
