import ClientGen.Main
import ClientGen.Proofs.Grouping
import ClientGen.Proofs.MethodNames
import ClientGen.Proofs.ResourcePaths
import ClientGen.Proofs.FinishedModels
import ClientGen.Proofs.Coherence
import ClientGen.Proofs.Identity
import ClientGen.Proofs.PropertyTypes
import ClientGen.Proofs.NormalPaths
import ClientGen.Proofs.Responses
import ClientGen.Proofs.References
import ClientGen.Proofs.GroupNames
import ClientGen.Proofs.UnknownTypes
import ClientGen.Proofs.Places
import ClientGen.Proofs.Settings
import ClientGen.Proofs.SupportingFiles
import ClientGen.Proofs.OutputPaths
import ClientGen.Proofs.PathNames
import ClientGen.Proofs.ClassNames
import ClientGen.Proofs.Emissions
import ClientGen.Proofs.OutputRoot
import ClientGen.Proofs.Contexts
import ClientGen.Proofs.EmissionOrder
import ClientGen.Proofs.CaseForms
import ClientGen.Proofs.ReservedNames
import ClientGen.Proofs.VariableNames
import ClientGen.Proofs.EnumTypes
import ClientGen.Proofs.Identifiers
import ClientGen.Proofs.DerivedProfile
import ClientGen.Proofs.GroupSummaries
import ClientGen.Proofs.Locality
import ClientGen.Proofs.Requiredness
import ClientGen.Proofs.AnonymousGroups
import ClientGen.Proofs.PathReadings
import ClientGen.Proofs.PhaseOrders
import ClientGen.Proofs.FileWays
import ClientGen.Proofs.WrittenFiles
import ClientGen.Proofs.SettledGroups
import ClientGen.Proofs.QuotedTexts
import ClientGen.Proofs.EnumLiterals
import ClientGen.Proofs.CaseNames
import ClientGen.Proofs.TypeReadings
import ClientGen.Proofs.MergedParameters
import ClientGen.Proofs.ResolvedSettings
import ClientGen.Proofs.ManifestHistory
import ClientGen.Proofs.MergedConfigs
import ClientGen.Proofs.ReplacedFiles
import ClientGen.Proofs.FaultSpans
