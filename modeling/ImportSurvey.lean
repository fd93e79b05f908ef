import ImportSurvey.Main
import ImportSurvey.Proofs.Index
import ImportSurvey.Proofs.Reaches
import ImportSurvey.Proofs.Analysis
import ImportSurvey.Proofs.Circular
import ImportSurvey.Proofs.Accepted
import ImportSurvey.Proofs.ReachabilityRule
import ImportSurvey.Proofs.Merge
import ImportSurvey.Proofs.Adding
import ImportSurvey.Proofs.Integrity
import ImportSurvey.Proofs.ShortestPaths
import ImportSurvey.Proofs.Annotations
import ImportSurvey.Proofs.History
import ImportSurvey.Proofs.Operations
import ImportSurvey.Proofs.Verdicts
import ImportSurvey.Proofs.Writing
import ImportSurvey.Proofs.Grave
import ImportSurvey.Proofs.ExitStatus
import ImportSurvey.Proofs.Segments
import ImportSurvey.Proofs.Edges
import ImportSurvey.Proofs.Origins
import ImportSurvey.Proofs.Tags
import ImportSurvey.Proofs.CoreModules
import ImportSurvey.Proofs.Spelling
import ImportSurvey.Proofs.Folding
import ImportSurvey.Proofs.Respelling
import ImportSurvey.Proofs.Joining
import ImportSurvey.Proofs.Searching
import ImportSurvey.Proofs.Remembering
import ImportSurvey.Proofs.ExportTargets
import ImportSurvey.Proofs.PackageNames
import ImportSurvey.Proofs.FirstHit
import ImportSurvey.Proofs.Containment
import ImportSurvey.Proofs.Carrying
import ImportSurvey.Proofs.CarryingClasses
import ImportSurvey.Proofs.CarryingGroups
import ImportSurvey.Proofs.Alternatives
import ImportSurvey.Proofs.AnyPattern
import ImportSurvey.Proofs.Order
import ImportSurvey.Proofs.Keys
import ImportSurvey.Proofs.RealNames
import ImportSurvey.Proofs.Inheritance
import ImportSurvey.Proofs.Layers
import ImportSurvey.Proofs.Trees
import ImportSurvey.Proofs.Discovery
import ImportSurvey.Proofs.SourceFiles
import ImportSurvey.Proofs.Resilience
import ImportSurvey.Proofs.Accounting
import ImportSurvey.Proofs.Filters
import ImportSurvey.Proofs.Orphans
import ImportSurvey.Proofs.RuleFiles
import ImportSurvey.Proofs.Reports
import ImportSurvey.Proofs.Declarations
import ImportSurvey.Proofs.Rows
import ImportSurvey.Proofs.DefineCalls
import ImportSurvey.Proofs.ReadingOrder
import ImportSurvey.Proofs.ReadingOrderTypes
import ImportSurvey.Proofs.ReadingOrderExpressions
import ImportSurvey.Proofs.ReadingOrderStatements
import ImportSurvey.Proofs.SourceOrder
import ImportSurvey.Proofs.Repeats
import ImportSurvey.Proofs.SeenOnce
import ImportSurvey.Proofs.Systems
import ImportSurvey.Proofs.Normalizing
import ImportSurvey.Proofs.Composing
import ImportSurvey.Proofs.ModuleIds
import ImportSurvey.Proofs.OwnModules
