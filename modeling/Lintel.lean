import Lintel.Main
import Lintel.Proofs.CacheTransparency
import Lintel.Proofs.Cancellation
import Lintel.Proofs.Deduplication
import Lintel.Proofs.DispatchOutput
import Lintel.Proofs.ReportThreshold
import Lintel.Proofs.ScheduleIndependence
import Lintel.Proofs.RuleTurns
import Lintel.Proofs.Coverage
import Lintel.Proofs.Resolution
import Lintel.Proofs.FingerprintText
import Lintel.Proofs.LineIndex
import Lintel.Proofs.RuleSafety
import Lintel.Proofs.PathIgnores
import Lintel.Proofs.ReportConsistency
import Lintel.Proofs.CommentScan
import Lintel.Proofs.Directives
import Lintel.Proofs.SuppressionRegions
import Lintel.Proofs.LineNumbers
import Lintel.Proofs.LineColumns
import Lintel.Proofs.AddedDirective
import Lintel.Proofs.LexicalPieces
import Lintel.Proofs.NormalForm
import Lintel.Proofs.Aggregation
import Lintel.Proofs.ProfileOrder
import Lintel.Proofs.Settings
import Lintel.Proofs.Defects
import Lintel.Proofs.DirectiveGrammar
import Lintel.Proofs.StatementDirective
import Lintel.Proofs.ClearedCache
import Lintel.Proofs.NestingDepth
import Lintel.Proofs.ProfileSearch
import Lintel.Proofs.ProfileRoundTrip
import Lintel.Proofs.FailedRun
import Lintel.Proofs.RuleCatalog
