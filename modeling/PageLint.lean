import PageLint.Main
import PageLint.Proofs.Calendar
import PageLint.Proofs.GapMerging
import PageLint.Proofs.AttributeGrammar
import PageLint.Proofs.ByteOrder
import PageLint.Proofs.GapAdvice
import PageLint.Proofs.ReportOrder
import PageLint.Proofs.Silencing
import PageLint.Proofs.ScanCoverage
import PageLint.Proofs.TagSpans
import PageLint.Proofs.WrittenAttributes
import PageLint.Proofs.AttributePieces
import PageLint.Proofs.QueryReferences
import PageLint.Proofs.QueryBlocks
import PageLint.Proofs.UnreadableFiles
import PageLint.Proofs.TableReferences
import PageLint.Proofs.GapWarnings
import PageLint.Proofs.Verdicts
import PageLint.Proofs.ColumnReads
import PageLint.Proofs.BytePositions
import PageLint.Proofs.AttributeBytes
import PageLint.Proofs.PageCuts
import PageLint.Proofs.EntityPlaces
import PageLint.Proofs.ValueBounds
import PageLint.Proofs.AreaCharts
import PageLint.Proofs.DirectoryCount
import PageLint.Proofs.ConditionalViews
import PageLint.Proofs.PatternMatching
import PageLint.Proofs.PatternReading
import PageLint.Proofs.NamePatterns
import PageLint.Proofs.LiteralNames
import PageLint.Proofs.FrontMatterLines
import PageLint.Proofs.WrittenMonths
import PageLint.Proofs.GapNormalForm
import PageLint.Proofs.LowerCase
import PageLint.Proofs.PeriodCells
import PageLint.Proofs.SeriesCharts
import PageLint.Proofs.EffectiveSettings
import PageLint.Proofs.IssuePrecedence
import PageLint.Proofs.LostChildren
import PageLint.Proofs.ReportColours
import PageLint.Proofs.LineWrapping
import PageLint.Proofs.ReferenceFiles
import PageLint.Proofs.IntroductionProse
import PageLint.Proofs.LookBehind
import PageLint.Proofs.PathsBelow
import PageLint.Proofs.AttributeLayout
import PageLint.Proofs.GroupedNumbers
import PageLint.Proofs.DataAttributes
