import MetricSeries.Series.Codec
import MetricSeries.Plot
import MetricSeries.Config.Codec
import MetricSeries.Call.Standard
import MetricSeries.CommandLine.Run
import MetricSeries.Main
import MetricSeries.Proofs.Nodes
import MetricSeries.Proofs.Reduction
import MetricSeries.Proofs.Hours
import MetricSeries.Proofs.HistoryWindow
import MetricSeries.Proofs.Exact
import MetricSeries.Proofs.BandLaws
import MetricSeries.Proofs.Keeps
import MetricSeries.Proofs.WellFormed
import MetricSeries.Proofs.Regrouping
import MetricSeries.Proofs.Coverage
import MetricSeries.Proofs.Lockstep
import MetricSeries.Proofs.Verdict
import MetricSeries.Proofs.Matching
import MetricSeries.Proofs.MetricPath
import MetricSeries.Proofs.Numerals
import MetricSeries.Proofs.Wrapping
import MetricSeries.Proofs.Program
import MetricSeries.Proofs.Hints
import MetricSeries.Proofs.Restyling
import MetricSeries.Proofs.FetchOrder
import MetricSeries.Proofs.Scaling
import MetricSeries.Proofs.Units
import MetricSeries.Proofs.Handover
import MetricSeries.Proofs.Defaults
import MetricSeries.Proofs.Digits
import MetricSeries.Proofs.TomlTexts
import MetricSeries.Proofs.TomlLines
import MetricSeries.Proofs.ConfigFile
import MetricSeries.Proofs.JsonTexts
import MetricSeries.Proofs.SeriesTexts
import MetricSeries.Proofs.NormalPlots
import MetricSeries.Proofs.Ascending
import MetricSeries.Proofs.Ranks
import MetricSeries.Proofs.Interpolation
import MetricSeries.Proofs.Binary64
import MetricSeries.Proofs.RankRounding
import MetricSeries.Proofs.Gaps
import MetricSeries.Proofs.FillOrder
import MetricSeries.Proofs.Survivors
import MetricSeries.Proofs.Rankings
import MetricSeries.Proofs.Groups
import MetricSeries.Proofs.LeastSquares
import MetricSeries.Proofs.Trends
import MetricSeries.Proofs.Columns
import MetricSeries.Proofs.Summaries
import MetricSeries.Proofs.Categories
import MetricSeries.Proofs.SlotLaws
import MetricSeries.Proofs.Offsets
import MetricSeries.Proofs.PeriodLabels
import MetricSeries.Proofs.BandOrder
import MetricSeries.Proofs.TrendPoints
import MetricSeries.Proofs.Levels
import MetricSeries.Proofs.Delivery
import MetricSeries.Proofs.PatternRuns
import MetricSeries.Proofs.PatternGroups
import MetricSeries.Proofs.BackReferences
import MetricSeries.Proofs.InnermostPaths
