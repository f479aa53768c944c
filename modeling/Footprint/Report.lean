import Footprint.Report.Totals

namespace Footprint

inductive Report where
  | single (analysis : Analysis) (totals : SingleTotals)
  | diff (comparison : Comparison) (totals : DiffTotals)
  deriving DecidableEq, Repr

namespace Report

def ofAnalysis (a : Analysis) : Report :=
  single a (.ofAnalysis a)

def ofComparison (c : Comparison) : Report :=
  diff c (.ofComparison c)

def binary : Report → String
  | single a _ => a.binary
  | diff c _ => s!"{c.beforeBinary} -> {c.afterBinary}"

def wastedSize : Report → Int
  | single _ totals => Quantity.toSigned totals.waste.totalWasted
  | diff _ totals => totals.waste.totalDiff

end Report

end Footprint
