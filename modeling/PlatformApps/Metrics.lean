/-
# Metrics

What the operator counts about itself: how long passes take, which failures they end
with, and, for every cluster that is being torn down, what its teardown waits for. A series
exists from its first change on; the series of a cluster end when it is released. `lines`
is the text format in which metrics are collected.
-/

import PlatformApps.Binary64.Rough
import PlatformApps.Table

namespace PlatformApps

/-- Values counted by the buckets they fall into. -/
structure Histogram where
  /-- Number of values for each bucket, the last one for values above all bounds. -/
  counts : List Nat
  count : Nat
  sum : Binary64

namespace Histogram

/-- Upper bounds from a millisecond on, each twice the one before. -/
def bounds : List Binary64 :=
  (List.range 16).filterMap fun step =>
    (Binary64.ofFraction false 1 1000).map fun first =>
      { first with exponent := first.exponent + (step : Int) }

def empty : Histogram := ⟨List.replicate (bounds.length + 1) 0, 0, .zero⟩

/-- Index of the first bucket that holds a value. -/
def bucket (value : Binary64) : Nat :=
  bounds.findIdx fun bound => decide (value.toRat ≤ bound.toRat)

def observe (histogram : Histogram) (value : Binary64) : Histogram where
  counts := histogram.counts.modify (bucket value) (· + 1)
  count := histogram.count + 1
  sum := histogram.sum.add value

end Histogram

/-- A change of the metrics. -/
inductive MetricChange where
  | duration (controller : String) (seconds : Binary64)
  | failure (controller kind : String)
  | dangling (cluster : String) (count : Nat)
  | phase (cluster : String) (ordinal : Int)
  | forget (cluster : String)

structure Metrics where
  durations : Table String Histogram := ∅
  /-- By controller and kind of failure. -/
  failures : Table (String × String) Nat := ∅
  dangling : Table String Int := ∅
  phases : Table String Int := ∅

namespace Metrics

/-- The largest value of a gauge. -/
def gaugeLimit : Int := 9223372036854775807

def apply (metrics : Metrics) : MetricChange → Metrics
  | .duration controller seconds =>
    let known := (metrics.durations.find? controller).getD .empty
    { metrics with durations := metrics.durations.insert controller (known.observe seconds) }
  | .failure controller kind =>
    let known := (metrics.failures.find? (controller, kind)).getD 0
    { metrics with failures := metrics.failures.insert (controller, kind) (known + 1) }
  | .dangling cluster count =>
    { metrics with dangling := metrics.dangling.insert cluster (min (count : Int) gaugeLimit) }
  | .phase cluster ordinal => { metrics with phases := metrics.phases.insert cluster ordinal }
  | .forget cluster =>
    { metrics with
      dangling := metrics.dangling.erase cluster
      phases := metrics.phases.erase cluster }

/-- Decimal notation up to 21 digits before the point and six zeros behind it. -/
def numberLayout : Binary64.Layout := ⟨21, -6⟩

/-- A line for one value. Labels are written as they are. -/
def sample (name : String) (labels : List (String × String)) (value : String) : String :=
  let written := labels.map fun label => label.1 ++ "=\"" ++ label.2 ++ "\""
  name ++ "\x7b" ++ ",".intercalate written ++ "\x7d " ++ value

/-- What a family of series is, and its type. -/
def header (name help type : String) : List String :=
  [s!"# HELP {name} {help}.", s!"# TYPE {name} {type}"]

def durationName : String := "cluster_apps_reconcile_duration_seconds"

def failureName : String := "cluster_apps_reconcile_errors"

def danglingName : String := "cluster_apps_dangling_apps"

def phaseName : String := "cluster_apps_teardown_phase"

/-- The running totals of counts. -/
def totals : Nat → List Nat → List Nat
  | _, [] => []
  | before, count :: rest => (before + count) :: totals (before + count) rest

def histogramLines (controller : String) (histogram : Histogram) : List String :=
  let labels := [("controller", controller)]
  let bounds := Histogram.bounds.map (·.renderRough numberLayout) ++ ["+Inf"]
  let buckets := (bounds.zip (totals 0 histogram.counts)).map fun (bound, total) =>
    sample (durationName ++ "_bucket") (("le", bound) :: labels) (toString total)
  sample (durationName ++ "_sum") labels (histogram.sum.renderRough numberLayout) ::
    sample (durationName ++ "_count") labels (toString histogram.count) :: buckets

def gaugeLines (name : String) (values : Table String Int) : List String :=
  values.toList.map fun entry => sample name [("cluster_id", entry.1)] (toString entry.2)

/-- The lines of the text format, family by family. -/
def lines (metrics : Metrics) : List String :=
  header durationName "Duration of reconcile loops in seconds" "histogram" ++
    metrics.durations.toList.flatMap (fun entry => histogramLines entry.1 entry.2) ++
    header failureName "Total number of reconcile errors" "counter" ++
    metrics.failures.toList.map (fun entry =>
      sample (failureName ++ "_total") [("controller", entry.1.1), ("kind", entry.1.2)]
        (toString entry.2)) ++
    header danglingName "Tenant apps still blocking the teardown of a cluster" "gauge" ++
    gaugeLines danglingName metrics.dangling ++
    header phaseName "Teardown phase a deleting cluster is waiting in" "gauge" ++
    gaugeLines phaseName metrics.phases ++ ["# EOF"]

/-- The text that is collected. -/
def render (metrics : Metrics) : String :=
  String.join (metrics.lines.map (· ++ "\n"))

end Metrics

end PlatformApps
