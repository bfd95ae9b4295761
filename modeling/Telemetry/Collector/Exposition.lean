import Telemetry.Collector.Series
import Telemetry.Number.ShortestDecimal

/-! # The text that metrics are exported as

A family of samples is announced by its help text and its type and lists one
sample a line: the name, the labels in braces, and the value.  Families stand in
the order of their names, samples in the order of their labels, and a family
without samples is left out.
-/

namespace Telemetry.Exposition

/-- A character inside a quoted label. -/
def escape (c : Char) : List Char :=
  if c = '\\' then ['\\', '\\']
  else if c = '\n' then ['\\', 'n']
  else if c = '"' then ['\\', '"']
  else [c]

/-- A label with its quoted value. -/
def label (l : String × String) : String :=
  l.1 ++ "=\"" ++ String.ofList (l.2.toList.flatMap escape) ++ "\""

/-- A line with the labels and the value of a sample. -/
def sample (name : String) (labels : List (String × String)) (value : Int) : String :=
  name ++ "\x7b" ++ String.intercalate "," (labels.map label) ++ "\x7d " ++
    ShortestDecimal.text value ++ "\n"

/-- A family of samples. -/
def family (name help kind : String) (samples : List String) : String :=
  if samples.isEmpty then ""
  else "# HELP " ++ name ++ " " ++ help ++ "\n# TYPE " ++ name ++ " " ++ kind ++ "\n" ++
    String.join samples

end Exposition

namespace Metrics

/-- The series in the order of their labels. -/
def sortedSeries (m : Metrics) : List SeriesValue :=
  sortOn (fun v => v.labels.pairs.map Prod.snd) m.series.values

/-- The text of all metrics. -/
def exposition (m : Metrics) : String :=
  Exposition.family "sensor_collect_failures_total"
    "Collection cycles in which a host exhausted its attempts" "counter"
    (m.failures.entries.map fun e =>
      Exposition.sample "sensor_collect_failures_total" [("host", e.1)] e.2) ++
  Exposition.family "sensor_value" "Latest reading of a hardware sensor" "gauge"
    (m.sortedSeries.map fun v => Exposition.sample "sensor_value" v.labels.pairs v.value.toInt)

end Metrics

end Telemetry
