import GridGauge.Json.Writer
import GridGauge.Program.Session
import GridGauge.Scrape.Cycle
import GridGauge.Terminal.Panel

/-!
# What is shown of a cycle

The report of a cycle is shown as JSON or as a table with all gauges, which
says of a gauge without an observation that it was not emitted. Below the
table are the errors of the branches.

Both ways a number may be too long to write. As a table, the address of the hub
and the errors are taken for markup besides, and stand in what is printed as
they are, surrogates and all.
-/

namespace GridGauge.Scrape.Report

open GridGauge.Program

/-- Can all numbers of the report be written? -/
def isWritable (r : Report) : Bool := r.metrics.all fun m => withinDigitLimit (m.2 : Nat)

/-- The report as JSON, on several lines if it is to be pretty. -/
def jsonText (r : Report) (pretty : Bool) : Except Failure Text :=
  if r.isWritable then .ok (r.toJson.toText (if pretty then .indented else .spaced) ++ [10])
  else .error .tooLong

/-- The table of the report. -/
def table (r : Report) : Terminal.Table where
  title := "Selenium Grid Metrics"
  headings := ["Metric", "Value"]
  rows := Gauge.all.map fun g => [g.name, match r.observations g with
    | some n => Text.ofNat n
    | none => "not emitted"]

/-- The table of the report in its panel, as it is printed. -/
def panelText (r : Report) (columns : Nat) : Except Failure Text :=
  if r.isWritable then
    (Terminal.printedPanel columns ("Hub: " ++ r.hubUrl) r.table).mapError .markup
  else .error .tooLong

/-- The line about an error of a branch, in markup. -/
def errorMarkup (name reason : Text) : Text := "[yellow]" ++ name ++ "[/yellow]: " ++ reason

/-- The status that the program ends with: only if the hub is accessible is all well. -/
def exitStatus (r : Report) : Nat := if r.accessible then 0 else 1

end GridGauge.Scrape.Report
