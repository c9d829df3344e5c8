import GridGauge.Gauge
import GridGauge.Number.Shortest

/-!
# The text exposition

Gauges are published as lines of text: for each one that was observed a line
with what it means, a line with its type, and a line with its value. The value
is a floating-point number, written with an exponent from a million on.
-/

namespace GridGauge.Exposition

/-- The form of a value: positional from `0.0001` up to six figures, and else with a power of ten of
    two digits at least: `1e+09` is followed by `1e+10`, for which older releases of
    prometheus_client write `1e+010`. -/
def valueLayout : Layout := ⟨-4, 6, 2⟩

/-- The gauges with their names and meanings, as they are announced before any is observed. -/
def announced : List (Text × Text) := Gauge.all.map fun g => (g.name, g.help)

/-- The lines of a gauge with a value. -/
def lines (g : Gauge) (x : Binary64) : Text :=
  "# HELP " ++ g.name ++ " " ++ g.help ++ "\n# TYPE " ++ g.name ++ " gauge\n" ++ g.name ++ " "
    ++ valueLayout.number x ++ "\n"

/-- The lines of all gauges observed. A value that is too large for a floating-point number has
    none. -/
def ofObservations (o : Observations Nat) : Option Text :=
  (o.toList.mapM fun b => (Binary64.ofInt? (b.2 : Nat)).map (lines b.1)).map List.flatten

end GridGauge.Exposition
