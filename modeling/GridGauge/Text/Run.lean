import GridGauge.Text

/-!
# Runs of code points

A class of code points is a list of runs, each with its first and its last.
The tables of this library are in increasing order, but nothing depends on it.
-/

namespace GridGauge.Text

/-- A list of runs of code points, each by its first and its last. -/
abbrev Runs := List (CodePoint × CodePoint)

/-- Is the code point in one of the runs? -/
def Runs.has (runs : Runs) (c : CodePoint) : Bool := runs.any fun r => r.1 ≤ c && c ≤ r.2

theorem Runs.has_nil (c : CodePoint) : Runs.has [] c = false := rfl

theorem Runs.has_cons (r : CodePoint × CodePoint) (runs : Runs) (c : CodePoint) :
    Runs.has (r :: runs) c = (r.1 ≤ c && c ≤ r.2 || Runs.has runs c) := rfl

end GridGauge.Text
