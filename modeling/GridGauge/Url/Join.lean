import GridGauge.Text

/-!
# Joining a base and a path

The address of a page is the base address and the path with exactly one slash
between them, however many either brings along.
-/

namespace GridGauge.Url

/-- The slash. -/
def slash : CodePoint := 0x2F

/-- `base` and `path` with one slash between them, or `base` alone if there is no path. -/
def join (base path : Text) : Text :=
  if path.isEmpty then base
  else base.dropTrailing slash ++ slash :: path.dropWhile (· == slash)

end GridGauge.Url
