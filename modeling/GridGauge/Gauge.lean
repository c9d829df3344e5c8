import GridGauge.Text

/-!
# Gauges

The quantities that are observed of a grid. The order of `Gauge.all` is the
order in which they are always given. Observations say for each gauge what was
observed, or that nothing was: a gauge without an observation is left out, and
never given as zero.
-/

namespace GridGauge

/-- A quantity observed of a grid. -/
inductive Gauge
  | accessible
  | deserializationError
  | ready
  | numNodes
  | maxSessions
  | numSessions
  | queueDeserializationError
  | queueSize
  deriving DecidableEq, Repr

namespace Gauge

/-- All gauges, in order. -/
def all : List Gauge :=
  [.accessible, .deserializationError, .ready, .numNodes, .maxSessions, .numSessions,
    .queueDeserializationError, .queueSize]

/-- All gauges are among them. -/
theorem mem_all (g : Gauge) : g ∈ all := by cases g <;> decide

/-- What tells a gauge from the others in its name. -/
def suffix : Gauge → Text
  | .accessible => "accessible"
  | .deserializationError => "deserialization_error"
  | .ready => "ready"
  | .numNodes => "num_nodes"
  | .maxSessions => "max_sessions_aggregated"
  | .numSessions => "num_sessions_aggregated"
  | .queueDeserializationError => "queue_deserialization_error"
  | .queueSize => "queue_size"

/-- What a gauge means, in a sentence. -/
def help : Gauge → Text
  | .accessible =>
    "This metric will be set to 1 if the last ping to the hub was successful, and 0 otherwise"
  | .deserializationError =>
    "This metric will be set to 1 if there was an error deserializing the last status response "
      ++ "from the server, and 0 otherwise"
  | .ready =>
    "This metric will be set to 1 if the hub server indicates it is ready to receive requests, "
      ++ "and 0 otherwise"
  | .numNodes =>
    "This metric provides the current number of nodes within the Selenium Grid cluster"
  | .maxSessions =>
    "This metric provides an aggregated quantity of the maximum number of sessions able to be "
      ++ "run within this Selenium Grid cluster"
  | .numSessions =>
    "This metric provides an aggregated quantity of the number of sessions running within this "
      ++ "Selenium Grid cluster"
  | .queueDeserializationError =>
    "This metric will be set to 1 if there was an error deserializing the last queue status "
      ++ "response from the server, and 0 otherwise"
  | .queueSize =>
    "This metric provides information on the queue size within your Selenium Grid Hub"

/-- The name under which the gauge with this suffix is published. -/
def publishedName (suffix : Text) : Text := "selenium_grid_" ++ suffix

/-- The name under which a gauge is published. -/
def name (g : Gauge) : Text := publishedName g.suffix

/-- The value of a gauge that tells whether something holds. -/
def ofBool (holds : Bool) : Nat := if holds then 1 else 0

end Gauge

/-- What was observed, gauge by gauge. -/
abbrev Observations (α : Type) := Gauge → Option α

namespace Observations

variable {α : Type}

/-- No observation at all. -/
def none : Observations α := fun _ => .none

/-- The observations with `value` for the gauge `g`. -/
def set (o : Observations α) (g : Gauge) (value : α) : Observations α :=
  fun h => if h = g then some value else o h

/-- The observations of `later` where there are any, else those of `o`. -/
def orElse (later o : Observations α) : Observations α := fun g => later g <|> o g

/-- The gauges observed, in order, with their values. -/
def toList (o : Observations α) : List (Gauge × α) :=
  Gauge.all.filterMap fun g => (o g).map (g, ·)

@[simp] theorem none_apply (g : Gauge) : (none : Observations α) g = .none := rfl

@[simp] theorem set_self (o : Observations α) (g : Gauge) (value : α) :
    o.set g value g = some value := if_pos rfl

theorem set_of_ne (o : Observations α) {g h : Gauge} (value : α) (ne : h ≠ g) :
    o.set g value h = o h := if_neg ne

/-- The list of observations has each observation, and nothing else. -/
theorem mem_toList {o : Observations α} {g : Gauge} {value : α} :
    (g, value) ∈ o.toList ↔ o g = some value := by
  simp only [toList, List.mem_filterMap, Option.map_eq_some_iff, Prod.mk.injEq]
  constructor
  · rintro ⟨_, _, _, h, rfl, rfl⟩
    exact h
  · intro h
    exact ⟨g, Gauge.mem_all g, value, h, rfl, rfl⟩

end Observations

end GridGauge
