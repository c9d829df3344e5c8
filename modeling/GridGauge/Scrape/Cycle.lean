import GridGauge.Json
import GridGauge.Scrape.Outcome
import GridGauge.Settings

/-!
# Cycles

A cycle reads from the settings which paths to ask for, fetches the status,
then the queue whatever came of the status, and reports what both branches
observed (`Plan.run`). Between its steps anything may happen to the hub and
the settings: what a cycle does depends on the settings as it starts, and what
it reports on the two replies it gets (`Cycle.report`).
-/

namespace GridGauge.Scrape

/-- What a cycle is going to do. -/
structure Plan where
  fetcher : Hub.Fetcher
  statusPath : Text
  queuePath : Text
  deriving DecidableEq, Repr, Inhabited

/-- The plan of a cycle that starts under the settings, unless a path there cannot be written. -/
def Plan.ofSettings (fetcher : Hub.Fetcher) (s : Settings) : Except NumberError Plan := do
  return ⟨fetcher, ← (s.value .statusPath).toText, ← (s.value .queuePath).toText⟩

/-- What has come of both branches. -/
structure Cycle where
  plan : Plan
  status : Outcome Hub.Status
  queue : Outcome Hub.Queue
  /-- The requests, in order. -/
  calls : List Hub.Call

/-- What is reported of a cycle. -/
structure Report where
  /-- The base address of the hub. -/
  hubUrl : Text
  /-- The time, in seconds. -/
  timestamp : Binary64
  observations : Observations Nat
  /-- The errors by the names of the branches. -/
  errors : List (Text × Text)

namespace Plan

variable (p : Plan)

/-- The outcome of the status branch, with its requests. -/
def statusOutcome (server : Hub.Server) : Outcome Hub.Status × List Hub.Call :=
  let (body, calls) := p.fetcher.fetch server p.statusPath
  (.ofFetch (p.fetcher.urlFor p.statusPath) Hub.Status.decode body, calls)

/-- The outcome of the queue branch, with its requests. -/
def queueOutcome (server : Hub.Server) : Outcome Hub.Queue × List Hub.Call :=
  let (body, calls) := p.fetcher.fetch server p.queuePath
  (.ofFetch (p.fetcher.urlFor p.queuePath) Hub.Queue.decode body, calls)

/-- The cycle whose branches meet the given hubs. -/
def runAgainst (forStatus forQueue : Hub.Server) : Cycle :=
  let (status, statusCalls) := p.statusOutcome forStatus
  let (queue, queueCalls) := p.queueOutcome forQueue
  ⟨p, status, queue, statusCalls ++ queueCalls⟩

/-- The cycle against a hub. -/
def run (server : Hub.Server) : Cycle := p.runAgainst server server

end Plan

namespace Cycle

variable (c : Cycle)

/-- What both branches observed. -/
def observations : Observations Nat :=
  (queueObservations c.queue).orElse (statusObservations c.status)

/-- The error of a branch, if it has one that says anything. -/
def errorOf (b : Branch) (error : Option Text) : List (Text × Text) :=
  ((error.filter (!List.isEmpty ·)).map (b.name, ·)).toList

/-- The errors of both branches. -/
def errors : List (Text × Text) :=
  errorOf .status c.status.error? ++ errorOf .queue c.queue.error?

/-- The messages of both branches. -/
def records : List Logging.Record := [statusRecord c.status, queueRecord c.queue]

/-- The report of the cycle. -/
def report (timestamp : Binary64) : Report where
  hubUrl := c.plan.fetcher.base
  timestamp := timestamp
  observations := c.observations
  errors := c.errors

end Cycle

namespace Report

/-- The observations under the names of the gauges. -/
def metrics (r : Report) : List (Text × Nat) :=
  r.observations.toList.map fun (g, n) => (g.name, n)

/-- The report as a JSON value. -/
def toJson (r : Report) : Json :=
  .object [("hub_url", .string r.hubUrl), ("timestamp", .float r.timestamp),
    ("metrics", .object (r.metrics.map fun (k, n) => (k, .int n))),
    ("errors", .object (r.errors.map fun (k, t) => (k, .string t)))]

/-- Was the hub observed to be accessible? -/
def accessible (r : Report) : Bool :=
  match r.observations .accessible with
  | some n => n != 0
  | none => false

end Report

/-! ## Fetchers -/

/-- The address of the hub under the settings: the one given if there is one, else the one that is
    set. -/
def hubAddress (s : Settings) (given : Option Text) : Except NumberError Text :=
  match given with
  | some url => if url.isEmpty then (s.value? .hubUrl).toText else .ok url
  | none => (s.value? .hubUrl).toText

/-- The fetcher for the hub under the settings, at the address given if there is one. -/
def fetcherFor (s : Settings) (hubUrl : Option Text) : Except NumberError Hub.Fetcher := do
  return ⟨← hubAddress s hubUrl, ← (s.value .hubTimeout).toNumber⟩

end GridGauge.Scrape
