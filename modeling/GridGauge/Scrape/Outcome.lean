import GridGauge.Gauge
import GridGauge.Hub.Document
import GridGauge.Hub.Fetch
import GridGauge.Logging.Format

/-!
# What comes of a branch

A cycle has two branches, one for the hub's status and one for its queue. Each
fetches a document and ends in one of four ways (`Outcome`), which settles
what is observed, what is reported as an error and what is logged.

The branches differ in what a failure to reach the hub means. That there is no
status means that the hub is not accessible. That there is no queue means
nothing: older hubs have none, so no observation is made, and in particular
none of zero.
-/

namespace GridGauge.Scrape

/-- The branches of a cycle, in the order in which they are run. -/
inductive Branch
  | status
  | queue
  deriving DecidableEq, Repr

/-- The name of a branch in reports. -/
def Branch.name : Branch → Text
  | .status => "hub_status"
  | .queue => "session_queue"

/-- The name of a branch in logs. -/
def Branch.logger : Branch → Text
  | .status => "collectors.status_collector"
  | .queue => "collectors.queue_collector"

/-- How a branch ends. -/
inductive Outcome (α : Type)
  /-- The hub was not reached, or it answered with no success. -/
  | unreachable (e : Hub.FetchError)
  /-- The body holds no document; it was fetched from `url`. -/
  | undecodable (url : Text) (e : Hub.DecodeError)
  /-- Something else broke off the request. -/
  | broken (e : Hub.FetchError)
  | document (d : α)

namespace Outcome

variable {α : Type}

/-- The outcome of a fetch from `url`, whose body is decoded by `decode`. -/
def ofFetch (url : Text) (decode : Hub.Body → Except Hub.DecodeError α) :
    Except Hub.FetchError Bytes → Outcome α
  | .ok body =>
    match decode (.bytes body) with
    | .ok d => .document d
    | .error e => .undecodable url e
  | .error (.transport url reason status) => .unreachable (.transport url reason status)
  | .error e => .broken e

/-- What is reported as the branch's error. -/
def error? : Outcome α → Option Text
  | .unreachable e | .broken e => some e.message
  | .undecodable _ e => some ("decode error: " ++ e.message)
  | .document _ => none

end Outcome

/-! ## The status -/

/-- What is observed of a status. -/
def statusObservations : Outcome Hub.Status → Observations Nat
  | .unreachable _ => Observations.none.set .accessible 0
  | .undecodable _ _ => (Observations.none.set .accessible 1).set .deserializationError 1
  | .broken _ => .none
  | .document d =>
    let a := d.aggregate
    (((((Observations.none.set .accessible 1).set .deserializationError 0).set .ready
      (Gauge.ofBool d.ready)).set .numNodes a.nodes).set .maxSessions a.maxSessions).set
        .numSessions a.sessions

/-! ## The queue -/

/-- What is observed of a queue. -/
def queueObservations : Outcome Hub.Queue → Observations Nat
  | .unreachable _ | .broken _ => .none
  | .undecodable _ _ => Observations.none.set .queueDeserializationError 1
  | .document q => (Observations.none.set .queueDeserializationError 0).set .queueSize q.size

/-! ## Logs -/

/-- The message of a branch that something broke off. -/
def brokenRecord (b : Branch) (e : Hub.FetchError) : Logging.Record :=
  ⟨"collectors.base", 40, "Collector " ++ b.name ++ " failed", some e.message⟩

/-- The word for a truth value in messages. -/
def truthWord (b : Bool) : Text := if b then "True" else "False"

/-- The message of the status branch. -/
def statusRecord : Outcome Hub.Status → Logging.Record
  | .unreachable e =>
    ⟨Branch.status.logger, 30, "Hub not accessible: " ++ e.message, none⟩
  | .undecodable url e =>
    ⟨Branch.status.logger, 30,
      "Failed to decode hub status from " ++ url ++ ": " ++ e.message, none⟩
  | .broken e => brokenRecord .status e
  | .document d =>
    let a := d.aggregate
    ⟨Branch.status.logger, 10,
      "Hub status: ready=" ++ truthWord d.ready ++ " nodes=" ++ Text.ofNat a.nodes
        ++ " max_sessions=" ++ Text.ofNat a.maxSessions ++ " sessions=" ++ Text.ofNat a.sessions,
      none⟩

/-- The message of the queue branch. -/
def queueRecord : Outcome Hub.Queue → Logging.Record
  | .unreachable e =>
    ⟨Branch.queue.logger, 10, "Session queue not accessible: " ++ e.message, none⟩
  | .undecodable url e =>
    ⟨Branch.queue.logger, 30,
      "Failed to decode session queue from " ++ url ++ ": " ++ e.message, none⟩
  | .broken e => brokenRecord .queue e
  | .document q =>
    ⟨Branch.queue.logger, 10,
      "Session queue: " ++ Text.ofNat q.size ++ " pending request(s)", none⟩

end GridGauge.Scrape
