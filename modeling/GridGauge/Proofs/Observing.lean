import GridGauge.Proofs.Fetching
import GridGauge.Scrape.Cycle

/-!
# What a cycle observes

A request to an endpoint of the hub ends in one of three ways, which the reply
and the address settle between them (`Ending.of`). What is observed of the
status and of the queue is a table over these endings, and what a cycle
observes is the one behind the other: no branch takes anything from the other,
whatever its request ends in, and no gauge is given that the table does not
have.
-/

namespace GridGauge.Scrape

open Hub

/-- How a request to an endpoint ends. -/
inductive Ending
  /-- The hub was not reached, or it answered with no success. -/
  | failure
  /-- The hub answered with success and this body. -/
  | body (bytes : Bytes)
  /-- Something else broke off the request. -/
  | mishap

namespace Ending

/-- How the request for a path ends. One for an address that cannot be read, or that has no server,
    is broken off. -/
def of (f : Fetcher) (server : Server) (path : Text) : Ending :=
  match Url.ofText (f.urlFor path) with
  | .error _ => mishap
  | .ok u =>
    match server u.requestPath with
    | .network _ _ => failure
    | .mishap _ _ => mishap
    | .answer status bytes =>
      if u.isAbsolute then
        if 200 ≤ status ∧ status ≤ 299 then body bytes else failure
      else mishap

/-- What is observed of the status. -/
def statusRows : Ending → List (Gauge × Nat)
  | failure => [(.accessible, 0)]
  | mishap => []
  | body bytes =>
    match Status.decode (.bytes bytes) with
    | .error _ => [(.accessible, 1), (.deserializationError, 1)]
    | .ok d =>
      [(.accessible, 1), (.deserializationError, 0), (.ready, if d.ready then 1 else 0),
        (.numNodes, d.nodes.length), (.maxSessions, (d.nodes.map Node.maxSessions).foldr (· + ·) 0),
        (.numSessions, (d.nodes.flatMap Node.slots).countP fun s => s.session.isSome)]

/-- What is observed of the queue. -/
def queueRows : Ending → List (Gauge × Nat)
  | failure | mishap => []
  | body bytes =>
    match Queue.decode (.bytes bytes) with
    | .error _ => [(.queueDeserializationError, 1)]
    | .ok d => [(.queueDeserializationError, 0), (.queueSize, d.entries.length)]

/-- A branch that decodes bodies by `decode` comes out so when its request ends so. -/
inductive Yields {α : Type} (decode : Body → Except DecodeError α) : Ending → Outcome α → Prop
  | unreachable {e : FetchError} : Yields decode failure (.unreachable e)
  | broken {e : FetchError} : Yields decode mishap (.broken e)
  | undecodable {bytes : Bytes} {url : Text} {e : DecodeError} :
      decode (.bytes bytes) = .error e → Yields decode (body bytes) (.undecodable url e)
  | document {bytes : Bytes} {d : α} :
      decode (.bytes bytes) = .ok d → Yields decode (body bytes) (.document d)

/-- Every request ends in a way that settles how its branch comes out. -/
theorem yields_of_fetch {α : Type} (f : Fetcher) (server : Server) (path url : Text)
    (decode : Body → Except DecodeError α) :
    (Ending.of f server path).Yields decode (.ofFetch url decode (f.fetch server path).1) := by
  have h := f.fetched server path
  generalize (f.fetch server path).1 = result at h
  cases h with
  | unreadable hu =>
    simp only [Ending.of, hu]
    exact .broken
  | network hu hr =>
    simp only [Ending.of, hu, hr]
    exact .unreachable
  | mishap hu hr =>
    simp only [Ending.of, hu, hr]
    exact .broken
  | noServer hu hr ha =>
    simp only [Ending.of, hu, hr, ha]
    exact .broken
  | refused hu hr ha hs =>
    simp only [Ending.of, hu, hr, ha, if_true, if_neg hs]
    exact .unreachable
  | @body _ _ bytes hu hr ha hs =>
    simp only [Ending.of, hu, hr, ha, if_true, if_pos hs, Outcome.ofFetch]
    cases hd : decode (.bytes bytes) with
    | ok d => exact .document hd
    | error e => exact .undecodable hd

end Ending

/-- The slots of all nodes that hold a session, counted node by node. -/
theorem foldr_occupiedSlots (nodes : List Node) :
    (nodes.map Node.occupiedSlots).foldr (· + ·) 0
      = (nodes.flatMap Node.slots).countP fun s => s.session.isSome :=
  (List.countP_flatMap.trans List.sum_eq_foldr).symm

theorem Ending.Yields.statusRows {e : Ending} {o : Outcome Status} (h : e.Yields Status.decode o) :
    (statusObservations o).toList = e.statusRows := by
  cases h with
  | unreachable | broken => rfl
  | undecodable hd =>
    rw [Ending.statusRows, hd]
    rfl
  | document hd =>
    rw [Ending.statusRows, hd]
    simp only [← foldr_occupiedSlots]
    rfl

theorem Ending.Yields.queueRows {e : Ending} {o : Outcome Queue} (h : e.Yields Queue.decode o) :
    (queueObservations o).toList = e.queueRows := by
  cases h with
  | unreachable | broken => rfl
  | undecodable hd | document hd =>
    rw [Ending.queueRows, hd]
    rfl

/-- The gauges of the queue come behind those of the status, and no gauge is one of both. -/
theorem toList_observations (c : Cycle) :
    c.observations.toList
      = (statusObservations c.status).toList ++ (queueObservations c.queue).toList := by
  rw [Cycle.observations]
  cases c.status <;> cases c.queue <;> rfl

/-- The request made for a path, if its address can be read. -/
def request? (f : Fetcher) (path : Text) : List Call :=
  match Url.ofText (f.urlFor path) with
  | .error _ => []
  | .ok u => [⟨u.requestPath, f.timeout⟩]

/-- Whatever comes of a fetch, its request is made. -/
theorem fetch_calls (f : Fetcher) (server : Server) (path : Text) :
    (f.fetch server path).2 = request? f path := by
  rw [Fetcher.fetch, request?]
  cases Url.ofText (f.urlFor path) <;> rfl

/-- Under settings whose paths can be written, a cycle comes to its end whatever the hubs reply: it
    makes both requests, the one for the queue behind the one for the status, and it observes what
    the ending of the one says and behind that what the ending of the other says. There is no cycle
    only if a path cannot be written. -/
theorem cycle_observes_endings (f : Fetcher) (s : Settings) (forStatus forQueue : Server)
    (now : Binary64) :
    (∀ e, Plan.ofSettings f s = .error e →
      (s.value .statusPath).toText = .error e ∨ (s.value .queuePath).toText = .error e) ∧
    ∀ p q, (s.value .statusPath).toText = .ok p → (s.value .queuePath).toText = .ok q →
      ∃ plan, Plan.ofSettings f s = .ok plan ∧
        ((plan.runAgainst forStatus forQueue).report now).observations.toList
          = (Ending.of f forStatus p).statusRows ++ (Ending.of f forQueue q).queueRows ∧
        (plan.runAgainst forStatus forQueue).calls = request? f p ++ request? f q := by
  rw [Plan.ofSettings]
  refine ⟨fun e he => ?_, fun p q hp hq => ⟨⟨f, p, q⟩, ?_, ?_, ?_⟩⟩
  · cases hp : (s.value .statusPath).toText with
    | error e' =>
      rw [hp] at he
      cases he
      exact .inl rfl
    | ok p =>
      cases hq : (s.value .queuePath).toText with
      | error e' =>
        rw [hp, hq] at he
        cases he
        exact .inr rfl
      | ok q =>
        rw [hp, hq] at he
        cases he
  · rw [hp, hq]
    rfl
  · have hs := Ending.yields_of_fetch f forStatus p (f.urlFor p) Status.decode
    have hq := Ending.yields_of_fetch f forQueue q (f.urlFor q) Queue.decode
    rw [← hs.statusRows, ← hq.queueRows]
    exact toList_observations _
  · rw [← fetch_calls f forStatus p, ← fetch_calls f forQueue q]
    rfl

/-- At the settings that are there from the start, against a hub that says it is ready and has no
    queue, both requests are made and the queue is given no size. -/
theorem young_hub_observed :
    ∃ plan, Plan.ofSettings ⟨"http://hub.test:4444", .zero⟩ (.initial []) = .ok plan ∧
      let cycle := plan.run (.ofRoutes [("/status", .answer 200
        (Utf8.encode "\x7b\"value\": \x7b\"ready\": true\x7d\x7d"))])
      (cycle.report .zero).observations.toList
        = [(.accessible, 1), (.deserializationError, 0), (.ready, 1), (.numNodes, 0),
          (.maxSessions, 0), (.numSessions, 0)] ∧
      cycle.calls = [⟨"/status", .zero⟩, ⟨"/se/grid/newsessionqueue/queue", .zero⟩] := by
  obtain ⟨plan, hplan, hobs, hcalls⟩ := (cycle_observes_endings ⟨"http://hub.test:4444", .zero⟩
    (.initial []) _ _ .zero).2 "/status" "/se/grid/newsessionqueue/queue" rfl rfl
  refine ⟨plan, hplan, hobs.trans ?_, hcalls.trans ?_⟩
  · decide +kernel
  · decide +kernel

end GridGauge.Scrape
