import GridGauge.Proofs.Observing
import GridGauge.Service
import Mathlib.Logic.Relation

/-!
# Overlapping requests

Requests to the service are served side by side. One that shows a cycle is
served in four steps (`Step`): it reads from the settings which paths to ask
for, fetches the status, fetches the queue and answers. Between any two of
these there may be steps of other requests, the hub may come to reply
something else, and settings may be overridden.

None of this shows in an answer. What a request comes to is what it comes to
on its own, under the settings that were there when it began and with the
replies that it got itself (`Alone`): the service keeps nothing from one cycle
to the next, and what a fetch comes to depends on the one reply it gets. The
requests that it makes of the hub are likewise those of a cycle on its own,
the one for the status before the one for the queue, each made unless its
address cannot be read.
-/

namespace GridGauge

open Hub Scrape

/-! ## One reply -/

/-- What a fetch comes to depends on the reply to its request, if it makes one, and on no other. -/
theorem Hub.Fetcher.fetch_congr {f : Fetcher} {server server' : Server} {path : Text}
    (h : ∀ c ∈ request? f path, server c.path = server' c.path) :
    f.fetch server path = f.fetch server' path := by
  rw [request?] at h
  simp only [fetch]
  cases hu : Url.ofText (f.urlFor path) with
  | error e => rfl
  | ok u =>
    rw [hu] at h
    simp only
    rw [h _ List.mem_cons_self]

theorem Scrape.exists_reply (f : Fetcher) (server : Server) (path : Text) :
    ∃ r, ∀ c ∈ request? f path, server c.path = r := by
  rw [request?]
  cases Url.ofText (f.urlFor path) with
  | error e => exact ⟨.answer 404 [], fun c hc => absurd hc List.not_mem_nil⟩
  | ok u => exact ⟨server u.requestPath, fun c hc => by rw [List.mem_singleton.1 hc]⟩

namespace Scrape.Plan

/-- There is a plan when both paths can be written, and it is for these. -/
theorem ofSettings_eq_ok {f : Fetcher} {s : Settings} {p q : Text}
    (hp : (s.value .statusPath).toText = .ok p) (hq : (s.value .queuePath).toText = .ok q) :
    ofSettings f s = .ok ⟨f, p, q⟩ := by
  rw [ofSettings, hp, hq]
  rfl

/-- There is a plan, or a path cannot be written. -/
theorem ofSettings_cases (f : Fetcher) (s : Settings) :
    (∃ p q, (s.value .statusPath).toText = .ok p ∧ (s.value .queuePath).toText = .ok q) ∨
      ∃ e, ofSettings f s = .error e := by
  rw [ofSettings]
  cases hp : (s.value .statusPath).toText with
  | error e => exact .inr ⟨e, rfl⟩
  | ok p =>
    cases hq : (s.value .queuePath).toText with
    | error e => exact .inr ⟨e, rfl⟩
    | ok q => exact .inl ⟨p, q, rfl, rfl⟩

theorem statusOutcome_congr {plan : Plan} {server server' : Server}
    (h : ∀ c ∈ request? plan.fetcher plan.statusPath, server c.path = server' c.path) :
    plan.statusOutcome server = plan.statusOutcome server' := by
  rw [statusOutcome, statusOutcome, Fetcher.fetch_congr h]

theorem queueOutcome_congr {plan : Plan} {server server' : Server}
    (h : ∀ c ∈ request? plan.fetcher plan.queuePath, server c.path = server' c.path) :
    plan.queueOutcome server = plan.queueOutcome server' := by
  rw [queueOutcome, queueOutcome, Fetcher.fetch_congr h]

theorem statusOutcome_calls (plan : Plan) (server : Server) :
    (plan.statusOutcome server).2 = request? plan.fetcher plan.statusPath :=
  fetch_calls _ _ _

theorem queueOutcome_calls (plan : Plan) (server : Server) :
    (plan.queueOutcome server).2 = request? plan.fetcher plan.queuePath :=
  fetch_calls _ _ _

/-- A cycle in the making of its branches. -/
theorem runAgainst_eq (plan : Plan) (forStatus forQueue : Server) :
    plan.runAgainst forStatus forQueue =
      ⟨plan, (plan.statusOutcome forStatus).1, (plan.queueOutcome forQueue).1,
        (plan.statusOutcome forStatus).2 ++ (plan.queueOutcome forQueue).2⟩ := rfl

end Scrape.Plan

namespace Service

/-! ## Requests side by side -/

/-- The page that a request asks for, if it is one that shows a cycle. -/
def cyclePage? (a : Service) (r : Request) : Option Page :=
  match a.route r.method r.pathAndQuery.1 with
  | .page .metrics => some .metrics
  | .page .status => some .status
  | _ => none

/-- The answer that shows a cycle begun at the time `now`, on a page that shows one. -/
def Page.ofCycle (now : Binary64) : Page → Cycle → Answer
  | .manual _, _ | .health, _ => .internalError
  | .metrics, c => metricsPage c.observations
  | .status, c => jsonPage (c.report now).toJson

/-- A request when it begins: what it asks for, the time, and what is set. -/
structure Begun where
  request : Request
  now : Binary64
  settings : Settings

/-- How far a request is. -/
inductive Stage
  /-- It has not begun. -/
  | absent
  /-- The paths to ask for have been read. -/
  | planned (b : Begun) (page : Page) (plan : Plan)
  /-- The status has been fetched, with these requests. -/
  | halfway (b : Begun) (page : Page) (plan : Plan) (status : Outcome Status × List Call)
  /-- The queue has been fetched, too. -/
  | fetched (b : Begun) (page : Page) (c : Cycle)
  | answered (b : Begun) (answer : Answer)

/-- What the hub logs: a request, what it has replied, and for whom. -/
structure Exchange where
  id : Nat
  call : Call
  reply : Reply
  deriving DecidableEq, Repr

/-- The service at work, with all that may change around it. Requests to it are known by numbers. -/
structure State where
  settings : Settings
  hub : Server
  /-- The log of the hub. -/
  log : List Exchange
  stage : Nat → Stage

namespace State

/-- The state once a request is at another stage, for which it has made requests of the hub. -/
def move (st : State) (id : Nat) (stage : Stage) (calls : List Call) : State :=
  { st with
    log := st.log ++ calls.map fun c => ⟨id, c, st.hub c.path⟩
    stage := fun other => if other = id then stage else st.stage other }

/-- What the hub logs for a request. -/
def exchanges (st : State) (id : Nat) : List Exchange := st.log.filter (·.id = id)

end State

/-- A step of the service at `origin`, or of what is around it. -/
inductive Step (a : Service) (origin : Text) : State → State → Prop
  /-- The hub comes to reply something else. -/
  | hub {st : State} (hub : Server) : Step a origin st { st with hub }
  /-- A setting is overridden. -/
  | override {st : State} (path : List Text) (v : Setting) :
      Step a origin st { st with settings := st.settings.set path v }
  /-- A request that shows no cycle is served at once. -/
  | serve {st : State} (id : Nat) (r : Request) (now : Binary64) (h : st.stage id = .absent)
      (hr : a.cyclePage? r = none) :
      Step a origin st (st.move id
        (.answered ⟨r, now, st.settings⟩ (a.handle origin st.settings st.hub now r).answer)
        (a.handle origin st.settings st.hub now r).calls)
  /-- A path that is set cannot be written. -/
  | refuse {st : State} (id : Nat) (r : Request) (now : Binary64) {page : Page} {e : NumberError}
      (h : st.stage id = .absent) (hr : a.cyclePage? r = some page)
      (hplan : Plan.ofSettings a.fetcher st.settings = .error e) :
      Step a origin st (st.move id (.answered ⟨r, now, st.settings⟩ .internalError) [])
  /-- The paths to ask for are read. -/
  | plan {st : State} (id : Nat) (r : Request) (now : Binary64) {page : Page} {plan : Plan}
      (h : st.stage id = .absent) (hr : a.cyclePage? r = some page)
      (hplan : Plan.ofSettings a.fetcher st.settings = .ok plan) :
      Step a origin st (st.move id (.planned ⟨r, now, st.settings⟩ page plan) [])
  /-- The status is fetched. -/
  | fetchStatus {st : State} (id : Nat) {b : Begun} {page : Page} {plan : Plan}
      (h : st.stage id = .planned b page plan) :
      Step a origin st (st.move id (.halfway b page plan (plan.statusOutcome st.hub))
        (plan.statusOutcome st.hub).2)
  /-- The queue is fetched. -/
  | fetchQueue {st : State} (id : Nat) {b : Begun} {page : Page} {plan : Plan}
      {status : Outcome Status × List Call} (h : st.stage id = .halfway b page plan status) :
      Step a origin st (st.move id
        (.fetched b page ⟨plan, status.1, (plan.queueOutcome st.hub).1,
          status.2 ++ (plan.queueOutcome st.hub).2⟩)
        (plan.queueOutcome st.hub).2)
  /-- The cycle is shown. -/
  | answer {st : State} (id : Nat) {b : Begun} {page : Page} {c : Cycle}
      (h : st.stage id = .fetched b page c) :
      Step a origin st (st.move id (.answered b (page.ofCycle b.now c)) [])

/-- The states that the service comes to from when it is created, under any settings and with any
    hub. -/
inductive Reachable (a : Service) (origin : Text) : State → Prop
  | init (s : Settings) (hub : Server) : Reachable a origin ⟨s, hub, [], fun _ => .absent⟩
  | step {st st' : State} : Reachable a origin st → Step a origin st st' → Reachable a origin st'

/-! ## What a request comes to -/

variable {a : Service} {origin : Text} {st st' : State} {id : Nat} {b : Begun} {answer : Answer}

/-- What a request comes to on its own: the exchanges with the hub that it leads to, and its
    answer. For a page that shows a cycle this is up to the replies, first to the request for the
    status and then to that for the queue. -/
inductive Alone (a : Service) (origin : Text) (id : Nat) (b : Begun) :
    List Exchange → Answer → Prop
  /-- No cycle is shown, whatever the hub replies. -/
  | other (hr : a.cyclePage? b.request = none) (server : Server) :
      Alone a origin id b [] (a.handle origin b.settings server b.now b.request).answer
  /-- A path that was set cannot be written. -/
  | refused {page : Page} {e : NumberError} (hr : a.cyclePage? b.request = some page)
      (hplan : Plan.ofSettings a.fetcher b.settings = .error e) :
      Alone a origin id b [] .internalError
  /-- A cycle is shown, of the paths that were set. -/
  | cycle {page : Page} {p q : Text} (hr : a.cyclePage? b.request = some page)
      (hp : (b.settings.value .statusPath).toText = .ok p)
      (hq : (b.settings.value .queuePath).toText = .ok q) (forStatus forQueue : Reply) :
      Alone a origin id b
        ((request? a.fetcher p).map (⟨id, ·, forStatus⟩)
          ++ (request? a.fetcher q).map (⟨id, ·, forQueue⟩))
        (page.ofCycle b.now (Plan.runAgainst ⟨a.fetcher, p, q⟩ (fun _ => forStatus)
          (fun _ => forQueue)))

/-! ## On its own -/

variable {s : Settings} {server : Server} {now : Binary64} {r : Request} {page : Page}

theorem route_of_cyclePage? (hr : a.cyclePage? r = some page) :
    a.route r.method r.pathAndQuery.1 = .page page ∧ (page = .metrics ∨ page = .status) := by
  unfold cyclePage? at hr
  split at hr <;> cases hr
  · exact ⟨‹_›, .inl rfl⟩
  · exact ⟨‹_›, .inr rfl⟩

theorem takes_of_route {path : Text} (h : a.route r.method path = .page page) :
    page.takes r.method.capitals = true := by
  unfold route at h
  split at h
  · split at h
    · cases h
    · split at h
      · next htakes =>
        cases h
        exact htakes
      · cases h
  · simp only at h
    split at h
    · split at h <;> cases h
    · cases h

theorem handle_cycle (hr : a.cyclePage? r = some page) :
    a.handle origin s server now r = a.serveCycle s server (page.ofCycle now) := by
  obtain ⟨hroute, hpage⟩ := route_of_cyclePage? hr
  have htakes := takes_of_route hroute
  have hget : r.method.capitals = "GET" := by rcases hpage with rfl | rfl <;> exact eq_of_beq htakes
  rw [handle]
  simp only [hroute, hget]
  rcases hpage with rfl | rfl <;> rfl

/-- A request that shows no cycle is no matter for the hub. -/
theorem handle_other (hr : a.cyclePage? r = none) (server server' : Server) :
    a.handle origin s server now r = a.handle origin s server' now r ∧
      (a.handle origin s server now r).calls = [] := by
  unfold cyclePage? at hr
  simp only [handle]
  cases hroute : a.route r.method r.pathAndQuery.1 with
  | page page =>
    cases page with
    | manual m => exact ⟨rfl, by split <;> rfl⟩
    | health => exact ⟨rfl, by split <;> rfl⟩
    | metrics | status => rw [hroute] at hr; cases hr
  | _ => exact ⟨rfl, by split <;> rfl⟩

/-- What a request comes to on its own is what the service makes of it when it handles it from
    beginning to end, against any hub that gives these replies. -/
theorem Alone.handle {es : List Exchange} (h : Alone a origin id b es answer)
    (hserver : ∀ e ∈ es, server e.call.path = e.reply) :
    (a.handle origin b.settings server b.now b.request).answer = answer ∧
      (a.handle origin b.settings server b.now b.request).calls = es.map Exchange.call := by
  cases h with
  | other hr server' =>
    obtain ⟨same, calls⟩ := handle_other hr server server'
    exact ⟨by rw [same], calls⟩
  | refused hr hplan =>
    rw [handle_cycle hr, serveCycle, hplan]
    exact ⟨rfl, rfl⟩
  | @cycle page p q hr hp hq forStatus forQueue =>
    let plan : Plan := ⟨a.fetcher, p, q⟩
    have status : plan.statusOutcome server = plan.statusOutcome fun _ => forStatus :=
      Plan.statusOutcome_congr fun c hc =>
        hserver ⟨id, c, forStatus⟩ (List.mem_append_left _ (List.mem_map_of_mem hc))
    have queue : plan.queueOutcome server = plan.queueOutcome fun _ => forQueue :=
      Plan.queueOutcome_congr fun c hc =>
        hserver ⟨id, c, forQueue⟩ (List.mem_append_right _ (List.mem_map_of_mem hc))
    rw [handle_cycle hr, serveCycle, Plan.ofSettings_eq_ok hp hq]
    simp only [Plan.run, Plan.runAgainst_eq]
    rw [status, queue]
    refine ⟨rfl, ?_⟩
    simp [plan, Plan.statusOutcome_calls, Plan.queueOutcome_calls, Function.comp_def]

/-! ## One step -/

namespace State

variable {stage : Stage} {calls : List Call} {other : Nat}

theorem stage_move_self : (st.move id stage calls).stage id = stage := if_pos rfl

theorem stage_move_of_ne (h : other ≠ id) : (st.move id stage calls).stage other = st.stage other :=
  if_neg h

theorem exchanges_move_self :
    (st.move id stage calls).exchanges id =
      st.exchanges id ++ calls.map fun c => ⟨id, c, st.hub c.path⟩ := by
  simp only [exchanges, move, List.filter_append]
  congr 1
  rw [List.filter_eq_self]
  intro e he
  obtain ⟨c, -, rfl⟩ := List.mem_map.1 he
  simp

theorem exchanges_move_of_ne (h : other ≠ id) :
    (st.move id stage calls).exchanges other = st.exchanges other := by
  simp [exchanges, move, List.filter_append, List.filter_map, Function.comp_def, h.symm]

end State

/-- A request is where it is on its own after the exchanges that it has led to. -/
inductive Follows (a : Service) (origin : Text) (id : Nat) : Stage → List Exchange → Prop
  | absent : Follows a origin id .absent []
  | planned {b : Begun} {page : Page} {p q : Text} (hr : a.cyclePage? b.request = some page)
      (hp : (b.settings.value .statusPath).toText = .ok p)
      (hq : (b.settings.value .queuePath).toText = .ok q) :
      Follows a origin id (.planned b page ⟨a.fetcher, p, q⟩) []
  | halfway {b : Begun} {page : Page} {p q : Text} (hr : a.cyclePage? b.request = some page)
      (hp : (b.settings.value .statusPath).toText = .ok p)
      (hq : (b.settings.value .queuePath).toText = .ok q) (forStatus : Reply) :
      Follows a origin id
        (.halfway b page ⟨a.fetcher, p, q⟩
          (Plan.statusOutcome ⟨a.fetcher, p, q⟩ fun _ => forStatus))
        ((request? a.fetcher p).map (⟨id, ·, forStatus⟩))
  | fetched {b : Begun} {page : Page} {p q : Text} (hr : a.cyclePage? b.request = some page)
      (hp : (b.settings.value .statusPath).toText = .ok p)
      (hq : (b.settings.value .queuePath).toText = .ok q) (forStatus forQueue : Reply) :
      Follows a origin id
        (.fetched b page (Plan.runAgainst ⟨a.fetcher, p, q⟩ (fun _ => forStatus)
          (fun _ => forQueue)))
        ((request? a.fetcher p).map (⟨id, ·, forStatus⟩)
          ++ (request? a.fetcher q).map (⟨id, ·, forQueue⟩))
  | answered {b : Begun} {es : List Exchange} {answer : Answer}
      (h : Alone a origin id b es answer) : Follows a origin id (.answered b answer) es

/-- A request that moves is no matter for the others. -/
theorem follows_move (h : ∀ i, Follows a origin i (st.stage i) (st.exchanges i)) {stage : Stage}
    {calls : List Call}
    (hid : ∀ es, Follows a origin id (st.stage id) es →
      Follows a origin id stage (es ++ calls.map fun c => ⟨id, c, st.hub c.path⟩)) (i : Nat) :
    Follows a origin i ((st.move id stage calls).stage i)
      ((st.move id stage calls).exchanges i) := by
  by_cases hi : i = id
  · -- Only the request that moves has another stage and more exchanges than before.
    subst hi
    rw [State.stage_move_self, State.exchanges_move_self]
    exact hid _ (h i)
  · rw [State.stage_move_of_ne hi, State.exchanges_move_of_ne hi]
    exact h i

/-- The exchange that a fetch leads to. -/
theorem exists_exchange (f : Fetcher) (server : Server) (path : Text) (id : Nat) :
    ∃ r, (∀ c ∈ request? f path, server c.path = r) ∧
      (request? f path).map (fun c => (⟨id, c, server c.path⟩ : Exchange))
        = (request? f path).map (⟨id, ·, r⟩) := by
  obtain ⟨r, hr⟩ := exists_reply f server path
  exact ⟨r, hr, List.map_congr_left fun c hc => by rw [hr c hc]⟩

/-- Every step keeps every request where it is on its own. -/
theorem Step.follows (hstep : Step a origin st st')
    (h : ∀ i, Follows a origin i (st.stage i) (st.exchanges i)) (i : Nat) :
    Follows a origin i (st'.stage i) (st'.exchanges i) := by
  cases hstep with
  | hub => exact h i
  | override => exact h i
  | serve id r now habsent hr =>
    refine follows_move h (fun es hid => ?_) i
    rw [habsent] at hid
    cases hid
    rw [(handle_other hr st.hub st.hub).2]
    exact .answered (.other (b := ⟨r, now, st.settings⟩) hr st.hub)
  | refuse id r now habsent hr hplan =>
    refine follows_move h (fun es hid => ?_) i
    rw [habsent] at hid
    cases hid
    exact .answered (.refused hr hplan)
  | plan id r now habsent hr hplan =>
    refine follows_move h (fun es hid => ?_) i
    rw [habsent] at hid
    cases hid
    obtain ⟨p, q, hp, hq⟩ | ⟨e, he⟩ := Plan.ofSettings_cases a.fetcher st.settings
    · rw [Plan.ofSettings_eq_ok hp hq] at hplan
      cases hplan
      exact .planned hr hp hq
    · rw [he] at hplan
      cases hplan
  | fetchStatus id hst =>
    refine follows_move h (fun es hid => ?_) i
    rw [hst] at hid
    cases hid with
    | @planned _ _ p q hr hp hq =>
      -- Of the hub as it is now only this one reply counts.
      obtain ⟨r, hreply, hlog⟩ := exists_exchange a.fetcher st.hub p id
      have outcome : Plan.statusOutcome ⟨a.fetcher, p, q⟩ st.hub = Plan.statusOutcome _ fun _ => r :=
        Plan.statusOutcome_congr hreply
      rw [Plan.statusOutcome_calls, List.nil_append, hlog, outcome]
      exact .halfway hr hp hq r
  | fetchQueue id hst =>
    refine follows_move h (fun es hid => ?_) i
    rw [hst] at hid
    cases hid with
    | @halfway _ _ p q hr hp hq forStatus =>
      obtain ⟨r, hreply, hlog⟩ := exists_exchange a.fetcher st.hub q id
      have outcome : Plan.queueOutcome ⟨a.fetcher, p, q⟩ st.hub = Plan.queueOutcome _ fun _ => r :=
        Plan.queueOutcome_congr hreply
      have calls := Plan.queueOutcome_calls ⟨a.fetcher, p, q⟩ fun _ => r
      have fetched : Follows a origin id _ _ := .fetched hr hp hq forStatus r
      rw [Plan.runAgainst_eq, ← hlog, ← calls] at fetched
      rwa [outcome]
  | answer id hst =>
    refine follows_move h (fun es hid => ?_) i
    rw [hst] at hid
    cases hid with
    | fetched hr hp hq forStatus forQueue =>
      rw [List.map_nil, List.append_nil]
      exact .answered (.cycle hr hp hq forStatus forQueue)

/-- Wherever the service comes to, every request is where it is on its own. -/
theorem Reachable.follows (h : Reachable a origin st) (i : Nat) :
    Follows a origin i (st.stage i) (st.exchanges i) := by
  induction h generalizing i with
  | init => exact .absent
  | step _ hstep ih => exact hstep.follows ih i

/-- A request can be served at any time, and left alone from then on it is answered as the service
    handles it from beginning to end. -/
theorem exists_lone_run (h : st.stage id = .absent) (r : Request) (now : Binary64) :
    ∃ st', Relation.ReflTransGen (Step a origin) st st' ∧
      st'.stage id = .answered ⟨r, now, st.settings⟩
        (a.handle origin st.settings st.hub now r).answer := by
  cases hr : a.cyclePage? r with
  | none => exact ⟨_, .single (.serve id r now h hr), State.stage_move_self⟩
  | some page =>
    rw [handle_cycle hr, serveCycle]
    obtain ⟨p, q, hp, hq⟩ | ⟨e, he⟩ := Plan.ofSettings_cases a.fetcher st.settings
    · have hplan := Plan.ofSettings_eq_ok (f := a.fetcher) hp hq
      have planned : Step a origin st _ := .plan id r now h hr hplan
      have halfway := Relation.ReflTransGen.single planned |>.tail (.fetchStatus id State.stage_move_self)
      have fetched := halfway.tail (.fetchQueue id State.stage_move_self)
      have answered := fetched.tail (.answer id State.stage_move_self)
      refine ⟨_, answered, State.stage_move_self.trans ?_⟩
      rw [hplan]
      rfl
    · rw [he]
      exact ⟨_, .single (.refuse id r now h hr he), State.stage_move_self⟩

/-- However requests overlap, and whatever becomes of the hub and the settings meanwhile, each comes
    to what it comes to on its own, under the settings it began with and with the replies that it
    got: the same answer, and the same requests of the hub. So it is as if the service had handled
    it from beginning to end against a hub that gives these replies. -/
theorem overlapping_requests_alone (hst : Reachable a origin st)
    (h : st.stage id = .answered b answer) :
    Alone a origin id b (st.exchanges id) answer ∧
      ∀ server : Server, (∀ e ∈ st.exchanges id, server e.call.path = e.reply) →
        (a.handle origin b.settings server b.now b.request).answer = answer ∧
        (a.handle origin b.settings server b.now b.request).calls
          = (st.exchanges id).map Exchange.call := by
  have hid := hst.follows id
  rw [h] at hid
  cases hid with
  | answered hid => exact ⟨hid, fun server hserver => hid.handle hserver⟩

/-- Two requests overlap, the second beginning after another path for the status has been set and
    ending before the first. Each asks for the paths that were set when it began, and comes to what
    it comes to on its own. -/
theorem two_requests_alone :
    let a : Service := ⟨"http://hub.test:4444", ⟨"http://hub.test:4444", .zero⟩, "/metrics",
      [.literal "/metrics"]⟩
    let origin : Text := "http://testserver"
    let ready : Reply := .answer 200 (Utf8.encode "\x7b\"value\": \x7b\"ready\": true\x7d\x7d")
    let gone : Reply := .answer 500 []
    let queue : Call := ⟨"/se/grid/newsessionqueue/queue", .zero⟩
    ∃ st, Reachable a origin st ∧ st.log.map Exchange.id = [0, 1, 1, 0] ∧
      st.exchanges 0 = [⟨0, ⟨"/status", .zero⟩, ready⟩, ⟨0, queue, gone⟩] ∧
      st.exchanges 1 = [⟨1, ⟨"/other", .zero⟩, gone⟩, ⟨1, queue, gone⟩] ∧
      ∀ id ∈ [0, 1], ∃ b answer, st.stage id = .answered b answer ∧
        Alone a origin id b (st.exchanges id) answer := by
  intro a origin ready gone queue
  let paths (p : Text) : Plan := ⟨a.fetcher, p, "/se/grid/newsessionqueue/queue"⟩
  have begun : Reachable a origin (State.move _ 0
      (.planned ⟨⟨"GET", "/metrics"⟩, .zero, .initial []⟩ .metrics (paths "/status")) []) :=
    (Reachable.init (.initial []) (Server.ofRoutes [("/status", ready)])).step
      (.plan 0 _ _ rfl (by decide +kernel) rfl)
  have both : Reachable a origin (State.move _ 1
      (.planned ⟨⟨"GET", "/status"⟩, .zero, _⟩ .status (paths "/other")) []) :=
    (begun.step (.override ["hub", "status_path"] (.ofText "/other"))).step
      (.plan 1 _ _ rfl (by decide +kernel) rfl)
  have first := both.step (.fetchStatus 0 rfl)
  have second := ((first.step (.hub fun _ => gone)).step (.fetchStatus 1 rfl)).step
    (.fetchQueue 1 rfl)
  have ended := ((second.step (.answer 1 rfl)).step (.fetchQueue 0 rfl)).step
    (.answer 0 rfl)
  refine ⟨_, ended, by decide +kernel, by decide +kernel, by decide +kernel, ?_⟩
  intro id hid
  rcases List.mem_cons.1 hid with rfl | hid
  · exact ⟨_, _, rfl, (overlapping_requests_alone ended rfl).1⟩
  · rw [List.mem_singleton.1 hid]
    exact ⟨_, _, rfl, (overlapping_requests_alone ended rfl).1⟩

/-- A path for the status with which no address can be read makes a cycle ask for the queue only. -/
theorem unreadable_path_not_asked :
    let a : Service := ⟨"http://hub.test:4444", ⟨"http://hub.test:4444", .zero⟩, "/metrics",
      [.literal "/metrics"]⟩
    (Url.ofText a.fetcher.base).isOk = true ∧
      ∃ st b answer, Reachable a "http://testserver" st ∧ st.stage 0 = .answered b answer ∧
        a.cyclePage? b.request = some .metrics ∧
        (st.exchanges 0).map Exchange.call = [⟨"/se/grid/newsessionqueue/queue", .zero⟩] := by
  intro a
  have begun : Reachable a "http://testserver" (State.move _ 0
      (.planned ⟨⟨"GET", "/metrics"⟩, .zero, _⟩ .metrics
        ⟨a.fetcher, 0x2F :: 0x61 :: [1], "/se/grid/newsessionqueue/queue"⟩) []) :=
    ((Reachable.init (.initial []) (Server.ofRoutes [])).step
      (.override ["hub", "status_path"] (.ofText (0x2F :: 0x61 :: [1])))).step
      (.plan 0 _ _ rfl (by decide +kernel) rfl)
  have ended := ((begun.step (.fetchStatus 0 rfl)).step (.fetchQueue 0 rfl)).step (.answer 0 rfl)
  exact ⟨by decide +kernel, _, _, _, ended, rfl, by decide +kernel, by decide +kernel⟩

end Service

end GridGauge
