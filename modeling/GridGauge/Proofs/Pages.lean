import GridGauge.Proofs.Messages
import GridGauge.Proofs.Observing
import GridGauge.Proofs.Rounding
import GridGauge.Service

/-!
# When the pages of a cycle are answered

A cycle always comes to its end, but what is made of it may not. The metrics
page needs a floating-point number for each value, and the values are not
bounded: the sum over all nodes can be too large for any. The page in JSON has
room for every number, but it needs texts without halves of surrogate pairs,
and some of its texts come from outside.

No body can bring such a half into the page, since errors of decoding quote
what they show. What is left is the address itself, and what is said by
whatever broke off a request (`shownTexts`).
-/

namespace GridGauge

open Hub Scrape

/-! ## The metrics page -/

/-- A list is mapped if each of its members is. -/
theorem exists_mapM_iff {α β : Type} {f : α → Option β} {l : List α} :
    (∃ ys, l.mapM f = some ys) ↔ ∀ x ∈ l, ∃ y, f x = some y := by
  induction l with
  | nil => simp
  | cons x l ih =>
    rw [List.forall_mem_cons, ← ih, List.mapM_cons]
    cases f x with
    | none => simp
    | some y => cases l.mapM f <;> simp

namespace Exposition

theorem exists_ofObservations_iff {o : Observations Nat} :
    (∃ t, ofObservations o = some t) ↔ ∀ row ∈ o.toList, row.2 < Binary64.overflow := by
  have hlines : ∀ row : Gauge × Nat,
      (∃ t, (Binary64.ofInt? (row.2 : Nat)).map (lines row.1) = some t)
        ↔ row.2 < Binary64.overflow := fun row => by
    rw [← Int.natAbs_natCast row.2, ← Binary64.exists_ofInt?_iff]
    simp only [Option.map_eq_some_iff, Int.natAbs_natCast]
    exact ⟨fun ⟨_, x, hx, _⟩ => ⟨x, hx⟩, fun ⟨x, hx⟩ => ⟨_, x, hx, rfl⟩⟩
  rw [← forall₂_congr fun row _ => hlines row, ← exists_mapM_iff, ofObservations]
  simp only [Option.map_eq_some_iff]
  exact ⟨fun ⟨_, ls, hls, _⟩ => ⟨ls, hls⟩, fun ⟨ls, hls⟩ => ⟨_, ls, hls, rfl⟩⟩

end Exposition

namespace Service

/-- The metrics are answered with success when no value overflows. -/
theorem metricsPage_status {o : Observations Nat} :
    (metricsPage o).status = 200 ↔ ∀ row ∈ o.toList, row.2 < Binary64.overflow := by
  rw [← Exposition.exists_ofObservations_iff, metricsPage]
  cases Exposition.ofObservations o with
  | none => exact ⟨nofun, nofun⟩
  | some t => exact ⟨fun _ => ⟨t, rfl⟩, fun _ => rfl⟩

/-! ## The page in JSON -/

theorem jsonPage_status {v : Json} : (jsonPage v).status = 200 ↔ isWritable v = true := by
  rw [jsonPage]
  cases isWritable v with
  | false => exact ⟨nofun, nofun⟩
  | true => exact ⟨fun _ => rfl, fun _ => rfl⟩

theorem not_any_isSurrogate {t : Text} : (!t.any Text.isSurrogate) = true ↔ t.IsWhole := by
  simp [Text.IsWhole]

theorem areWritableMembers_iff {ms : List (Text × Json)} :
    areWritableMembers ms = true ↔ ∀ m ∈ ms, m.1.IsWhole ∧ isWritable m.2 = true := by
  induction ms with
  | nil => simp [areWritableMembers]
  | cons m ms ih =>
    obtain ⟨k, v⟩ := m
    rw [areWritableMembers, Bool.and_eq_true, Bool.and_eq_true, not_any_isSurrogate, ih,
      List.forall_mem_cons]

theorem isWhole_gauge_name (g : Gauge) : g.name.IsWhole := by
  cases g <;> decide

theorem areWritableMembers_map {α : Type} {f : α → Text × Json} {l : List α} :
    areWritableMembers (l.map f) = true ↔ ∀ x ∈ l, (f x).1.IsWhole ∧ isWritable (f x).2 = true :=
  areWritableMembers_iff.trans List.forall_mem_map

/-- A report can be written when the texts in it can. -/
theorem isWritable_report {r : Report} :
    isWritable r.toJson = true ↔ r.hubUrl.IsWhole ∧ ∀ e ∈ r.errors, e.1.IsWhole ∧ e.2.IsWhole := by
  have hmetrics : ∀ row ∈ r.metrics, row.1.IsWhole := by
    intro row hrow
    obtain ⟨⟨g, n⟩, _, hg⟩ := List.mem_map.1 hrow
    cases hg
    exact isWhole_gauge_name g
  rw [Report.toJson, isWritable, areWritableMembers_iff]
  simp only [List.forall_mem_cons, isWritable, not_any_isSurrogate, Text.isWhole_ofString,
    true_and, and_true]
  rw [areWritableMembers_map, areWritableMembers_map]
  constructor
  · rintro ⟨hurl, _, herrors, _⟩
    exact ⟨hurl, fun e he => ⟨(herrors e he).1, not_any_isSurrogate.1 (herrors e he).2⟩⟩
  · rintro ⟨hurl, herrors⟩
    exact ⟨hurl, fun row hrow => ⟨hmetrics row hrow, rfl⟩,
      fun e he => ⟨(herrors e he).1, not_any_isSurrogate.2 (herrors e he).2⟩,
      List.forall_mem_nil _⟩

end Service

/-! ## Texts from outside -/

namespace Scrape

/-- The texts from outside that a branch shows in its error: the address asked for and what the
    network says of it, or what is said of what else broke off the request. -/
def shownTexts (f : Fetcher) (server : Server) (path : Text) : List Text :=
  match Url.ofText (f.urlFor path) with
  | .error _ => []
  | .ok u =>
    match server u.requestPath with
    | .network fault message =>
      [f.urlFor path, if message.isEmpty then fault.name else message]
    | .mishap _ message => [message]
    | .answer status _ =>
      if u.isAbsolute ∧ ¬(200 ≤ status ∧ status ≤ 299) then [f.urlFor path] else []

section

variable {P : Text → Prop} (happend : ∀ s t, P (s ++ t) ↔ P s ∧ P t)
  (hscalar : ∀ t : Text, t.IsScalar → P t)
include happend hscalar

/-- What goes for a text when it goes for its parts, and for all texts of scalar values, goes for
    the error of a branch when it goes for the texts from outside in it. -/
theorem forall_error_iff {α : Type} {decode : Body → Except DecodeError α}
    (hdecode : ∀ b e, decode b = .error e → e.message.IsScalar) (f : Fetcher) (server : Server)
    (path url : Text) :
    (∀ t, (Outcome.ofFetch url decode (f.fetch server path).1).error? = some t → P t)
      ↔ ∀ t ∈ shownTexts f server path, P t := by
  have hword (s : String) : P s := hscalar s (Text.isScalar_ofString s)
  have hnumber (n : Nat) : P (Text.ofNat n) := hscalar _ (Text.isScalar_ofNat n)
  have hquoted (t : Text) : P (Text.Quoted.encode t) := hscalar _ (Text.Quoted.isScalar_encode t)
  have h := f.fetched server path
  generalize (f.fetch server path).1 = result at h
  cases h with
  | @unreadable e hu =>
    have := hscalar _ (Url.Error.isScalar_message e)
    simp [shownTexts, hu, Outcome.ofFetch, Outcome.error?, FetchError.message, this]
  | network hu hr | mishap hu hr =>
    simp [shownTexts, hu, hr, Outcome.ofFetch, Outcome.error?, FetchError.message, happend, hword]
  | noServer hu hr ha =>
    simp [shownTexts, hu, hr, ha, Outcome.ofFetch, Outcome.error?, FetchError.message, happend,
      hword, hquoted]
  | refused hu hr ha hs =>
    simp [shownTexts, hu, hr, ha, hs, Outcome.ofFetch, Outcome.error?, FetchError.message, happend,
      hword, hnumber]
  | @body _ _ bytes hu hr ha hs =>
    -- What a body brings in is shown in a message of decoding only.
    simp only [shownTexts, hu, hr, hs, Outcome.ofFetch]
    cases hd : decode (.bytes bytes) with
    | ok d => simp [Outcome.error?]
    | error e =>
      have := hscalar _ (hdecode _ e hd)
      simp [Outcome.error?, happend, hword, this]

omit happend in
/-- A branch shows its error under its name, unless the error says nothing. -/
theorem forall_errorOf_iff (b : Branch) (error : Option Text) :
    (∀ e ∈ Cycle.errorOf b error, P e.1 ∧ P e.2) ↔ ∀ t, error = some t → P t := by
  have hname : P b.name := hscalar b.name (by cases b <;> decide)
  have hnil : P [] := hscalar [] Text.isScalar_nil
  cases error with
  | none => simp [Cycle.errorOf]
  | some t => cases t <;> simp [Cycle.errorOf, Option.filter, hname, hnil]

/-- All errors that are shown under a plan are as the texts from outside in them are. -/
theorem Plan.forall_errors_iff (p : Plan) (server : Server) :
    (∀ e ∈ (p.run server).errors, P e.1 ∧ P e.2)
      ↔ (∀ t ∈ shownTexts p.fetcher server p.statusPath, P t) ∧
        ∀ t ∈ shownTexts p.fetcher server p.queuePath, P t := by
  rw [← forall_error_iff happend hscalar Status.isScalar_message p.fetcher server p.statusPath
      (p.fetcher.urlFor p.statusPath),
    ← forall_error_iff happend hscalar Queue.isScalar_message p.fetcher server p.queuePath
      (p.fetcher.urlFor p.queuePath),
    Cycle.errors, List.forall_mem_append, forall_errorOf_iff hscalar, forall_errorOf_iff hscalar]
  rfl

end

namespace Plan

variable (p : Plan) (server : Server)

/-- All values that are observed under the plan have a floating-point number. -/
def IsCountable : Prop :=
  ∀ row ∈ (Ending.of p.fetcher server p.statusPath).statusRows
    ++ (Ending.of p.fetcher server p.queuePath).queueRows, row.2 < Binary64.overflow

/-- The base address and the texts from outside that are shown under the plan are whole. -/
def IsTellable : Prop :=
  p.fetcher.base.IsWhole ∧ (∀ t ∈ shownTexts p.fetcher server p.statusPath, t.IsWhole) ∧
    ∀ t ∈ shownTexts p.fetcher server p.queuePath, t.IsWhole

variable {p server}

theorem metricsPage_status :
    (Service.metricsPage (p.run server).observations).status = 200 ↔ p.IsCountable server := by
  have hs := Ending.yields_of_fetch p.fetcher server p.statusPath
    (p.fetcher.urlFor p.statusPath) Hub.Status.decode
  have hq := Ending.yields_of_fetch p.fetcher server p.queuePath
    (p.fetcher.urlFor p.queuePath) Hub.Queue.decode
  rw [Service.metricsPage_status, toList_observations, IsCountable, ← hs.statusRows,
    ← hq.queueRows]
  rfl

theorem statusPage_status {now : Binary64} :
    (Service.jsonPage ((p.run server).report now).toJson).status = 200
      ↔ p.IsTellable server := by
  rw [Service.jsonPage_status, Service.isWritable_report]
  exact and_congr_right fun _ => p.forall_errors_iff (fun _ _ => List.forall_mem_append)
    (fun _ ht => ht.isWhole) server

end Plan

end Scrape

/-! ## Requests -/

namespace Service

variable {a : Service} {origin : Text} {s : Settings} {server : Server} {now : Binary64}
  {r : Request}

/-- What is answered to a request for a page has the status of the page. -/
theorem handle_status {p : Page} (h : a.route r.method r.pathAndQuery.1 = .page p) :
    (a.handle origin s server now r).answer.status
      = (a.servePage s server now p).answer.status := by
  rw [handle]
  simp only [h]
  split <;> rfl

/-- A page of a cycle is answered with success when there is a cycle and its page is. -/
theorem serveCycle_status {page : Cycle → Answer} :
    (a.serveCycle s server page).answer.status = 200
      ↔ ∃ plan, Plan.ofSettings a.fetcher s = .ok plan ∧ (page (plan.run server)).status = 200 := by
  rw [serveCycle]
  cases Plan.ofSettings a.fetcher s with
  | error e => exact ⟨nofun, fun ⟨_, h, _⟩ => nomatch h⟩
  | ok plan =>
    refine ⟨fun h => ⟨plan, rfl, h⟩, fun ⟨_, h, hpage⟩ => ?_⟩
    cases h
    exact hpage

/-- When the pages of a cycle are answered with success, whatever the hub replies: under settings
    whose paths can be written, the metrics are if no value observed is too large for a
    floating-point number, and the page in JSON is if the base address and what is said of a
    request that failed or was broken off are without halves of surrogate pairs. -/
theorem pages_answered_iff (a : Service) (origin : Text) (s : Settings) (server : Server)
    (now : Binary64) (r : Request) :
    (a.route r.method r.pathAndQuery.1 = .page .metrics →
      ((a.handle origin s server now r).answer.status = 200
        ↔ ∃ plan, Plan.ofSettings a.fetcher s = .ok plan ∧ plan.IsCountable server)) ∧
    (a.route r.method r.pathAndQuery.1 = .page .status →
      ((a.handle origin s server now r).answer.status = 200
        ↔ ∃ plan, Plan.ofSettings a.fetcher s = .ok plan ∧ plan.IsTellable server)) := by
  refine ⟨fun h => ?_, fun h => ?_⟩
  · rw [handle_status h, servePage, serveCycle_status]
    simp only [Plan.metricsPage_status]
  · rw [handle_status h, servePage, serveCycle_status]
    simp only [Plan.statusPage_status]

/-- Both pages are answered for a hub with one node of four sessions. -/
theorem small_grid_answered :
    let a : Service := ⟨"http://hub.test:4444", ⟨"http://hub.test:4444", .zero⟩, "/metrics",
      [.literal "/metrics"]⟩
    let server := Server.ofRoutes [("/status", .answer 200
      (Utf8.encode "\x7b\"value\": \x7b\"nodes\": [\x7b\"maxSessions\": 4\x7d]\x7d\x7d"))]
    let status (path : Text) : Nat :=
      (a.handle "http://testserver" (.initial []) server .zero ⟨"GET", path⟩).answer.status
    status "/metrics" = 200 ∧ status "/status" = 200 := by
  intro a server status
  have hmetrics := (pages_answered_iff a "http://testserver" (.initial []) server .zero
    ⟨"GET", "/metrics"⟩).1 (by decide +kernel)
  have hstatus := (pages_answered_iff a "http://testserver" (.initial []) server .zero
    ⟨"GET", "/status"⟩).2 (by decide +kernel)
  refine ⟨hmetrics.2 ⟨⟨a.fetcher, "/status", "/se/grid/newsessionqueue/queue"⟩, rfl, ?_⟩,
    hstatus.2 ⟨⟨a.fetcher, "/status", "/se/grid/newsessionqueue/queue"⟩, rfl, ?_, ?_, ?_⟩⟩
  · unfold Plan.IsCountable
    decide +kernel
  · decide
  · decide +kernel
  · decide +kernel

/-- No metrics are answered for a hub whose only node has room for `10 ^ 309` sessions, though the
    page in JSON is. -/
theorem large_grid_unanswered :
    let a : Service := ⟨"http://hub.test:4444", ⟨"http://hub.test:4444", .zero⟩, "/metrics",
      [.literal "/metrics"]⟩
    let body := Text.ofString "\x7b\"value\": \x7b\"nodes\": [\x7b\"maxSessions\": 1"
      ++ List.replicate 309 48 ++ Text.ofString "\x7d]\x7d\x7d"
    let server := Server.ofRoutes [("/status", .answer 200 (Utf8.encode body))]
    let status (path : Text) : Nat :=
      (a.handle "http://testserver" (.initial []) server .zero ⟨"GET", path⟩).answer.status
    status "/metrics" = 500 ∧ status "/status" = 200 := by
  decide +kernel

end Service

end GridGauge
