import GridGauge.Proofs.Modes
import GridGauge.Proofs.Pages
import GridGauge.Proofs.Rereading

/-!
# What is printed as JSON

A report that is shown as JSON is printed as one text, which is read as the
report again whichever layout it has (`Program.printed_json`): its numbers are
within the limit of digits, its time is finite, its keys are distinct, and its
texts are made of scalar values if those from outside are. Nothing else is
printed, neither before the cycle nor in it.
-/

namespace GridGauge

open Text

/-! ## Reports as values -/

theorem Gauge.name_injective : Function.Injective Gauge.name := by
  intro g h heq
  have hall : ∀ g ∈ Gauge.all, ∀ h ∈ Gauge.all, g.name = h.name → g = h := by decide
  exact hall g g.mem_all h h.mem_all heq

/-- Each gauge is observed once. -/
theorem Observations.nodup_toList {α : Type} (o : Observations α) :
    (o.toList.map Prod.fst).Nodup := by
  have hsublist : (o.toList.map Prod.fst).Sublist Gauge.all := by
    rw [toList]
    generalize Gauge.all = gs
    induction gs with
    | nil => exact .slnil
    | cons g gs ih =>
      rw [List.filterMap_cons]
      cases o g with
      | none => exact ih.cons g
      | some n => exact ih.cons_cons g
  exact hsublist.nodup (by decide)

namespace Scrape

/-- A branch has no more than one error, under its name. -/
theorem Cycle.nodup_errors (c : Cycle) : (c.errors.map Prod.fst).Nodup := by
  have hne : Branch.status.name ≠ Branch.queue.name := by decide
  rw [errors, errorOf, errorOf]
  cases c.status.error?.filter (!List.isEmpty ·) <;>
    cases c.queue.error?.filter (!List.isEmpty ·) <;> simp [hne]

/-- The base address and the texts from outside that are shown under the plan are made of scalar
    values. -/
def Plan.IsScalar (p : Plan) (server : Hub.Server) : Prop :=
  p.fetcher.base.IsScalar ∧ (∀ t ∈ shownTexts p.fetcher server p.statusPath, t.IsScalar) ∧
    ∀ t ∈ shownTexts p.fetcher server p.queuePath, t.IsScalar

/-- The observations as an object. -/
theorem Report.isRestorable_metrics {r : Report} (hwritable : r.isWritable = true) (depth : Nat) :
    Json.IsRestorable (depth + 1) (.object (r.metrics.map fun m => (m.1, .int m.2))) := by
  have hname (g : Gauge) : g.name.IsScalar := by cases g <;> decide
  refine .object ?_ ?_ ?_
  · have hkeys : (r.metrics.map fun m => (m.1, Json.int m.2)).map Prod.fst
        = (r.observations.toList.map Prod.fst).map Gauge.name := by
      simp only [metrics, List.map_map]
      rfl
    rw [hkeys]
    exact r.observations.nodup_toList.map Gauge.name_injective
  · simp only [metrics, List.map_map, List.forall_mem_map]
    exact fun row _ => hname row.1
  · simp only [metrics, List.map_map, List.forall_mem_map]
    intro row hrow
    exact .int (isWritable_iff.1 hwritable row.1 row.2 (Observations.mem_toList.1 hrow))

/-- The report of a cycle can be read again from its text. -/
theorem Plan.isRestorable_report {p : Plan} {server : Hub.Server} (htexts : p.IsScalar server)
    {now : Binary64} (hnow : now.isFinite = true)
    (hwritable : ((p.run server).report now).isWritable = true) :
    ((p.run server).report now).toJson.IsRestorable Json.Reader.depthLimit := by
  obtain ⟨hbase, hshown⟩ := htexts
  have herrors := (p.forall_errors_iff (P := Text.IsScalar) (fun _ _ => isScalar_append)
    (fun _ ht => ht) server).2 hshown
  have herrorsObject (depth : Nat) : Json.IsRestorable (depth + 1) (.object
      (((p.run server).report now).errors.map fun e => (e.1, .string e.2))) := by
    refine .object ?_ ?_ ?_
    · rw [List.map_map]
      exact (p.run server).nodup_errors
    · exact List.forall_mem_map.2 fun e he => (herrors e he).1
    · exact List.forall_mem_map.2 fun e he => .string (herrors e he).2
  refine .object ?_ ?_ ?_
  · show List.Nodup
      [ofString "hub_url", ofString "timestamp", ofString "metrics", ofString "errors"]
    decide
  · simp only [List.forall_mem_cons, isScalar_ofString, true_and]
    exact List.forall_mem_nil _
  · simp only [List.forall_mem_cons]
    exact ⟨.string hbase, .float hnow, Report.isRestorable_metrics hwritable _, herrorsObject _,
      List.forall_mem_nil _⟩

end Scrape

namespace Program

variable {w : World} {s : Settings} {session : Session} {p : Scrape.Plan}

/-- What is printed is read as the report, on one line or on several, whatever the hub does. -/
theorem printed_json
    (hprepare : (prepare w { command := some .collect }).run.run (.start w s) = (.ok (), session))
    (hplan : p.IsSetBy session.settings)
    (hcount : ∀ g n, (p.run w.hub).observations g = some n → n < Nat.pow 10 digitLimit)
    (htexts : p.IsScalar w.hub) (hnow : w.now.isFinite = true) :
    let r := (p.run w.hub).report w.now
    ∀ args ∈ ([["collect", "--json"], ["collect", "--json", "--pretty"]] : List (List Text)),
      (run w s args).1 = .finished r.exitStatus ∧
        Hub.Body.json (.text (run w s args).2.printed) = .ok r.toJson := by
  intro r
  have hwritable : r.isWritable = true := Scrape.Report.isWritable_iff.2 hcount
  have hrestorable : r.toJson.IsRestorable Json.Reader.depthLimit :=
    Scrape.Plan.isRestorable_report htexts hnow hwritable
  -- The layouts differ in their commas and line breaks only.
  have hread (pretty : Bool) : Json.ofText
      (r.toJson.toText (if pretty then .indented else .spaced) ++ [10]) = .ok r.toJson := by
    cases pretty with
    | false => exact Json.ofText_toText Json.Style.isReadable_spaced hrestorable (by decide)
    | true => exact Json.ofText_toText Json.Style.isReadable_indented hrestorable (by decide)
  have hshown {args : List Text} (pretty : Bool) (hparse : CommandLine.parse args
      = .ok { command := some .collect, json := true, pretty }) :
      (run w s args).1 = .finished r.exitStatus ∧
        Hub.Body.json (.text (run w s args).2.printed) = .ok r.toJson := by
    obtain ⟨hending, hprinted⟩ := run_collect_json hparse rfl rfl rfl hprepare hplan hwritable
    rw [hprinted, Hub.Body.json, hread]
    exact ⟨hending, rfl⟩
  simp only [List.forall_mem_cons]
  exact ⟨hshown false rfl, hshown true rfl, List.forall_mem_nil _⟩

/-- A world with a hub that cannot be reached, of which the network says a quotation mark, a
    backslash, a line break, the last character and one that takes a pair of units. -/
def silentWorld : World :=
  { smallWorld [] with
    hub := Hub.Server.ofRoutes
      [("/status", .network .connectError [0x22, 0x5C, 0x0A, 0x10FFFF, 0x1F600])]
    now := .ofDecimal true 1 (-1) }

/-- What the network says is read again, and so is a time with a sign. -/
theorem unreachable_hub_reread :
    let reason : Text := Text.ofString "GET http://127.0.0.1:4444/status failed: "
      ++ [0x22, 0x5C, 0x0A, 0x10FFFF, 0x1F600]
    let queueReason : Text :=
      "GET http://127.0.0.1:4444/se/grid/newsessionqueue/queue failed: HTTP 404"
    let report : Json := .object [("hub_url", .string "http://127.0.0.1:4444"),
      ("timestamp", .float (.ofDecimal true 1 (-1))),
      ("metrics", .object [(Gauge.accessible.name, .int 0)]),
      ("errors", .object [(Scrape.Branch.status.name, .string reason),
        (Scrape.Branch.queue.name, .string queueReason)])]
    ∀ args ∈ ([["collect", "--json"], ["collect", "--json", "--pretty"]] : List (List Text)),
      (run silentWorld (.initial []) args).1 = .finished 1 ∧
        Hub.Body.json (.text (run silentWorld (.initial []) args).2.printed) = .ok report := by
  intro reason queueReason report args hargs
  obtain ⟨session, hprepare, hsettings⟩ : ∃ session,
      (prepare silentWorld { command := some .collect }).run.run
        (.start silentWorld (.initial [])) = (.ok (), session) ∧
      session.settings = .initial [] := ⟨_, rfl, rfl⟩
  have hfew : ∀ g ∈ Gauge.all,
      ((usualPlan.run silentWorld.hub).observations g).all (· < 5) = true := by
    decide +kernel
  have htexts : usualPlan.IsScalar silentWorld.hub :=
    ⟨by decide, by decide +kernel, by decide +kernel⟩
  have hread := printed_json hprepare (hsettings ▸ isSetBy_usualPlan) (lt_digitLimit_of_few hfew)
    htexts (by decide +kernel) args hargs
  have hstatus : ((usualPlan.run silentWorld.hub).report silentWorld.now).exitStatus = 1 := by
    decide +kernel
  have hurl : ((usualPlan.run silentWorld.hub).report silentWorld.now).hubUrl
      = "http://127.0.0.1:4444" := by decide +kernel
  have hmetrics : ((usualPlan.run silentWorld.hub).report silentWorld.now).metrics
      = [(Gauge.accessible.name, 0)] := by decide +kernel
  have herrors : ((usualPlan.run silentWorld.hub).report silentWorld.now).errors
      = [(Scrape.Branch.status.name, reason), (Scrape.Branch.queue.name, queueReason)] := by
    decide +kernel
  have hreport : ((usualPlan.run silentWorld.hub).report silentWorld.now).toJson = report := by
    rw [Scrape.Report.toJson, hurl, hmetrics, herrors]
    rfl
  rw [hstatus, hreport] at hread
  exact hread

end Program

end GridGauge
