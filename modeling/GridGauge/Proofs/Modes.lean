import GridGauge.Proofs.Attempts
import GridGauge.Proofs.Collecting
import GridGauge.Proofs.Drawing
import GridGauge.Proofs.Pages
import GridGauge.Proofs.Reasons

/-!
# Two ways of showing a report

Whether a report is shown as JSON or as a table should make no difference to
what the program comes to: it should finish, with a status that tells whether
the hub has been observed to be accessible.

As JSON it does, whatever the hub does. As a table it does exactly when the
report is legible (`Report.IsLegible`): the title of the panel and the lines
about errors are taken for markup, and a reason that quotes a text of the hub
may ask to end a style that has not begun, or for a style that there is not.
What is drawn is not escaped either, so that it may hold a surrogate that
cannot be encoded. Such a text breaks the program off (`Report.Breaks`). If no
text that is quoted has a tag or a surrogate, there is no such difference
(`Program.modes_agree`).
-/

namespace GridGauge

open Scrape Terminal

namespace Program.World

variable {w : World} {x : Except MarkupError Text}

/-- What comes of markup is drawn if it is there, and can be printed. -/
theorem exists_drawn_iff :
    (∃ t, x.mapError Failure.markup >>= w.encodable true = .ok t)
      ↔ (∃ t, x = .ok t) ∧ ∀ t, x = .ok t → w.Prints t := by
  cases x with
  | error m => exact iff_of_false nofun fun h => nomatch h.1
  | ok t =>
    refine ⟨fun ⟨u, hu⟩ => ⟨⟨t, rfl⟩, ?_⟩, fun h => ⟨t, (prints_iff true).1 (h.2 t rfl)⟩⟩
    rintro _ ⟨⟩
    by_contra h
    obtain ⟨fault, hfault⟩ := exists_of_not_prints h true
    exact nomatch hu.symm.trans hfault

end Program.World

namespace Scrape.Report

open Program (World Failure)

/-- All of the table can be drawn. -/
structure IsLegible (r : Report) (w : World) : Prop where
  /-- The title of the panel can be followed and what shows of its styles can be read, if there is
      room for a panel at all. -/
  title : w.columns = 0 ∨ ∃ t, panelTitle ("Hub: " ++ r.hubUrl) = .ok t ∧
    (panelTop w.columns t).IsReadable
  /-- So can the lines about errors. -/
  lines : ∀ e ∈ r.errors, ∃ t, markedText (errorMarkup e.1 e.2) = .ok t ∧
    (w.columns = 0 ∨ ∀ line ∈ wrap w.columns .fold t, line.IsReadable)
  /-- The characters of the panel can be printed. -/
  panelPrints : ∀ t, printedPanel w.columns ("Hub: " ++ r.hubUrl) r.table = .ok t → w.Prints t
  /-- So can those of the lines about errors. -/
  linesPrint : ∀ e ∈ r.errors, ∀ t,
    printedMarkup w.columns (errorMarkup e.1 e.2) = .ok t → w.Prints t

/-- The texts in the report are without halves of surrogate pairs. -/
structure IsWhole (r : Report) : Prop where
  hubUrl : r.hubUrl.IsWhole
  errors : ∀ e ∈ r.errors, e.1.IsWhole ∧ e.2.IsWhole

/-- What can break off the table of a report. -/
inductive Breaks (r : Report) : Failure → Prop
  /-- There is markup in it that cannot be followed, or a style that cannot be read. -/
  | markup (m : MarkupError) : r.Breaks (.markup m)
  /-- There is a half of a surrogate pair in it. -/
  | surrogate (fault : SurrogateFault) (h : ¬r.IsWhole) : r.Breaks (.unprintable fault true)

variable {r : Report} {w : World} {e : Failure} {x : Except MarkupError Text} {t : Text}

/-! ### Characters -/

theorem isWhole_table (r : Report) : r.table.IsWhole where
  title := Text.isWhole_ofString _
  rows := by
    have hheadings : ∀ cell ∈ (["Metric", "Value"] : List Text), cell.IsWhole := by decide
    refine List.forall_mem_cons.2 ⟨hheadings, List.forall_mem_map.2 fun g _ => ?_⟩
    refine List.forall_mem_cons.2 ⟨Service.isWhole_gauge_name g, List.forall_mem_singleton.2 ?_⟩
    split
    · exact (Text.isScalar_ofNat _).isWhole
    · decide

theorem IsWhole.prints_panel (hr : r.IsWhole)
    (h : printedPanel w.columns ("Hub: " ++ r.hubUrl) r.table = .ok t) : w.Prints t :=
  w.prints_of_isWhole (isWhole_of_printedPanel h
    (Text.isWhole_append.2 ⟨Text.isWhole_ofString _, hr.hubUrl⟩) r.isWhole_table)

theorem IsWhole.prints_line (hr : r.IsWhole) {row : Text × Text} (hrow : row ∈ r.errors)
    (h : printedMarkup w.columns (errorMarkup row.1 row.2) = .ok t) : w.Prints t := by
  obtain ⟨hname, hreason⟩ := hr.errors row hrow
  refine w.prints_of_isWhole (isWhole_of_printedMarkup h ?_)
  simp only [errorMarkup, Text.isWhole_append, Text.isWhole_ofString, hname, hreason, and_true]

/-! ### Pieces of the table -/

/-- Only its markup or a half of a surrogate pair keeps a piece from being drawn, if it is whole when
    the report is. -/
theorem breaks_of_drawn_eq_error (hx : r.IsWhole → ∀ t, x = .ok t → w.Prints t)
    (h : x.mapError Failure.markup >>= w.encodable true = .error e) : r.Breaks e := by
  cases x with
  | error m =>
    cases h
    exact .markup m
  | ok t =>
    have hprints : ¬w.Prints t := fun hprints =>
      nomatch ((World.prints_iff true).1 hprints).symm.trans h
    obtain ⟨fault, hfault⟩ := World.exists_of_not_prints hprints true
    obtain rfl : .unprintable fault true = e := Except.error.inj (hfault.symm.trans h)
    exact .surrogate fault fun hr => hprints (hx hr t rfl)

/-- The panel is drawn when its title is fit for it. -/
theorem exists_drawnPanel_iff (hwritable : r.isWritable = true) :
    (∃ t, r.drawnPanel w = .ok t)
      ↔ (w.columns = 0 ∨ ∃ t, panelTitle ("Hub: " ++ r.hubUrl) = .ok t ∧
          (panelTop w.columns t).IsReadable) ∧
        ∀ t, printedPanel w.columns ("Hub: " ++ r.hubUrl) r.table = .ok t → w.Prints t := by
  rw [drawnPanel, panelText, if_pos hwritable, World.exists_drawn_iff, exists_printedPanel_iff]

theorem breaks_of_drawnPanel_eq_error (hwritable : r.isWritable = true)
    (h : r.drawnPanel w = .error e) : r.Breaks e := by
  rw [drawnPanel, panelText, if_pos hwritable] at h
  exact breaks_of_drawn_eq_error (fun hr _ => hr.prints_panel) h

/-- The lines about errors are drawn when each of them is fit for it. -/
theorem exists_drawnLines_iff :
    (∃ ls, r.errors.mapM (drawnLine w) = .ok ls)
      ↔ (∀ e ∈ r.errors, ∃ t, markedText (errorMarkup e.1 e.2) = .ok t ∧
          (w.columns = 0 ∨ ∀ line ∈ wrap w.columns .fold t, line.IsReadable)) ∧
        ∀ e ∈ r.errors, ∀ t,
          printedMarkup w.columns (errorMarkup e.1 e.2) = .ok t → w.Prints t := by
  rw [exists_mapM_eq_ok_iff, ← forall₂_and]
  refine forall₂_congr fun e _ => ?_
  rw [drawnLine, World.exists_drawn_iff, exists_printedMarkup_iff]

theorem breaks_of_drawnLines_eq_error (h : r.errors.mapM (drawnLine w) = .error e) :
    r.Breaks e := by
  obtain ⟨row, hrow, h⟩ := exists_of_mapM_eq_error h
  exact breaks_of_drawn_eq_error (fun hr _ => hr.prints_line hrow) h

/-- A report is written when no value in it has too many digits. -/
theorem isWritable_iff :
    r.isWritable = true ↔ ∀ g n, r.observations g = some n → n < Nat.pow 10 digitLimit := by
  rw [isWritable, metrics, List.all_map, List.all_eq_true]
  constructor
  · intro h g n hg
    have := h (g, n) (Observations.mem_toList.2 hg)
    simpa [withinDigitLimit] using this
  · rintro h ⟨g, n⟩ hg
    have := h g n (Observations.mem_toList.1 hg)
    simpa [withinDigitLimit] using this

end Scrape.Report

namespace Program

open Scrape

variable {w : World} {s : Settings} {session : Session} {p : Plan}

/-- The pieces of the table are drawn just when the report is legible, and else one of them breaks
    the program off. -/
theorem table_outcome {r : Report} (hwritable : r.isWritable = true) (w : World) :
    let outcome : Except Failure Ending := do
      let _ ← r.drawnPanel w
      let _ ← r.errors.mapM (Report.drawnLine w)
      return .finished r.exitStatus
    r.IsLegible w ∧ outcome = .ok (.finished r.exitStatus) ∨
      ¬r.IsLegible w ∧ ∃ e, outcome = .error e ∧ r.Breaks e := by
  have hpanel_iff := Report.exists_drawnPanel_iff (w := w) hwritable
  have hlines_iff := Report.exists_drawnLines_iff (r := r) (w := w)
  intro outcome
  cases hpanel : r.drawnPanel w with
  | error e =>
    refine .inr ⟨fun h => ?_, e, by simp only [outcome, hpanel]; rfl,
      Report.breaks_of_drawnPanel_eq_error hwritable hpanel⟩
    obtain ⟨_, h⟩ := hpanel_iff.2 ⟨h.title, h.panelPrints⟩
    rw [hpanel] at h
    cases h
  | ok panel =>
    cases hlines : r.errors.mapM (Report.drawnLine w) with
    | error e =>
      refine .inr ⟨fun h => ?_, e, by simp only [outcome, hpanel, hlines]; rfl,
        Report.breaks_of_drawnLines_eq_error hlines⟩
      obtain ⟨_, h⟩ := hlines_iff.2 ⟨h.lines, h.linesPrint⟩
      rw [hlines] at h
      cases h
    | ok ls =>
      obtain ⟨htitle, hpanelPrints⟩ := hpanel_iff.1 ⟨panel, hpanel⟩
      obtain ⟨hlines', hlinesPrint⟩ := hlines_iff.1 ⟨ls, hlines⟩
      exact .inl ⟨⟨htitle, hlines', hpanelPrints, hlinesPrint⟩,
        by simp only [outcome, hpanel, hlines]; rfl⟩

/-- The texts in a report are whole when those from outside are. -/
theorem isWhole_report {server : Hub.Server} (h : p.IsTellable server) (now : Binary64) :
    ((p.run server).report now).IsWhole where
  hubUrl := h.1
  errors := (p.forall_errors_iff (fun _ _ => List.forall_mem_append) (fun _ ht => ht.isWhole)
    server).2 h.2

/-- A report is legible when nothing from outside in it has a tag or a surrogate. -/
theorem isLegible_of_isTagless {server : Hub.Server} (hbase : IsTagless p.fetcher.base)
    (hstatus : ∀ t ∈ (p.run server).status.quoted, IsTagless t)
    (hqueue : ∀ t ∈ (p.run server).queue.quoted, IsTagless t) (htellable : p.IsTellable server)
    (now : Binary64) (w : World) : ((p.run server).report now).IsLegible w where
  title := by
    have hmarkup : IsTagless ("Hub: " ++ p.fetcher.base) :=
      IsTagless.append (isTagless_of_not_mem (by decide)) hbase (by decide)
    obtain ⟨u, hu⟩ := exists_markedText hmarkup
    obtain ⟨title, htitle, hstyles⟩ := exists_panelTitle hu
    exact .inr ⟨title, htitle, (Styled.isReadable_plain u).mono
      (List.Subset.trans (styles_panelTop w.columns title) hstyles)⟩
  lines := fun e he => by
    obtain ⟨b, hname, htagless⟩ := Plan.isTagless_errors hstatus hqueue e he
    obtain ⟨u, hu, hreadable⟩ := exists_markedText_error b htagless
    rw [hname]
    exact ⟨u, hu, .inr fun _ hline => hreadable.mono (Styled.styles_of_mem_wrap hline)⟩
  panelPrints := fun _ => (isWhole_report htellable now).prints_panel
  linesPrint := fun _ he _ => (isWhole_report htellable now).prints_line he

/-- As JSON a report is shown whatever is in it. -/
theorem run_json
    (hprepare : (prepare w { command := some .collect }).run.run (.start w s) = (.ok (), session))
    (hplan : p.IsSetBy session.settings)
    (hwritable : ((p.run w.hub).report w.now).isWritable = true) :
    (run w s ["collect", "--json"]).1 = .finished ((p.run w.hub).report w.now).exitStatus :=
  (run_collect_json (a := { command := some .collect, json := true }) rfl rfl rfl rfl hprepare
    hplan hwritable).1

/-- As a table it is shown when it is legible, and else breaks the program off. -/
theorem run_table
    (hprepare : (prepare w { command := some .collect }).run.run (.start w s) = (.ok (), session))
    (hplan : p.IsSetBy session.settings)
    (hwritable : ((p.run w.hub).report w.now).isWritable = true) :
    let r := (p.run w.hub).report w.now
    r.IsLegible w ∧ (run w s ["collect"]).1 = .finished r.exitStatus ∨
      ¬r.IsLegible w ∧ ∃ e, (run w s ["collect"]).1 = .failed e ∧ r.Breaks e := by
  intro r
  -- What the program comes to does not depend on how far the drawing has got.
  have hrun : (run w s ["collect"]).1
      = match ((collect w { command := some .collect }).run.run session).1 with
        | .ok ending => ending
        | .error e => .failed e := by
    rw [run_collect (a := { command := some .collect }) rfl rfl hprepare]
    generalize (collect w { command := some .collect }).run.run session = result
    obtain ⟨_ | _, _⟩ := result <;> rfl
  rw [collect_table_run (a := { command := some .collect }) rfl hplan] at hrun
  obtain ⟨hlegible, houtcome⟩ | ⟨hillegible, e, houtcome, hbreaks⟩ := table_outcome hwritable w
  · exact .inl ⟨hlegible, by rw [hrun, houtcome]⟩
  · exact .inr ⟨hillegible, e, by rw [hrun, houtcome], hbreaks⟩

/-- After the preparation, and with a plan, the program finishes as JSON whatever the hub does, and
    as a table with the same status just when the report is legible, which it is if no text from
    outside in it has a tag or a surrogate. Else its markup or a surrogate breaks the table off. -/
theorem modes_agree
    (hprepare : (prepare w { command := some .collect }).run.run (.start w s) = (.ok (), session))
    (hplan : p.IsSetBy session.settings)
    (hcount : ∀ g n, (p.run w.hub).observations g = some n → n < Nat.pow 10 digitLimit) :
    let c := p.run w.hub
    let r := c.report w.now
    let ending : Ending := .finished (if c.observations .accessible = some 1 then 0 else 1)
    (run w s ["collect", "--json"]).1 = ending ∧
      ((run w s ["collect"]).1 = ending ↔ r.IsLegible w) ∧
      (¬r.IsLegible w → ∃ e, (run w s ["collect"]).1 = .failed e ∧ r.Breaks e) ∧
      (IsTagless p.fetcher.base → (∀ t ∈ c.status.quoted ++ c.queue.quoted, IsTagless t) →
        p.IsTellable w.hub → (run w s ["collect"]).1 = ending) := by
  intro c r ending
  have hwritable : r.isWritable = true := Report.isWritable_iff.2 hcount
  have hending : .finished r.exitStatus = ending := by rw [exitStatus_report]
  have hjson := hending ▸ run_json hprepare hplan hwritable
  obtain ⟨hlegible, htable⟩ | ⟨hillegible, e, htable, hbreaks⟩ :=
    run_table hprepare hplan hwritable
  · have htable := htable.trans hending
    exact ⟨hjson, ⟨fun _ => hlegible, fun _ => htable⟩, fun h => absurd hlegible h,
      fun _ _ _ => htable⟩
  · refine ⟨hjson, ⟨fun h => ?_, fun h => absurd h hillegible⟩, fun _ => ⟨e, htable, hbreaks⟩,
      fun hbase hquoted htellable => absurd ?_ hillegible⟩
    · rw [htable] at h
      exact nomatch h
    · exact isLegible_of_isTagless hbase (fun t ht => hquoted t (List.mem_append_left _ ht))
        (fun t ht => hquoted t (List.mem_append_right _ ht)) htellable w.now w

/-! ## A world with a hub that has no queue -/

/-- No files, and a working directory at the root. -/
def noFiles : Files := ⟨[], [], [([], .directory)]⟩

theorem loadFrom_noFiles : Settings.loadFrom 0 noFiles none = .missing := by decide +kernel

/-- A world without variables and files, with a hub that answers its status with a text. -/
def smallWorld (body : Text) : World where
  environment := []
  files := noFiles
  hub := Hub.Server.ofRoutes [("/status", .answer 200 (Utf8.encode body))]
  now := .zero
  platform := ⟨"3.11.2", "linux", "x86_64"⟩
  columns := 80
  prints := fun _ => false
  stamp := ⟨id, id, {}⟩
  unreadable := []

/-- The plan that the defaults give. -/
def usualPlan : Plan :=
  ⟨⟨"http://127.0.0.1:4444", .ofRatio false 5 1⟩, "/status", "/se/grid/newsessionqueue/queue"⟩

theorem isSetBy_usualPlan : usualPlan.IsSetBy (.initial []) := ⟨rfl, rfl, rfl, rfl⟩

theorem prepare_smallWorld (body : Text) :
    ∃ session, (prepare (smallWorld body) { command := some .collect }).run.run
        (.start (smallWorld body) (.initial [])) = (.ok (), session) ∧
      session.settings = .initial [] := by
  have hfile : CommandLine.Arguments.configPath? { command := some .collect } = none := rfl
  have hmissing : Settings.loadFrom 0 (smallWorld body).files none = .missing := loadFrom_noFiles
  have hloaded : (loadSettings (smallWorld body) { command := some .collect }).run.run
      (.start (smallWorld body) (.initial [])) =
      (.ok (), .start (smallWorld body) (.initial [])) := by
    have hmarks : (Session.start (smallWorld body) (.initial [])).settings.marks = 0 := rfl
    simp only [loadSettings, Step.run_bind, Step.run_get, Step.run_log, Step.run_ofExcept,
      Step.run_modify, hfile, hmarks, hmissing]
    rfl
  rw [prepare, Step.run_bind, hloaded]
  exact ⟨_, rfl, rfl⟩

/-- Values of one digit are within the limit. -/
theorem lt_digitLimit_of_few {o : Observations Nat}
    (h : ∀ g ∈ Gauge.all, (o g).all (· < 5) = true) (g : Gauge) (n : Nat) (hg : o g = some n) :
    n < Nat.pow 10 digitLimit := by
  have hlimit : 5 ≤ Nat.pow 10 digitLimit := by decide +kernel
  have hn := h g g.mem_all
  rw [hg] at hn
  exact Nat.lt_of_lt_of_le (of_decide_eq_true hn) hlimit

/-- The status of a hub with a node that has room for four sessions. -/
def roomForFour : Text := "\x7b\"value\": \x7b\"nodes\": [\x7b\"maxSessions\": 4\x7d]\x7d\x7d"

/-- The status of a hub with a slot that has a tag for its timestamp. -/
def taggedTimestamp : Text :=
  "\x7b\"value\": \x7b\"nodes\": [\x7b\"slots\": "
    ++ "[\x7b\"lastStarted\": \"[/]\"\x7d]\x7d]\x7d\x7d"

/-- A hub with a node of four sessions and no queue is shown both ways. -/
theorem small_grid_shown :
    let w := smallWorld roomForFour
    (run w (.initial []) ["collect", "--json"]).1 = .finished 0 ∧
      (run w (.initial []) ["collect"]).1 = .finished 0 := by
  intro w
  obtain ⟨session, hprepare, hsettings⟩ := prepare_smallWorld roomForFour
  have hobserved : ∀ g ∈ Gauge.all,
      ((usualPlan.run w.hub).observations g).all (· < 5) = true := by
    decide +kernel
  have hagree :=
    modes_agree hprepare (hsettings ▸ isSetBy_usualPlan) (lt_digitLimit_of_few hobserved)
  have haccessible : (usualPlan.run w.hub).observations .accessible = some 1 := by decide +kernel
  obtain ⟨hjson, -, -, htable⟩ := hagree
  rw [if_pos haccessible] at hjson htable
  have htellable : usualPlan.IsTellable w.hub :=
    ⟨by decide, by decide +kernel, by decide +kernel⟩
  exact ⟨hjson, htable (by decide) (by decide +kernel) htellable⟩

/-- A hub whose only node has a slot with a tag for its timestamp is shown as JSON, but breaks off
    the table. -/
theorem timestamp_breaks_table :
    let w := smallWorld taggedTimestamp
    (run w (.initial []) ["collect", "--json"]).1 = .finished 0 ∧
      ∀ status, (run w (.initial []) ["collect"]).1 ≠ .finished status := by
  intro w
  obtain ⟨session, hprepare, hsettings⟩ := prepare_smallWorld taggedTimestamp
  have hplan : usualPlan.IsSetBy session.settings := hsettings ▸ isSetBy_usualPlan
  have hwritable : ((usualPlan.run w.hub).report w.now).isWritable = true := by decide +kernel
  have hstatus : ((usualPlan.run w.hub).report w.now).exitStatus = 0 := by decide +kernel
  have hbroken : ∃ e ∈ ((usualPlan.run w.hub).report w.now).errors,
      (markedText (Report.errorMarkup e.1 e.2)).toOption = none := by
    decide +kernel
  refine ⟨hstatus ▸ run_json hprepare hplan hwritable, fun status hfinished => ?_⟩
  obtain ⟨hlegible, -⟩ | ⟨-, e, hfailed, -⟩ := run_table hprepare hplan hwritable
  · obtain ⟨e, he, hnone⟩ := hbroken
    obtain ⟨t, ht, -⟩ := hlegible.lines e he
    rw [ht] at hnone
    cases hnone
  · rw [hfailed] at hfinished
    cases hfinished

end Program

end GridGauge
