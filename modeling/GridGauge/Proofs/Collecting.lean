import GridGauge.Program
import GridGauge.Proofs.Ascii
import GridGauge.Proofs.Layers
import GridGauge.Proofs.Paths

/-!
# How the program collects

A run of the program that collects prepares, observes the grid once, and shows
the report. The preparation settles all that the cycle depends on
(`Plan.IsSetBy`), and how the report is shown has no part in it: from the same
session, both ways of showing start from the same report.

As JSON the report is printed in one piece (`collect_json_run`), which is ASCII
and thus always encoded. As a table it is drawn piece by piece, and the first
piece that cannot be drawn, for its markup or its characters, breaks the
program off (`collect_table_run`).
-/

namespace GridGauge

open Scrape

/-- The settings give the plan of a cycle: the address of the hub, the timeout and the paths. -/
structure Scrape.Plan.IsSetBy (p : Plan) (s : Settings) : Prop where
  base : (s.value? .hubUrl).toText = .ok p.fetcher.base
  timeout : (s.value .hubTimeout).toNumber = .ok p.fetcher.timeout
  statusPath : (s.value .statusPath).toText = .ok p.statusPath
  queuePath : (s.value .queuePath).toText = .ok p.queuePath

namespace Scrape

variable {p : Plan} {s : Settings}

/-- The hub is asked where the settings say, also if they say nothing. -/
theorem Plan.IsSetBy.fetcherFor (h : p.IsSetBy s) :
    Scrape.fetcherFor s (some p.fetcher.base) = .ok p.fetcher := by
  have address : hubAddress s (some p.fetcher.base) = .ok p.fetcher.base := by
    rw [hubAddress]
    split
    · exact h.base
    · rfl
  rw [Scrape.fetcherFor, address, h.timeout]
  rfl

theorem Plan.IsSetBy.ofSettings (h : p.IsSetBy s) : Plan.ofSettings p.fetcher s = .ok p := by
  rw [Plan.ofSettings, h.statusPath, h.queuePath]
  rfl

/-- The panel with the table, as it is drawn in a world. -/
def Report.drawnPanel (r : Report) (w : Program.World) : Except Program.Failure Text :=
  r.panelText w.columns >>= w.encodable true

/-- The line about an error of a branch, as it is drawn in a world. -/
def Report.drawnLine (w : Program.World) (e : Text × Text) : Except Program.Failure Text :=
  (Terminal.printedMarkup w.columns (errorMarkup e.1 e.2)).mapError Program.Failure.markup
    >>= w.encodable true

/-- Whether the hub is accessible is observed as one, as zero, or not at all. -/
theorem exitStatus_report (p : Plan) (server : Hub.Server) (now : Binary64) :
    ((p.run server).report now).exitStatus
      = if (p.run server).observations .accessible = some 1 then 0 else 1 := by
  have values : (p.run server).observations .accessible = none ∨
      (p.run server).observations .accessible = some 0 ∨
      (p.run server).observations .accessible = some 1 := by
    rw [Cycle.observations, Observations.orElse]
    generalize (p.run server).status = status
    generalize (p.run server).queue = queue
    cases queue <;> cases status <;> simp [queueObservations, statusObservations, Observations.set,
      Observations.none]
  rw [Report.exitStatus, Report.accessible, Cycle.report]
  rcases values with h | h | h <;> simp [h]

end Scrape

namespace Program

open CommandLine (Arguments)

variable {w : World} {a : Arguments} {s : Settings} {session : Session} {p : Plan}
  {args : List Text}

/-- To observe prints nothing and always comes to a report, given a plan. -/
theorem observe_run (w : World) (h : p.IsSetBy session.settings) :
    ∃ logging calls, (observe w).run.run session
      = (.ok ((p.run w.hub).report w.now), { session with logging, calls }) := by
  simp only [observe, Step.run_bind, Step.run_get, Step.textOf, Step.run_ofExcept, Step.run_modify,
    Step.run_log, h.base, h.fetcherFor, h.ofSettings]
  exact ⟨_, _, rfl⟩

namespace Step

theorem run_write (session : Session) (isDrawn : Bool) (t : Text) :
    (write w isDrawn t).run.run session
      = match w.encodable isDrawn t with
        | .ok t => (.ok (), { session with printed := session.printed ++ t })
        | .error e => (.error e, session) := by
  rw [write, run_bind, run_ofExcept]
  cases w.encodable isDrawn t <;> rfl

/-- A loop that draws one text after the other fails with the first that cannot be drawn. -/
theorem run_forIn_draw {α : Type} {f : α → PUnit → Step (ForInStep PUnit)}
    {text : α → Except Failure Text}
    (hf : ∀ a, f a ⟨⟩ = do draw w (← ofExcept id (text a)); return .yield ⟨⟩) (l : List α)
    (session : Session) :
    ((forIn l ⟨⟩ f).run.run session).1
      = (l.mapM fun a => text a >>= w.encodable true).map fun _ => ⟨⟩ := by
  induction l generalizing session with
  | nil => rfl
  | cons a l ih =>
    rw [List.forIn_cons, hf, run_bind, run_bind, run_ofExcept, List.mapM_cons]
    cases text a with
    | error e => rfl
    | ok t =>
      dsimp only
      rw [run_bind, draw, run_write]
      show _ = Except.map _ (w.encodable true t >>= _)
      cases w.encodable true t with
      | error e => rfl
      | ok t =>
        refine (ih _).trans ?_
        cases l.mapM fun a => text a >>= w.encodable true <;> rfl

end Step

namespace World

/-- The world prints a text: of surrogates there are none in it but those that it spares. -/
def Prints (w : World) (t : Text) : Prop :=
  ∀ c ∈ t, Text.isSurrogate c = true → w.prints c = true

variable {t : Text}

theorem prints_iff (isDrawn : Bool) : w.Prints t ↔ w.encodable isDrawn t = .ok t := by
  have hnone : w.Prints t ↔ SurrogateFault.find? w.prints 0 t = none := by
    rw [SurrogateFault.find?_eq_none_iff]
    refine forall₂_congr fun c _ => ?_
    cases Text.isSurrogate c <;> cases w.prints c <;> decide
  rw [hnone, encodable]
  cases SurrogateFault.find? w.prints 0 t with
  | none => exact iff_of_true rfl rfl
  | some fault => exact iff_of_false nofun nofun

/-- Nothing but a surrogate keeps a text from being printed. -/
theorem exists_of_not_prints (h : ¬w.Prints t) (isDrawn : Bool) :
    ∃ fault, w.encodable isDrawn t = .error (.unprintable fault isDrawn) := by
  rw [prints_iff isDrawn, encodable] at h
  rw [encodable]
  split
  · next hnone =>
    rw [hnone] at h
    exact absurd rfl h
  · exact ⟨_, rfl⟩

/-- A text without surrogates is printed everywhere. -/
theorem prints_of_isWhole (w : World) (h : t.IsWhole) : w.Prints t := fun c hc hsurrogate => by
  rw [h c hc] at hsurrogate
  cases hsurrogate

end World

/-- The report as JSON has no characters but ASCII. -/
theorem isAscii_shown (r : Report) (pretty : Bool) :
    (r.toJson.toText (if pretty then .indented else .spaced) ++ [10]).IsAscii := by
  refine Text.isAscii_append.2 ⟨Json.isAscii_toText ?_ _, by decide⟩
  split
  · exact Json.Style.isAscii_indented
  · exact Json.Style.isAscii_spaced

/-- What is shown as JSON is printed in one piece. -/
theorem collect_json_run (ha : a.json = true) (h : p.IsSetBy session.settings)
    (hwritable : ((p.run w.hub).report w.now).isWritable = true) :
    ∃ session', (collect w a).run.run session
        = (.ok (.finished ((p.run w.hub).report w.now).exitStatus), session') ∧
      session'.printed = session.printed
        ++ (((p.run w.hub).report w.now).toJson.toText (if a.pretty then .indented else .spaced)
          ++ [10]) := by
  obtain ⟨logging, calls, hrun⟩ := observe_run w h
  generalize (p.run w.hub).report w.now = r at *
  refine ⟨{ session with
    logging, calls, printed := session.printed
      ++ (r.toJson.toText (if a.pretty then .indented else .spaced) ++ [10]) }, ?_, rfl⟩
  rw [collect, Step.run_bind, hrun]
  simp only [ha, if_true, Step.run_bind, Step.run_ofExcept, Report.jsonText, hwritable,
    Step.print, Step.run_write,
    (World.prints_iff false).1 (w.prints_of_isWhole (isAscii_shown r a.pretty).isWhole)]
  rfl

/-- What is shown as a table is drawn piece by piece, the lines about errors last. -/
theorem collect_table_run (ha : a.json = false) (h : p.IsSetBy session.settings) :
    ((collect w a).run.run session).1 = (do
      let r := (p.run w.hub).report w.now
      let _ ← r.drawnPanel w
      let _ ← r.errors.mapM (Report.drawnLine w)
      return .finished r.exitStatus) := by
  obtain ⟨logging, calls, hrun⟩ := observe_run w h
  generalize (p.run w.hub).report w.now = r at *
  rw [collect, Step.run_bind, hrun]
  simp only [ha, Bool.false_eq_true, if_false, Step.run_bind, Step.run_ofExcept, Report.drawnPanel]
  cases r.panelText w.columns with
  | error e => rfl
  | ok panel =>
    have loop (session : Session) : ((forIn r.errors PUnit.unit fun e _ => do
        Step.draw w (← Step.ofExcept .markup
          (Terminal.printedMarkup w.columns (Report.errorMarkup e.1 e.2)))
        return .yield ⟨⟩ : Step PUnit).run.run session).1
          = (r.errors.mapM (Report.drawnLine w)).map fun _ => ⟨⟩ := by
      refine Step.run_forIn_draw (fun e => ?_) r.errors session
      cases Terminal.printedMarkup w.columns (Report.errorMarkup e.1 e.2) <;> rfl
    dsimp only
    rw [Step.draw, Step.run_write]
    show _ = (w.encodable true panel >>= _)
    cases w.encodable true panel with
    | error e => rfl
    | ok panel =>
      specialize loop { session with logging, calls, printed := session.printed ++ panel }
      generalize r.errors.mapM (Report.drawnLine w) = lines at loop ⊢
      dsimp only
      -- All that follows the loop is the ending, which is there if the loop has not failed.
      split <;> rename_i heq <;> rw [heq] at loop <;> cases lines <;> cases loop <;> rfl

/-! ## From the command line on -/

/-- How the report is shown has no part in the preparation. -/
theorem prepare_congr (w : World) {a b : Arguments} (h : a.values = b.values) :
    prepare w a = prepare w b := by
  cases a
  cases b
  cases h
  rfl

/-- A run that collects, from the end of the preparation on. -/
theorem run_collect (hparse : CommandLine.parse args = .ok a) (hcommand : a.command = some .collect)
    (hprepare : (prepare w a).run.run (.start w s) = (.ok (), session)) :
    run w s args =
      match (collect w a).run.run session with
      | (.ok ending, session) => (ending, session)
      | (.error e, session) => (.failed e, session) := by
  have hcollect : command w a = collect w a := by
    rw [command, Arguments.toRun, hcommand]
    rfl
  have hrun : (do prepare w a; command w a).run.run (.start w s)
      = (collect w a).run.run session := by
    rw [Step.run_bind, hprepare, hcollect]
  rw [run, hparse]
  show (match (do prepare w a; command w a).run.run (.start w s) with
    | (.ok ending, session) => (ending, session)
    | (.error e, session) => (.failed e, session)) = _
  rw [hrun]

/-- The preparation prints nothing. -/
theorem prepare_printed (w : World) (a : Arguments) (session : Session) :
    ((prepare w a).run.run session).2.printed = session.printed := by
  obtain ⟨s, logging, hload⟩ := loadSettings_frame w a session
  rw [prepare, Step.run_bind]
  generalize (loadSettings w a).run.run session = result at hload
  obtain ⟨_ | _, loaded⟩ := result
  · dsimp only at hload ⊢
    rw [hload]
  · dsimp only at hload ⊢
    rw [Step.run_bind, Step.run_modify]
    obtain ⟨logging', hsetUp⟩ :=
      setUpLogging_frame { loaded with settings := loaded.settings.applyFlags a }
    rw [hsetUp, hload]

/-- A run that shows the report as JSON finishes, and prints nothing else. -/
theorem run_collect_json {b : Arguments} (hparse : CommandLine.parse args = .ok a)
    (hcommand : a.command = some .collect) (hjson : a.json = true) (hvalues : a.values = b.values)
    (hprepare : (prepare w b).run.run (.start w s) = (.ok (), session))
    (hplan : p.IsSetBy session.settings)
    (hwritable : ((p.run w.hub).report w.now).isWritable = true) :
    let r := (p.run w.hub).report w.now
    (run w s args).1 = .finished r.exitStatus ∧
      (run w s args).2.printed
        = r.toJson.toText (if a.pretty then .indented else .spaced) ++ [10] := by
  have hnothing : session.printed = [] := by
    have := prepare_printed w b (.start w s)
    rwa [hprepare] at this
  obtain ⟨session', hrun, hprinted⟩ := collect_json_run hjson hplan hwritable
  rw [hnothing, List.nil_append] at hprinted
  rw [run_collect hparse hcommand (by rw [prepare_congr w hvalues, hprepare]), hrun]
  exact ⟨rfl, hprinted⟩

end Program

end GridGauge
