import GridGauge.Program.Display
import GridGauge.Program.Preparation
import GridGauge.Service
import GridGauge.Text.Case

/-!
# The program

The program reads its command line, prepares, and carries out one command
(`run`). Three of the commands come to an end; the fourth ends with a service
that is ready to listen.
-/

namespace GridGauge.Program

/-- A service that is ready to listen. -/
structure Listener where
  service : Service
  host : Text
  port : Int
  /-- The level from which on the listener logs messages of its own. -/
  logLevel : Text
  deriving Repr, Inhabited

/-- What a run of the program comes to. -/
inductive Ending
  /-- The command line was not followed. -/
  | refused (r : CommandLine.Refusal)
  | failed (e : Failure)
  | finished (status : Nat)
  | serving (l : Listener)
  deriving Repr

/-! ## Commands -/

/-- Show all settings. -/
def showSettings (w : World) : Step Ending := do
  let s := (← get).settings
  Step.printLine w "Effective configuration:"
  for k in SettingKey.all do
    Step.printLine w ("  " ++ k.name ++ ": " ++ (← Step.textOf (s.value? k)))
  return .finished 0

/-- Tell what there is to know of the version. -/
def showVersion (w : World) : Step Ending := do
  for (k, v) in (VersionInfo.ofEnvironment w.environment w.platform).entries do
    Step.printLine w (k ++ ": " ++ v)
  return .finished 0

/-- Observe the grid once. -/
def observe (w : World) : Step Scrape.Report := do
  let s := (← get).settings
  let hubUrl ← Step.textOf (s.value? .hubUrl)
  let fetcher ← Step.ofExcept .setting (Scrape.fetcherFor s hubUrl)
  let plan ← Step.ofExcept .setting (Scrape.Plan.ofSettings fetcher s)
  let c := plan.run w.hub
  modify fun session => { session with calls := session.calls ++ c.calls }
  Step.log w c.records
  return c.report w.now

/-- Observe the grid and show the report. -/
def collect (w : World) (a : CommandLine.Arguments) : Step Ending := do
  let r ← observe w
  if a.json then
    Step.print w (← Step.ofExcept id (r.jsonText a.pretty))
  else
    Step.draw w (← Step.ofExcept id (r.panelText w.columns))
    for (name, reason) in r.errors do
      Step.draw w (← Step.ofExcept .markup
        (Terminal.printedMarkup w.columns (Scrape.Report.errorMarkup name reason)))
  return .finished r.exitStatus

/-- Make the service ready. -/
def serve (w : World) : Step Ending := do
  let s := (← get).settings
  let info := VersionInfo.ofEnvironment w.environment w.platform
  Step.draw w (Terminal.printed w.columns (Terminal.plainText info.banner))
  let hubUrl ← Step.textOf (s.value? .hubUrl)
  let host ← Step.textOf (s.value .host)
  let port ← Step.ofExcept .setting (s.value .port).toInteger
  Step.printLine w ("listening for connections on port " ++ (← Step.textOf (.scalar (.int port))))
  let service ← Step.ofExcept .service (Service.create s hubUrl none)
  let logLevel ← Step.textOf (s.value .logLevel)
  Step.log w [service.startRecord]
  return .serving ⟨service, host, port, logLevel.lower⟩

/-- Carry out the command that is asked for. -/
def command (w : World) (a : CommandLine.Arguments) : Step Ending :=
  match a.toRun with
  | .serve => serve w
  | .collect => collect w a
  | .validateConfig => showSettings w
  | .version => showVersion w

/-- What a run of the program comes to, and the session at its end. -/
def run (w : World) (s : Settings) (args : List Text) : Ending × Session :=
  match CommandLine.parse args with
  | .error r => (.refused r, .start w s)
  | .ok a =>
    match (ExceptT.run (do prepare w a; command w a)).run (.start w s) with
    | (.ok ending, session) => (ending, session)
    | (.error e, session) => (.failed e, session)

end GridGauge.Program
