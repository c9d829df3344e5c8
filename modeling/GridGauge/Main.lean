import GridGauge.Http
import GridGauge.Program
import Std.Async.DNS
import Std.Async.TCP
import Std.Async.Timer
import Std.Time

/-!
# The command line

Here the program meets the world: it gathers what a run needs, lets it run,
and writes out what has come of it. What is asked of the hub does not depend
on what it replies, so a rehearsal tells what to ask, and the run proper finds
the replies there.
-/

open Std.Async Std.Net

namespace GridGauge.Main

/-! ## Surroundings -/

/-- A variable of the environment, if it is there. -/
def bindingOf (name : String) : IO (Option (Text × Text)) := do
  return (← IO.getEnv name).map fun value => (Text.ofString name, Text.ofString value)

/-- The variables that the program reads. -/
def variableNames : List String :=
  ["GRID_EXPORTER_HUB", "GRID_EXPORTER_TIMEOUT", "GRID_EXPORTER_HOST", "GRID_EXPORTER_PORT",
    "GRID_EXPORTER_LOG_LEVEL", "GRID_EXPORTER_BUILD_DATE", "GRID_EXPORTER_COMMIT"]

/-- What there is in the place of a path. -/
def entryOf (path : String) : IO (Option FileEntry) := do
  if ← ((← IO.currentDir) / path).isDir then return some .directory
  try
    return some (.file (← IO.FS.readBinFile path).toList)
  catch _ => return none

/-- The files that settings may be in. -/
def filesFor (args : List Text) : IO Files := do
  let cwd := Files.namesOf (Text.ofString (← IO.currentDir).toString)
  let home := Text.ofString ((← IO.getEnv "HOME").getD "~")
  let files : Files := ⟨cwd, home, [(cwd, .directory)]⟩
  let asked := (CommandLine.parse args).toOption.bind CommandLine.Arguments.configPath?
  let paths := ((Settings.candidates files asked).toOption).getD []
  paths.foldlM (fun (files : Files) path => do
    match ← entryOf (path.toString?.getD "") with
    | some entry => return files.put (files.locate path) entry
    | none => return files) files

/-- The first line of a file that the system keeps about itself, in small letters. -/
def systemWord (path : String) : IO Text := do
  try
    return Text.lowerLetters (Text.ofString (← IO.FS.readFile path).trimAscii.toString)
  catch _ => return "unknown"

/-- The platform that the program runs on. -/
def platform : IO Platform :=
  return ⟨"unknown", ← systemWord "/proc/sys/kernel/ostype", ← systemWord "/proc/sys/kernel/arch"⟩

/-- The time in seconds. -/
def secondsNow : IO Binary64 := do
  let t := (← Std.Time.Timestamp.now).toNanosecondsSinceUnixEpoch.toInt
  return .ofRatio false t.toNat 1000000000

/-- What stands in log lines. -/
def stampNow : IO Logging.Stamp := do
  let t ← Std.Time.PlainDateTime.now
  let time := Text.ofString (t.format "uuuu-MM-dd HH:mm:ss")
  return ⟨fun _ => time, id, {}⟩

/-- The number of cells in a line of the terminal. -/
def columnsNow : IO Nat :=
  return (((← IO.getEnv "COLUMNS").bind String.toNat?).filter (0 < ·)).getD 80

/-- The surroundings of a run without a hub. -/
def worldFor (args : List Text) : IO Program.World := return {
  environment := (← variableNames.mapM bindingOf).filterMap id
  files := ← filesFor args
  hub := fun _ => .network .connectError "not connected"
  now := ← secondsNow
  platform := ← platform
  columns := ← columnsNow
  prints := fun _ => false
  stamp := ← stampNow
  unreadable := "it is not well formed" }

/-! ## The hub -/

/-- The host and the port of an address, unless something else than HTTP is spoken there. -/
def hostAndPort? (url : Text) : Option (Text × Nat) :=
  let (scheme, rest) := Url.scheme url
  let (_, host, port) := Url.userHostPort (Url.authority rest).1
  if scheme.lowerLetters == "http" then
    some (host, if port.isEmpty then 80 else Text.decimalValue port)
  else none

/-- The place of a host and port on the network. -/
def resolve (host : Text) (port : Nat) : Async SocketAddress := do
  let name : Text := host.filter fun c => c != 0x5B && c != 0x5D
  let addresses : Array IPAddr ← DNS.getAddrInfo (name.toString?.getD "") ""
  match addresses.toList with
  | .v4 addr :: _ => return .v4 ⟨addr, port.toUInt16⟩
  | .v6 addr :: _ => return .v6 ⟨addr, port.toUInt16⟩
  | [] => throw (IO.userError "no address")

/-- All that comes over a connection until it ends. -/
partial def receiveAll (c : TCP.Socket.Client) (before : Bytes) : Async Bytes := do
  match ← c.recv? 65536 with
  | some more => receiveAll c (before ++ more.toList)
  | none => return before

/-- The reply to a request for a path. -/
def ask (host : Text) (port : Nat) (path : Text) : Async Hub.Reply := do
  let connection ← TCP.Socket.Client.mk
  try
    connection.connect (← resolve host port)
  catch e => return .network .connectError (Text.ofString (toString e))
  try
    connection.send ⟨(Http.getRequest host path).toArray⟩
    return (Http.reply? (← receiveAll connection [])).getD
      (.network .remoteProtocolError "Server disconnected without sending a response.")
  catch e => return .network .readError (Text.ofString (toString e))

/-- The reply, unless it takes too long. -/
def askInTime (seconds : Binary64) (host : Text) (port : Nat) (path : Text) : Async Hub.Reply := do
  let (n, d) := seconds.ratio
  let late : Async Hub.Reply := do
    sleep ⟨(1000 * n / d : Nat)⟩
    return .network .readTimeout "timed out"
  if seconds.isFinite then Async.race (ask host port path) late else ask host port path

/-- The replies of the hub to all that a cycle asks. -/
def hubFor (p : Scrape.Plan) : IO Hub.Server := do
  let routes ← [p.statusPath, p.queuePath].filterMapM fun path => do
    let url := p.fetcher.urlFor path
    match Url.ofText url with
    | .error _ => return none
    | .ok u =>
      let reply ← match hostAndPort? url with
        | some (host, port) => (askInTime p.fetcher.timeout host port u.pathText).block
        | none => pure (.network .unsupportedProtocol "only http is spoken")
      return some (u.requestPath, reply)
  return .ofRoutes routes

/-! ## Output -/

/-- A text as it is written out, without what cannot be. -/
def shown (t : Text) : String := (Text.toString? (t.filter (!Text.isSurrogate ·))).getD ""

/-- How the program is used. -/
def usage : Text :=
  let options : List Text :=
    CommandLine.Place.front.switches.map fun (spelling, _) => "[" ++ spelling ++ "]"
  "usage: grid-exporter " ++ Text.join " " options ++ " ["
    ++ Text.join " | " (CommandLine.Command.all.map CommandLine.Command.name) ++ "]"

/-- Put what has been logged behind the content of the log files. -/
def writeLogs (s : Logging.State) : IO Unit := do
  for target in s.targets do
    match target with
    | .file l _ =>
      if let some (.file content) := s.files.at? l then
        IO.FS.createDirAll (shown (Files.textOf l.dropLast))
        let log ← IO.FS.Handle.mk (shown (Files.textOf l)) .append
        log.write ⟨content.toArray⟩
    | .terminal _ => pure ()

/-! ## The service -/

/-- What has come over a connection when a head is complete. -/
partial def receiveHead (c : TCP.Socket.Client) (before : Bytes) : Async Bytes := do
  if (Http.splitHead before).2.isSome then return before
  match ← c.recv? 65536 with
  | some more => receiveHead c (before ++ more.toList)
  | none => return before

/-- Answer one request. -/
def answer (l : Program.Listener) (s : Program.Session) (c : TCP.Socket.Client) : IO Unit := do
  match Http.request? (← (receiveHead c []).block) with
  | none => pure ()
  | some r =>
    let plan := Scrape.Plan.ofSettings l.service.fetcher s.settings
    let hub : Hub.Server ← match l.service.route r.method r.pathAndQuery.1, plan with
      | .page .metrics, .ok plan | .page .status, .ok plan => hubFor plan
      | _, _ => pure fun _ => .answer 404 []
    let handled := l.service.handle [] s.settings hub (← secondsNow) r
    let stamp ← stampNow
    let logging := handled.records.foldl (Logging.State.log stamp) { s.logging with terminal := [] }
    IO.eprint (shown logging.terminal)
    writeLogs { logging with files := { logging.files with entries := [] } }
    c.send ⟨(Http.answerBytes handled.answer).toArray⟩ |>.block
    c.shutdown |>.block

/-- Answer requests, one after the other, for ever. -/
partial def listen (l : Program.Listener) (s : Program.Session) (server : TCP.Socket.Server) :
    IO Unit := do
  let connection ← server.accept.block
  try answer l s connection catch e => IO.eprintln (toString e)
  listen l s server

/-- Serve until told to stop. -/
def serve (l : Program.Listener) (s : Program.Session) : IO Unit := do
  (← IO.getStdout).flush
  let server ← TCP.Socket.Server.mk
  server.bind (← (resolve l.host l.port.toNat).block)
  server.listen 128
  listen l s server

end GridGauge.Main

open GridGauge GridGauge.Main in
/-- Run the program with the arguments of its command line. -/
def main (arguments : List String) : IO UInt32 := do
  let args := arguments.map Text.ofString
  let w ← worldFor args
  let start := Settings.initial w.environment
  let rehearsal := (Program.run w start args).2
  let plan := (Scrape.fetcherFor rehearsal.settings none).bind
    (Scrape.Plan.ofSettings · rehearsal.settings)
  let hub : Hub.Server ← match rehearsal.calls, plan with
    | _ :: _, .ok plan => hubFor plan
    | _, _ => pure w.hub
  let (ending, session) := Program.run { w with hub } start args
  IO.print (shown session.printed)
  IO.eprint (shown session.logging.terminal)
  writeLogs session.logging
  match ending with
  | .refused r =>
    match r with
    | .help => IO.println (shown usage)
    | _ => IO.eprintln (shown r.complaint)
    return r.status.toUInt32
  | .failed e =>
    IO.eprintln (shown e.message)
    return 1
  | .finished status => return status.toUInt32
  | .serving l =>
    serve l session
    return 0
