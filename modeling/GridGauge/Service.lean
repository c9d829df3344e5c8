import GridGauge.Exposition
import GridGauge.Json.Writer
import GridGauge.Scrape.Cycle
import GridGauge.Service.Pattern

/-!
# The service

Three pages are served: one that says that the service is well, the metrics,
and the report of a cycle as JSON. The last two run a cycle each time they are
asked for. What the service is created with stays: base address, time-out and
the path of the metrics, which may be a pattern.

In front of these come the pages that FastAPI adds to every service, with which
it explains itself. A path of theirs is never one of the metrics.

A path that differs from that of a page by slashes at its end is redirected.
A page that cannot be written is an internal error, and so is a path with a
parameter that cannot be read.
-/

namespace GridGauge

/-- The service, as it is created. -/
structure Service where
  /-- The address of the hub that the service is named for. -/
  hubUrl : Text
  fetcher : Hub.Fetcher
  metricsPath : Text
  metricsPattern : Service.Pattern
  deriving DecidableEq, Repr, Inhabited

namespace Service

/-- Why there is no service under the settings. -/
inductive CreationError
  /-- A setting is not the text or number it should be. -/
  | setting (e : NumberError)
  /-- The path of the metrics is no pattern. -/
  | metricsPath (e : PatternError)
  deriving DecidableEq, Repr

/-- The error in words. -/
def CreationError.message : CreationError → Text
  | .setting e => e.message
  | .metricsPath e => e.message

/-- The service's title. -/
def title : Text := "Selenium Grid Exporter"

/-- The service for a hub under the settings: the address given, if there is one, and the fetcher
    given, or one for that address. -/
def create (s : Settings) (hubUrl : Option Text) (fetcher : Option Hub.Fetcher) :
    Except CreationError Service := do
  let hubUrl ← (Scrape.hubAddress s hubUrl).mapError .setting
  let fetcher ← match fetcher with
    | some f => pure f
    | none => pure ⟨hubUrl, ← (s.value .hubTimeout).toNumber.mapError .setting⟩
  let metricsPath ← (s.value .metricsPath).toText.mapError .setting
  return ⟨hubUrl, fetcher, metricsPath, ← (Pattern.ofText metricsPath).mapError .metricsPath⟩

/-- The message with which the service starts. -/
def startRecord (a : Service) : Logging.Record :=
  ⟨"api", 20, "Exporting metrics for hub " ++ a.hubUrl, none⟩

/-! ## Pages -/

/-- The pages on which FastAPI explains a service. -/
inductive Manual
  /-- The list of the pages, for programs. -/
  | schema
  | browser
  | redirection
  | reference
  deriving DecidableEq, Repr

/-- The pages. -/
inductive Page
  | manual (m : Manual)
  | health
  | metrics
  | status
  deriving DecidableEq, Repr

/-- The service's own pages, in the order in which they are looked for. -/
def Page.own : List Page := [.health, .metrics, .status]

/-- All pages, in the order in which they are looked for. -/
def Page.all : List Page :=
  [.manual .schema, .manual .browser, .manual .redirection, .manual .reference] ++ Page.own

/-- Can the page be asked for by the method? -/
def Page.takes (method : Text) : Page → Bool
  | .manual _ => method == "GET" || method == "HEAD"
  | _ => method == "GET"

/-- The path of a page. -/
def path (a : Service) : Page → Text
  | .manual .schema => "/openapi.json"
  | .manual .browser => "/docs"
  | .manual .redirection => "/docs/oauth2-redirect"
  | .manual .reference => "/redoc"
  | .health => "/health"
  | .metrics => a.metricsPath
  | .status => "/status"

/-- The pattern of a page's path. -/
def pattern (a : Service) : Page → Pattern
  | .metrics => a.metricsPattern
  | p => [.literal (a.path p)]

/-- What is answered to a request. -/
structure Answer where
  status : Nat
  contentType : Option Text
  location : Option Text
  body : Text
  deriving DecidableEq, Repr, Inhabited

/-- An answer in JSON. -/
def Answer.json (status : Nat) (v : Json) : Answer :=
  ⟨status, some "application/json", none, v.toText .compact⟩

/-- The answer that an error has come in the way. -/
def Answer.internalError : Answer :=
  ⟨500, some "text/plain; charset=utf-8", none, "Internal Server Error"⟩

/-- The answer that something is not to be had. -/
def Answer.refusal (status : Nat) (detail : Text) : Answer :=
  .json status (.object [("detail", .string detail)])

mutual

/-- Can the value be written for a browser? Its texts must be without lone surrogates. A number may
    be of any length and need not be finite, as it is for releases of FastAPI that leave the writing
    to pydantic. -/
def isWritable : Json → Bool
  | .null | .bool _ | .int _ | .float _ => true
  | .string t => !t.any Text.isSurrogate
  | .array vs => areWritable vs
  | .object ms => areWritableMembers ms

/-- Can all items be written? -/
def areWritable : List Json → Bool
  | [] => true
  | v :: vs => isWritable v && areWritable vs

/-- Can all members be written? -/
def areWritableMembers : List (Text × Json) → Bool
  | [] => true
  | (k, v) :: ms => !k.any Text.isSurrogate && isWritable v && areWritableMembers ms

end

/-- The page of a value. -/
def jsonPage (v : Json) : Answer := if isWritable v then .json 200 v else .internalError

/-- The page that says that the service is well. -/
def healthPage (now : Binary64) : Answer :=
  jsonPage (.object [("status", .string "ok"), ("timestamp", .float now)])

/-- The type of the metrics page. -/
def metricsType : Text := "text/plain; version=1.0.0; charset=utf-8"

/-- The page with the metrics of a cycle. -/
def metricsPage (o : Observations Nat) : Answer :=
  match Exposition.ofObservations o with
  | some t => ⟨200, some metricsType, none, t⟩
  | none => .internalError

/-- A page on which FastAPI explains the service. Its text is FastAPI's own, and left out here. It
    lists the paths of all pages, and cannot be written if there is a lone surrogate in one. -/
def manualPage (a : Service) : Manual → Answer
  | .schema =>
    if a.metricsPath.any Text.isSurrogate then .internalError
    else ⟨200, some "application/json", none, []⟩
  | _ => ⟨200, some "text/html; charset=utf-8", none, []⟩

/-! ## Requests -/

/-- What a request finds. -/
inductive Route
  | page (p : Page)
  /-- The page is there, but not for this method. -/
  | wrongMethod
  /-- The path lacks slashes at its end, or has too many. -/
  | redirect (path : Text)
  /-- A parameter in the path cannot be read. -/
  | unreadable
  | nowhere
  deriving DecidableEq, Repr

/-- The page of a path. -/
def page? (a : Service) (path : Text) : Option Page :=
  Page.all.find? fun p => (a.pattern p).fits path

/-- The path with its slashes at the end taken off, or one put there. -/
def otherSlashes (path : Text) : Text :=
  if Text.endsWith path "/" then Text.dropTrailing 0x2F path else path ++ "/"

/-- What a request for a path finds. -/
def route (a : Service) (method path : Text) : Route :=
  match a.page? path with
  | some p =>
    if !(a.pattern p).reads path then .unreadable
    else if p.takes method.capitals then .page p
    else .wrongMethod
  | none =>
    let other := otherSlashes path
    match if path == "/" then none else a.page? other with
    | some p => if (a.pattern p).reads other then .redirect other else .unreadable
    | none => .nowhere

/-- May the character stand in a location as it is? -/
def isLocationSafe (c : CodePoint) : Bool :=
  Text.isDecimalDigit c || Text.isLowerLetter c || Text.isUpperLetter c
    || ("_.-~:/%#?=@[]!$&'()*+,;" : Text).contains c

/-- The redirection to a path of the service at `origin`. -/
def Answer.redirection (origin path : Text) (query : Option Text) : Answer :=
  let target := origin ++ path ++ (match query with
    | some q => if q.isEmpty then [] else 0x3F :: q
    | none => [])
  ⟨307, none, some (target.flatMap fun c =>
    if isLocationSafe c then [c] else (Utf8.encodeOne c).flatMap Url.escapeByte), []⟩

/-- A request. -/
structure Request where
  method : Text
  /-- The path and query, or a whole address. -/
  target : Text

/-- What comes of a request: the answer, and what it took. -/
structure Handled where
  answer : Answer
  calls : List Hub.Call
  records : List Logging.Record

/-- What comes of a request that takes no cycle. -/
def Handled.of (answer : Answer) : Handled := ⟨answer, [], []⟩

/-- What comes of a request for a page that shows a cycle. -/
def serveCycle (a : Service) (s : Settings) (server : Hub.Server) (page : Scrape.Cycle → Answer) :
    Handled :=
  match Scrape.Plan.ofSettings a.fetcher s with
  | .ok plan =>
    let c := plan.run server
    ⟨page c, c.calls, c.records⟩
  | .error _ => .of .internalError

/-- What comes of a request for a page. -/
def servePage (a : Service) (s : Settings) (server : Hub.Server) (now : Binary64) : Page → Handled
  | .manual m => .of (a.manualPage m)
  | .health => .of (healthPage now)
  | .metrics => a.serveCycle s server fun c => metricsPage c.observations
  | .status => a.serveCycle s server fun c => jsonPage (c.report now).toJson

/-- The path and the query that a request asks for. One without an address asks for nothing. -/
def Request.pathAndQuery (r : Request) : Text × Option Text :=
  match Url.ofText r.target with
  | .ok u => (Url.decode u.onServer.requestPath, u.query)
  | .error _ => ([], none)

/-- What comes of a request to the service at `origin`. -/
def handle (a : Service) (origin : Text) (s : Settings) (server : Hub.Server) (now : Binary64)
    (r : Request) : Handled :=
  let (path, query) := r.pathAndQuery
  let handled : Handled := match a.route r.method path with
    | .page p => a.servePage s server now p
    | .wrongMethod => .of (.refusal 405 "Method Not Allowed")
    | .redirect path => .of (.redirection origin path query)
    | .unreadable => .of .internalError
    | .nowhere => .of (.refusal 404 "Not Found")
  if r.method.capitals == "HEAD" then
    { handled with answer := { handled.answer with body := [] } }
  else handled

end Service

end GridGauge
