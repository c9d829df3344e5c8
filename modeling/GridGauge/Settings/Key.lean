import GridGauge.Settings.Tree

/-!
# The settings there are

Nine settings in three sections, each with the value it has when nothing else
sets it.
-/

namespace GridGauge

/-- A setting that the program reads. -/
inductive SettingKey
  /-- The base address of the hub. -/
  | hubUrl
  /-- How long a request to the hub may take, in seconds. -/
  | hubTimeout
  /-- The path of the hub's status. -/
  | statusPath
  /-- The path of the hub's queue. -/
  | queuePath
  /-- The address to listen on. -/
  | host
  /-- The port to listen on. -/
  | port
  /-- The path under which the metrics are published. -/
  | metricsPath
  /-- The level from which on messages are logged. -/
  | logLevel
  /-- The file that messages are logged to besides. -/
  | logFile
  deriving DecidableEq, Repr

namespace SettingKey

/-- All settings, in order. -/
def all : List SettingKey :=
  [.hubUrl, .hubTimeout, .statusPath, .queuePath, .host, .port, .metricsPath, .logLevel, .logFile]

/-- The section of a setting. -/
def sectionName : SettingKey → Text
  | .hubUrl | .hubTimeout | .statusPath | .queuePath => "hub"
  | .host | .port | .metricsPath => "exporter"
  | .logLevel | .logFile => "logging"

/-- The name of a setting in its section. -/
def leafName : SettingKey → Text
  | .hubUrl => "url"
  | .hubTimeout => "timeout_sec"
  | .statusPath => "status_path"
  | .queuePath => "queue_path"
  | .host => "host"
  | .port => "port"
  | .metricsPath => "metrics_path"
  | .logLevel => "level"
  | .logFile => "file"

/-- The path of a setting. -/
def path (k : SettingKey) : List Text := [k.sectionName, k.leafName]

/-- The path of a setting in writing. -/
def name (k : SettingKey) : Text := k.sectionName ++ "." ++ k.leafName

/-- The value of a setting that nothing else sets. -/
def default : SettingKey → Setting
  | .hubUrl => .ofText "http://127.0.0.1:4444"
  | .hubTimeout => .scalar (.float (.ofRatio false 5 1))
  | .statusPath => .ofText "/status"
  | .queuePath => .ofText "/se/grid/newsessionqueue/queue"
  | .host => .ofText "0.0.0.0"
  | .port => .scalar (.int 9000)
  | .metricsPath => .ofText "/metrics"
  | .logLevel => .ofText "INFO"
  | .logFile => .scalar .null

end SettingKey

/-- The tree of all defaults. -/
def defaultEntries : Entries :=
  SettingKey.all.foldl (fun es k => es.set k.default k.path) []

end GridGauge
