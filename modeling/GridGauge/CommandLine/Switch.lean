import GridGauge.Text

/-!
# Commands and options

A command line names at most one command, and options in front of it and
behind it. The options that give a setting its value are the same in front and
behind, except that the command that tells the version takes none; what else
there is depends on the command.
-/

namespace GridGauge.CommandLine

/-- A command. -/
inductive Command
  /-- Serve the metrics until told to stop. -/
  | serve
  /-- Observe the grid once. -/
  | collect
  /-- Show the settings. -/
  | validateConfig
  /-- Tell the version. -/
  | version
  deriving DecidableEq, Repr

namespace Command

/-- All commands, in order. -/
def all : List Command := [.serve, .collect, .validateConfig, .version]

/-- The name of a command. -/
def name : Command → Text
  | .serve => "serve"
  | .collect => "collect"
  | .validateConfig => "validate-config"
  | .version => "version"

/-- The command of a name. -/
def ofName? (t : Text) : Option Command := all.find? fun c => c.name == t

end Command

/-- An option that is followed by a value. -/
inductive Flag
  /-- The base address of the hub. -/
  | hub
  /-- The port to listen on. -/
  | port
  /-- The address to listen on. -/
  | host
  /-- How long a request to the hub may take, in seconds. -/
  | timeout
  /-- The level from which on messages are logged. -/
  | logLevel
  /-- The file to load settings from. -/
  | config
  deriving DecidableEq, Repr

namespace Flag

/-- All options with a value, in order. -/
def all : List Flag := [.hub, .port, .host, .timeout, .logLevel, .config]

/-- How the option is spelled. -/
def spelling : Flag → Text
  | .hub => "--hub"
  | .port => "--port"
  | .host => "--host"
  | .timeout => "--timeout"
  | .logLevel => "--log-level"
  | .config => "--config"

end Flag

/-- What an option asks for. -/
inductive Switch
  /-- Show how the program is used. -/
  | help
  | flag (f : Flag)
  /-- Report in JSON. -/
  | json
  /-- Report in JSON on several lines. -/
  | pretty
  deriving DecidableEq, Repr

/-- How an option is named in messages. -/
def Switch.label : Switch → Text
  | .help => "-h/--help"
  | .flag f => f.spelling
  | .json => "--json"
  | .pretty => "--pretty"

/-- Where on the command line options are read. -/
inductive Place
  /-- In front of the command. -/
  | front
  | behind (c : Command)
  deriving DecidableEq, Repr

namespace Place

/-- The spellings of the options that may be given in a place, in order. -/
def switches : Place → List (Text × Switch)
  | .behind .version => asking
  | .behind .collect => asking ++ setting ++ reporting
  | _ => asking ++ setting
where
  /-- The option that asks for help, in both spellings. -/
  asking : List (Text × Switch) := [("-h", .help), ("--help", .help)]
  /-- The options with a value. -/
  setting : List (Text × Switch) := Flag.all.map fun f => (f.spelling, .flag f)
  /-- The options that say how to report. -/
  reporting : List (Text × Switch) := [("--json", .json), ("--pretty", .pretty)]

/-- The option of a spelling. -/
def switch? (p : Place) (t : Text) : Option Switch :=
  (p.switches.find? fun s => s.1 == t).map Prod.snd

/-- The options whose spellings begin with `t`. -/
def switchesFrom (p : Place) (t : Text) : List (Text × Switch) :=
  p.switches.filter fun s => Text.startsWith s.1 t

/-- What the program calls itself when it complains about an option of a place. -/
def programName : Place → Text
  | .front => "grid-exporter"
  | .behind c => "grid-exporter " ++ c.name

end Place

end GridGauge.CommandLine
