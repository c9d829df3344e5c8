import GridGauge.Program.Session

/-!
# Preparation

Before a command is carried out, a file of settings is loaded, the options of
the command line are laid over what it sets, and logging is set up by what has
been settled by then.

The options come last, so that they have the last word; without an option, the
environment goes before the file, and the file before the defaults.
-/

namespace GridGauge

/-- The options that settings have, in the order in which they are put in. -/
def CommandLine.flagSettings : List (SettingKey × CommandLine.Flag) :=
  [(.hubUrl, .hub), (.port, .port), (.host, .host), (.hubTimeout, .timeout), (.logLevel, .logLevel)]

/-- The settings with the values of options put in. -/
def Settings.applyFlags (s : Settings) (a : CommandLine.Arguments) : Settings :=
  CommandLine.flagSettings.foldl (fun (s : Settings) (k, f) =>
    match a.value? f with
    | some v => s.set k.path v
    | none => s) s

/-- The path of the file of settings that is asked for. The empty path asks for none. -/
def CommandLine.Arguments.configPath? (a : CommandLine.Arguments) : Option Text :=
  match a.value? .config with
  | some (.scalar (.text path)) => if path.isEmpty then none else some path
  | _ => none

namespace Program

/-- What is logged of a file of settings. -/
def fileRecords (w : World) : Settings.Loaded → List Logging.Record
  | .unreadable path =>
    [⟨"config", 30, "Failed to load config file " ++ path ++ ": " ++ w.unreadable, none⟩]
  | .noMapping path =>
    [⟨"config", 30, "Ignoring config file " ++ path ++ ": top level is not a mapping", none⟩]
  | _ => []

/-- The settings after loading a file. -/
def settingsAfter (w : World) (s : Settings) : Settings.Loaded → Except Settings.FileFlaw Settings
  | .tree file => (s.load w.environment file).elim (.error .endless) .ok
  | .stops flaw => .error flaw
  | _ => .ok s

/-- Has loading a file set anything? -/
def isLoaded : Settings.Loaded → Bool
  | .tree _ => true
  | _ => false

/-- Load the file of settings that is asked for, or the one that is found. Only of a file that was
    asked for it is said that it has not been loaded. -/
def loadSettings (w : World) (a : CommandLine.Arguments) : Step Unit := do
  let loaded := Settings.loadFrom (← get).settings.marks w.files a.configPath?
  Step.log w (fileRecords w loaded)
  let settings ← Step.ofExcept .file (settingsAfter w (← get).settings loaded)
  modify fun s => { s with settings }
  match a.configPath? with
  | some path =>
    if isLoaded loaded then pure () else Step.complain ("Config file not loaded: " ++ path)
  | none => pure ()

/-- Set up logging as the settings have it. -/
def setUpLogging : Step Unit := do
  let s ← get
  let level ← Step.textOf (s.settings.value .logLevel)
  let file := s.settings.value? .logFile
  let (logging, refused) := s.logging.setUp (.word level) file Logging.usualForm
  set { s with logging }
  match refused with
  | some e => throw (.logging e)
  | none => pure ()

/-- Prepare for a command. -/
def prepare (w : World) (a : CommandLine.Arguments) : Step Unit := do
  loadSettings w a
  modify fun s => { s with settings := s.settings.applyFlags a }
  setUpLogging

end Program

end GridGauge
