import GridGauge.Encoding.Utf8
import GridGauge.Files
import GridGauge.Logging.Format
import GridGauge.Settings.Value

/-!
# Logging

Messages from a level on are written as lines to the terminal and, where one
is asked for, to a file. Setting up logging anew replaces where messages go,
so that nothing adds up however often it is done; what is refused leaves
logging as far as it had come (`setUp`).

Before it is set up, nothing but warnings and worse is written, as the bare
message.
-/

namespace GridGauge.Logging

/-- Where messages go, and as what lines. -/
inductive Target
  | terminal (form : Form)
  | file (location : Location) (form : Form)
  deriving DecidableEq, Repr

/-- The state of logging, with what has been written. -/
structure State where
  /-- The level from which on messages are written. -/
  level : Level
  targets : List Target
  /-- What the terminal has got. -/
  terminal : Text
  files : Files
  deriving Repr

/-- What is asked for as a level. -/
inductive LevelRequest
  | word (t : Text)
  | level (l : Level)
  /-- The level stays as it is. -/
  | unchanged

/-- Why logging cannot be set up. -/
inductive SetupError
  | level (e : LevelError)
  | file (e : FileError)
  /-- A value of this type is no path. -/
  | notPath (type : Text)
  /-- The format has no field. -/
  | format (t : Text)
  deriving DecidableEq, Repr

/-- The error in words. -/
def SetupError.message : SetupError → Text
  | .level e => e.message
  | .file e => e.message
  | .notPath type =>
    if type == "bytes" then
      "argument should be a str object or an os.PathLike object returning str, not <class 'bytes'>"
    else
      "expected str, bytes or os.PathLike object, not "
        ++ (type.reverse.takeWhile (· != 0x2E)).reverse
  | .format t => "Invalid format '" ++ t ++ "' for '%' style"

namespace State

/-- Logging before it is set up. -/
def initial (files : Files) : State := ⟨30, [], [], files⟩

/-- The path that a setting gives for the log file, if it gives one. -/
def filePath? (s : Setting) : Except SetupError (Option Text) :=
  if !s.isGiven then .ok none
  else match s with
    | .scalar (.text t) => .ok (some t)
    | s => .error (.notPath s.typeName)

/-- The state with the log file opened, if there is to be one, and its location. -/
def openFile (s : State) (file : Setting) : Except SetupError (State × Option Location) := do
  match ← filePath? file with
  | none => return (s, none)
  | some path =>
    let path ← (Files.expandHome s.files path).mapError .file
    let (files, l) ← (s.files.openLog path).mapError .file
    return ({ s with files }, some l)

/-- The targets of lines of a form: the terminal, and the file if there is one. -/
def targetsFor (form : Form) (file : Option Location) : List Target :=
  .terminal form :: (file.map (Target.file · form)).toList

/-- The state after setting up, and the error if there was one. The log file is opened first, then
    the old targets go, then the format is looked at, then the level. -/
def setUp (s : State) (level : LevelRequest) (file : Setting) (form : Form) :
    State × Option SetupError :=
  let form := if form.format.isEmpty then { form with format := bareFormat } else form
  match s.openFile file with
  | .error e => (s, some e)
  | .ok (s, location) =>
    if !isFormat form.format then ({ s with targets := [] }, some (.format form.format))
    else
      let s := { s with targets := targetsFor form location }
      match level with
      | .unchanged => (s, none)
      | .level l => ({ s with level := l }, none)
      | .word w =>
        match levelOfWord w with
        | .ok l => ({ s with level := l }, none)
        | .error e => (s, some (.level e))

/-- The state after more has gone to the terminal. -/
def print (s : State) (t : Text) : State := { s with terminal := s.terminal ++ t }

/-- The state after the line of a message has gone to a target. Where no line can be made of it, and
    where a line for a file has surrogates in it, the terminal gets a notice. -/
def write (s : State) (stamp : Stamp) (r : Record) : Target → State
  | .terminal form => s.print ((line? stamp form r).getD (notice stamp r))
  | .file l form =>
    match line? stamp form r with
    | none => s.print (notice stamp r)
    | some line =>
      if line.any Text.isSurrogate then s.print (notice stamp r)
      else { s with files := s.files.append l (Utf8.encode line) }

/-- Is a message of this level written? -/
def passes (s : State) (l : Level) : Bool := 0 < l && s.level ≤ l

/-- The state after a message. -/
def log (stamp : Stamp) (s : State) (r : Record) : State :=
  if !s.passes r.level then s
  else if s.targets.isEmpty then
    if 30 ≤ r.level then s.write stamp r (.terminal ⟨bareFormat, usualDates⟩) else s
  else s.targets.foldl (write · stamp r ·) s

end State

end GridGauge.Logging
