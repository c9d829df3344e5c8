import GridGauge.CommandLine
import GridGauge.Encoding.Surrogate
import GridGauge.Hub.Fetch
import GridGauge.Logging
import GridGauge.Number.Limit
import GridGauge.Service
import GridGauge.Settings.File
import GridGauge.Terminal.Markup
import GridGauge.Version

/-!
# Sessions

From its start to its end the program is in a session: what is set, where
messages go, what has been printed and what has been asked of the hub. What it
finds around itself is its world, which it cannot change but for the files
that it logs to.

A step of the program (`Step`) goes from a session to another and may fail on
the way; what had come about until then stays.
-/

namespace GridGauge.Program

/-- What the program finds around itself. -/
structure World where
  environment : Environment
  files : Files
  hub : Hub.Server
  /-- The time, in seconds. -/
  now : Binary64
  platform : Platform
  /-- The number of cells in a line of the terminal. -/
  columns : Nat
  /-- The surrogates that can be printed nevertheless. What is printed is encoded in UTF-8 as a
      rule, in which they have no place. -/
  prints : CodePoint → Bool
  /-- What stands in log lines for the time and for failures. -/
  stamp : Logging.Stamp
  /-- What is said of a file of settings that cannot be read. -/
  unreadable : Text

/-- A session of the program. -/
structure Session where
  settings : Settings
  /-- Where messages go, with all that has gone there, to the terminal and to files. -/
  logging : Logging.State
  /-- What has been printed. -/
  printed : Text
  /-- What has been asked of the hub. -/
  calls : List Hub.Call

/-- The session at the start of the program, under settings. -/
def Session.start (w : World) (s : Settings) : Session := ⟨s, .initial w.files, [], []⟩

/-- Why the program breaks off. -/
inductive Failure
  | file (flaw : Settings.FileFlaw)
  | logging (e : Logging.SetupError)
  /-- A setting is not the text or number it should be. -/
  | setting (e : NumberError)
  | service (e : Service.CreationError)
  | markup (e : Terminal.MarkupError)
  /-- A text cannot be printed, or cannot be drawn on the terminal. -/
  | unprintable (fault : SurrogateFault) (isDrawn : Bool)
  /-- A number has too many digits to be written. -/
  | tooLong
  deriving DecidableEq, Repr

/-- What is advised when a text cannot be drawn. -/
def encodingAdvice : Text :=
  "\n*** You may need to add PYTHONIOENCODING=utf-8 to your environment ***"

/-- The failure in words. -/
def Failure.message : Failure → Text
  | .file flaw => flaw.message
  | .logging e => e.message
  | .setting e => e.message
  | .service e => e.message
  | .markup e => e.message
  | .unprintable fault isDrawn => fault.message ++ if isDrawn then encodingAdvice else []
  | .tooLong => tooLongToWriteMessage

/-- A text to be printed, unless it cannot be encoded. -/
def World.encodable (w : World) (isDrawn : Bool) (t : Text) : Except Failure Text :=
  match SurrogateFault.find? w.prints 0 t with
  | none => .ok t
  | some fault => .error (.unprintable fault isDrawn)

/-- A step of the program. -/
abbrev Step (α : Type) := ExceptT Failure (StateM Session) α

namespace Step

/-- A result that is there already, or the failure in its stead. -/
def ofExcept {ε α : Type} (failure : ε → Failure) : Except ε α → Step α
  | .ok a => pure a
  | .error e => throw (failure e)

/-- A setting as a text. -/
def textOf (v : Setting) : Step Text := ofExcept .setting v.toText

/-- Print a text, if it can be encoded. -/
def write (w : World) (isDrawn : Bool) (t : Text) : Step Unit := do
  let t ← ofExcept id (w.encodable isDrawn t)
  modify fun s => { s with printed := s.printed ++ t }

/-- Print a text. -/
def print (w : World) (t : Text) : Step Unit := write w false t

/-- Print a text and a line break. -/
def printLine (w : World) (t : Text) : Step Unit := print w (t ++ [10])

/-- Draw a text on the terminal. -/
def draw (w : World) (t : Text) : Step Unit := write w true t

/-- Write a line to the terminal, beside what is printed. -/
def complain (t : Text) : Step Unit :=
  modify fun s =>
    { s with logging := { s.logging with terminal := s.logging.terminal ++ t ++ [10] } }

/-- Log messages. -/
def log (w : World) (rs : List Logging.Record) : Step Unit :=
  modify fun s => { s with logging := rs.foldl (Logging.State.log w.stamp) s.logging }

end Step

end GridGauge.Program
