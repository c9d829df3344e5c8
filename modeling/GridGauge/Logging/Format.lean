import GridGauge.Logging.Field
import GridGauge.Logging.Level
import GridGauge.Text.Digit
import GridGauge.Text.Word

/-!
# Lines of a log

A message becomes a line by a format, in which fields like `%(name)s` stand
for the parts of the message (`Record.values`). A format without any field is
refused (`isFormat`). What is asked of a format there is less than what it
takes to fill it, so a format that is taken can still fail to make a line of
a message (`line?`).
-/

namespace GridGauge.Logging

/-- A message. -/
structure Record where
  /-- The name of the part of the program it comes from. -/
  logger : Text
  level : Level
  message : Text
  /-- The failure it tells of, if any. -/
  failure : Option Text
  deriving DecidableEq, Repr

/-- Where and when a message arose. -/
structure Origin where
  path : Text := []
  file : Text := []
  module : Text := []
  line : Nat := 0
  function : Text := []
  /-- The time in seconds. -/
  created : Binary64 := .zero
  /-- The milliseconds of the time. -/
  milliseconds : Binary64 := .zero
  /-- The milliseconds since the program began. -/
  elapsed : Binary64 := .zero
  thread : Nat := 0
  threadName : Text := "MainThread"
  processName : Text := "MainProcess"
  process : Nat := 0
  deriving Repr

/-- What is not in a message itself but in its line. -/
structure Stamp where
  /-- The time, under a format of dates. -/
  time : Text → Text
  /-- What is said of a failure, on lines of its own. -/
  failure : Text → Text
  origin : Origin

/-- How lines are written. -/
structure Form where
  /-- The format of a line. -/
  format : Text
  /-- The format of the time in it. -/
  dates : Text
  deriving DecidableEq, Repr

/-! ## Which formats are taken -/

/-- The letters that a field ends in, in either case. Some letters beyond ASCII are another case
    of letters among them. -/
def isConversion (c : CodePoint) : Bool :=
  ("diouxefgcrsa%DIOUXEFGCRSA" : Text).contains c || c == 0x130 || c == 0x131 || c == 0x17F

/-- The text behind a size, which is a star or digits of any script; nothing if none is there. -/
def behindSize? : Text → Option Text
  | 0x2A :: rest => some rest
  | c :: rest => if Text.isDigit c then some (rest.dropWhile Text.isDigit) else none
  | [] => none

/-- Does the text begin with a field? The name is a word, and there is a number behind a point. -/
def startsField : Text → Bool
  | 0x25 :: 0x28 :: rest =>
    match rest.span Text.isWord with
    | (_ :: _, 0x29 :: rest) =>
      let rest := rest.dropWhile isFlag
      let rest := (behindSize? rest).getD rest
      let rest := match rest with
        | 0x2E :: more => (behindSize? more).getD rest
        | rest => rest
      match rest with
      | conversion :: _ => isConversion conversion
      | [] => false
    | _ => false
  | _ => false

/-- A format is of use when there is a field in it. -/
def isFormat : Text → Bool
  | [] => false
  | c :: rest => startsField (c :: rest) || isFormat rest

/-! ## Lines -/

/-- Does the text occur in another? -/
def occursIn (t : Text) : Text → Bool
  | [] => t.isEmpty
  | c :: rest => t.isPrefixOf (c :: rest) || occursIn t rest

/-- What the fields of any format can show of a message. -/
def Record.usualValues (stamp : Stamp) (r : Record) : List (Text × Value) :=
  let o := stamp.origin
  let failure : Value := match r.failure with
    | some t => .other t
    | none => .nothing
  [("name", .text r.logger), ("msg", .text r.message), ("args", .other "()"),
    ("levelname", .text (levelName r.level)), ("levelno", .integer r.level),
    ("pathname", .text o.path), ("filename", .text o.file), ("module", .text o.module),
    ("exc_info", failure), ("exc_text", .nothing), ("stack_info", .nothing),
    ("lineno", .integer o.line), ("funcName", .text o.function), ("created", .number o.created),
    ("msecs", .number o.milliseconds), ("relativeCreated", .number o.elapsed),
    ("thread", .integer o.thread), ("threadName", .text o.threadName),
    ("processName", .text o.processName), ("process", .integer o.process),
    ("message", .text r.message)]

/-- The name of the time. -/
def timeName : Text := "asctime"

/-- What the fields of a format can show of a message. The time is among it only if the format asks
    for it. -/
def Record.values (stamp : Stamp) (form : Form) (r : Record) : List (Text × Value) :=
  let asked := occursIn ("%(" ++ timeName ++ ")") form.format
  r.usualValues stamp ++ if asked then [(timeName, .text (stamp.time form.dates))] else []

/-- All the values of a message with their names, as one value. -/
def shownValues (values : List (Text × Value)) : Value :=
  let members := values.map fun (name, v) =>
    Text.Quoted.encode name ++ (": " : Text) ++ v.toQuoted?.getD []
  .other ("\x7b" ++ Text.join ", " members ++ "\x7d")

/-- The text of a message under a format, if its fields can be filled. The first field without a
    name has all there is to show. -/
def body? (stamp : Stamp) (form : Form) (r : Record) : Option Text :=
  let values := r.values stamp form
  fillAll? (List.lookup · values) (some (shownValues values))
    (pieces (form.format.length + 1) form.format)

/-- The line of a message, with what is said of a failure on lines of its own behind it. -/
def line? (stamp : Stamp) (form : Form) (r : Record) : Option Text :=
  (body? stamp form r).map fun text =>
    match r.failure with
    | none => text ++ [10]
    | some failure =>
      (if text.getLast? == some 10 then text else text ++ [10]) ++ stamp.failure failure ++ [10]

/-- What the terminal gets in place of a line that cannot be made. -/
def notice (stamp : Stamp) (r : Record) : Text :=
  "--- Logging error ---\n" ++ stamp.failure "the line cannot be made" ++ "\nMessage: "
    ++ Text.Quoted.encode r.message ++ "\nArguments: ()\n"

/-- The format of lines unless another is asked for. -/
def usualFormat : Text := "%(asctime)s [%(levelname)s] %(name)s: %(message)s"

/-- The format of lines that are no more than the message. -/
def bareFormat : Text := "%(message)s"

/-- The format of the time unless another is asked for. -/
def usualDates : Text := "%Y-%m-%d %H:%M:%S"

/-- How lines are written unless something else is asked for. -/
def usualForm : Form := ⟨usualFormat, usualDates⟩

end GridGauge.Logging
