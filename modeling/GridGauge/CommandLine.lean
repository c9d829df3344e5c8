import GridGauge.CommandLine.Word
import GridGauge.Number.Reading
import GridGauge.Settings.Tree
import GridGauge.Text.Quoted

/-!
# Command lines

The arguments of the program are read in two goes by the same rules (`scan`):
those in front of the command, and those behind it. What is given behind it
has the last word. So it makes no difference where the options of settings
stand, except that behind the command its own are allowed too.

Arguments that nothing can be done with are gathered, and only complained
about when all else is well.
-/

namespace GridGauge.CommandLine

/-- What is asked for on a command line. -/
structure Arguments where
  /-- The command, if one is named. -/
  command : Option Command := none
  /-- The values of options, the last where one is given repeatedly. -/
  values : Bindings Flag Setting := []
  /-- Is a report in JSON asked for? -/
  json : Bool := false
  /-- Is it to be on several lines? -/
  pretty : Bool := false
  deriving Repr, Inhabited

/-- The value of an option, if it is given. -/
def Arguments.value? (a : Arguments) (f : Flag) : Option Setting := a.values.find? f

/-- The command to carry out: without one the metrics are served. -/
def Arguments.toRun (a : Arguments) : Command := a.command.getD .serve

/-- Why the program does not start. -/
inductive Refusal
  /-- It was asked how it is used. -/
  | help
  | usage (p : Place) (e : UsageError)
  deriving DecidableEq, Repr

/-- The error in words. -/
def UsageError.message : UsageError → Text
  | .ambiguous given spellings =>
    "ambiguous option: " ++ given ++ " could match " ++ Text.join ", " spellings
  | .valueMissing s => "argument " ++ s.label ++ ": expected one argument"
  | .valueUnused s value =>
    "argument " ++ s.label ++ ": ignored explicit argument " ++ Text.Quoted.encode value
  | .notInteger s value =>
    "argument " ++ s.label ++ ": invalid int value: " ++ Text.Quoted.encode value
  | .notNumber s value =>
    "argument " ++ s.label ++ ": invalid float value: " ++ Text.Quoted.encode value
  | .unknownCommand t =>
    "argument command: invalid choice: " ++ Text.Quoted.encode t ++ " (choose from "
      ++ Text.join ", " (Command.all.map fun c => Text.Quoted.encode c.name) ++ ")"
  | .unrecognized ts => "unrecognized arguments: " ++ Text.join " " ts

namespace Refusal

/-- The status that the program ends with. -/
def status : Refusal → Nat
  | .help => 0
  | .usage _ _ => 2

/-- What the program complains about; to be asked for help it does not mind. -/
def complaint : Refusal → Text
  | .help => []
  | .usage p e => p.programName ++ ": error: " ++ e.message

end Refusal

/-- What has been read of a command line. -/
structure Progress where
  arguments : Arguments := {}
  /-- The arguments that nothing could be done with. -/
  leftOver : List Text := []
  deriving Repr, Inhabited

/-- The progress with one more argument that nothing can be done with. -/
def Progress.leave (g : Progress) (t : Text) : Progress := { g with leftOver := g.leftOver ++ [t] }

/-- The progress with the value of an option. -/
def Progress.give (g : Progress) (f : Flag) (value : Setting) : Progress :=
  { g with arguments := { g.arguments with values := g.arguments.values.put f value } }

/-- The value that a text is for an option. -/
def valueOf (f : Flag) (t : Text) : Except UsageError Setting :=
  match f with
  | .port =>
    match Reading.integer t with
    | .ok n => .ok (.scalar (.int n))
    | .error _ => .error (.notInteger (.flag f) t)
  | .timeout =>
    match Reading.number t with
    | .ok x => .ok (.scalar (.float x))
    | .error _ => .error (.notNumber (.flag f) t)
  | _ => .ok (.ofText t)

/-- The value that a text joined to an option is. The separator is no value, and leaves an empty
    list. -/
def joinedValueOf (f : Flag) (t : Text) : Except UsageError Setting :=
  if t == "--" then .ok (.ofItems []) else valueOf f t

/-- What comes of letters joined to the short option that asks for help: they must be the same
    letter again and again. -/
def refusalOfLetters (p : Place) (tail : Text) : Refusal :=
  match tail, tail.dropWhile (· == 0x68) with
  | _ :: _, [] => .help
  | _, other => .usage p (.valueUnused .help other)

/-- The progress after options, and the arguments from the first on that is no option. Behind a
    command all arguments are read, and what is no option is left over. -/
def scan (p : Place) : List (Text × Word) → Progress → Except Refusal (Progress × List Text)
  | [], g => .ok (g, [])
  | (t, .unknown) :: rest, g => scan p rest (g.leave t)
  | (_, .letters tail) :: _, _ => .error (refusalOfLetters p tail)
  | (_, .switch (.flag f) (some value)) :: rest, g =>
    match joinedValueOf f value with
    | .ok v => scan p rest (g.give f v)
    | .error e => .error (.usage p e)
  | (_, .switch (.flag f) none) :: (value, .plain) :: rest, g =>
    match valueOf f value with
    | .ok v => scan p rest (g.give f v)
    | .error e => .error (.usage p e)
  | (_, .switch (.flag f) none) :: _, _ => .error (.usage p (.valueMissing (.flag f)))
  | (_, .switch s (some value)) :: _, _ => .error (.usage p (.valueUnused s value))
  | (_, .switch .help none) :: _, _ => .error .help
  | (_, .switch .json none) :: rest, g =>
    scan p rest { g with arguments := { g.arguments with json := true } }
  | (_, .switch .pretty none) :: rest, g =>
    scan p rest { g with arguments := { g.arguments with pretty := true } }
  | (t, .plain) :: rest, g | (t, .separator) :: rest, g =>
    match p with
    | .front => .ok (g, t :: rest.map Prod.fst)
    | .behind _ => scan p rest (g.leave t)

/-- The progress after the arguments of a place, and the arguments that are not of that place. -/
def readAt (p : Place) (args : List Text) (g : Progress) :
    Except Refusal (Progress × List Text) := do
  scan p (← (words p args).mapError (.usage p)) g

/-- The progress after a command and all that is behind it. The separator alone is no command. -/
def readCommand (args : List Text) (g : Progress) : Except Refusal Progress :=
  match args with
  | [] => .ok g
  | name :: rest =>
    if name == "--" && rest.isEmpty then .ok (g.leave name)
    else match Command.ofName? name with
    | none => .error (.usage .front (.unknownCommand name))
    | some c =>
      let g := { g with arguments := { g.arguments with command := some c } }
      (readAt (.behind c) rest g).map Prod.fst

/-- What is asked for with the arguments of the program. -/
def parse (args : List Text) : Except Refusal Arguments := do
  let (g, rest) ← readAt .front args {}
  let g ← readCommand rest g
  if g.leftOver.isEmpty then return g.arguments
  else throw (.usage .front (.unrecognized g.leftOver))

end GridGauge.CommandLine
