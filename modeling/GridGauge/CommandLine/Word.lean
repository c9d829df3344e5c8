import GridGauge.CommandLine.Switch
import GridGauge.Text.Digit

/-!
# The words of a command line

Before anything is done about an argument it is settled whether it is an
option (`classify`). An option may be cut short as long as what is left is the
beginning of one spelling only, and may have a value joined to it with an
equals sign. Something with a hyphen in front is no option all the same if it
could be a negative number or has a space in it, and nothing is one behind the
separator `--`.
-/

namespace GridGauge.CommandLine

/-- What an argument is. -/
inductive Word
  /-- The separator, behind which nothing is an option. -/
  | separator
  | plain
  /-- An option, with the value joined to it. -/
  | switch (s : Switch) (joined : Option Text)
  /-- The short option that asks for help, with letters joined to it. -/
  | letters (tail : Text)
  /-- An option that there is not. -/
  | unknown
  deriving DecidableEq, Repr

/-- Why a command line cannot be followed. -/
inductive UsageError
  /-- The option may be short for several. -/
  | ambiguous (given : Text) (spellings : List Text)
  | valueMissing (s : Switch)
  /-- The option takes no value, but has one joined to it. -/
  | valueUnused (s : Switch) (value : Text)
  | notInteger (s : Switch) (value : Text)
  | notNumber (s : Switch) (value : Text)
  | unknownCommand (t : Text)
  /-- There is no place for these arguments. -/
  | unrecognized (ts : List Text)
  deriving DecidableEq, Repr

/-- The hyphen. -/
def hyphen : CodePoint := 0x2D

/-- Does the text look like a negative number: a hyphen and digits, perhaps with a point before
    some of them? A line break behind it makes no difference. -/
def looksNegative : Text → Bool
  | 0x2D :: t =>
    let t := if t.getLast? = some 10 then t.dropLast else t
    match t.span Text.isDigit with
    | (whole, []) => !whole.isEmpty
    | (_, 0x2E :: fraction) => !fraction.isEmpty && fraction.all Text.isDigit
    | _ => false
  | _ => false

/-- What an argument with a hyphen in front of something is, if it is no spelling in full. -/
def classifyOption (p : Place) (t : Text) : Except UsageError Word :=
  let (stem, joined) := Text.breakAt 0x3D t
  match (joined.bind fun _ => p.switch? stem), joined with
  | some s, some value => .ok (if stem == "-h" then .letters value else .switch s joined)
  | _, _ =>
    let nearest : Except UsageError (Option Word) :=
      if Text.startsWith t "--" then
        match p.switchesFrom stem with
        | [] => .ok none
        | [(_, s)] => .ok (some (.switch s joined))
        | several => .error (.ambiguous t (several.map Prod.fst))
      else .ok (if Text.startsWith t "-h" then some (.letters (t.drop 2)) else none)
    nearest.map fun
      | some w => w
      | none => if looksNegative t || t.contains 32 then .plain else .unknown

/-- What an argument is, unless it is the separator. -/
def classify (p : Place) (t : Text) : Except UsageError Word :=
  match t with
  | 0x2D :: _ :: _ =>
    match p.switch? t with
    | some s => .ok (.switch s none)
    | none => classifyOption p t
  | _ => .ok .plain

/-- The arguments, each with what it is. -/
def words (p : Place) : List Text → Except UsageError (List (Text × Word))
  | [] => .ok []
  | t :: ts =>
    if t == "--" then .ok ((t, .separator) :: ts.map fun t => (t, .plain))
    else do return (t, ← classify p t) :: (← words p ts)

end GridGauge.CommandLine
