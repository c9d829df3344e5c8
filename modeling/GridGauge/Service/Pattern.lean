import GridGauge.Number.Limit
import GridGauge.Text

/-!
# Patterns of paths

The path of a page is a pattern: what stands in braces is a parameter, a name
and maybe a kind behind a colon, for which a stretch of a path can stand that
is of the kind; all else stands for itself. Of several ways to fit a path the
one is taken in which each parameter, from the left, is as long as it can be.

A line break behind a path does not count. A pattern that does not start with
a slash is one of a host, so that a colon behind its last parameter ends it.
-/

namespace GridGauge.Service

/-- What can stand for a parameter. -/
inductive Kind
  /-- Anything but a slash. -/
  | segment
  /-- Anything on one line, or nothing. -/
  | stretch
  /-- Digits. -/
  | integer
  /-- Digits, and a fraction if there is one. -/
  | decimal
  /-- An identifier of 32 hexadecimal digits, with hyphens between its groups or not. -/
  | identifier
  deriving DecidableEq, Repr

namespace Kind

/-- The kinds by their names. -/
def named : List (Text × Kind) :=
  [("str", segment), ("path", stretch), ("int", integer), ("float", decimal), ("uuid", identifier)]

/-- The numbers from `n` down to `least`. -/
def downTo (least n : Nat) : List Nat := ((List.range (n + 1)).drop least).reverse

/-- The length of the groups of digits that the text begins with, a hyphen between two groups or
    none. -/
def groups? : List Nat → Text → Option Nat
  | [], _ => some 0
  | n :: ns, t =>
    let group := t.take n
    if group.length = n ∧ group.all fun c => (Text.hexValue? c).isSome then
      let rest := t.drop n
      let hyphen := if !ns.isEmpty && rest.head? == some 0x2D then 1 else 0
      (groups? ns (rest.drop hyphen)).map (n + hyphen + ·)
    else none

/-- The lengths of what can stand for a parameter at the beginning of a text, in the order in
    which they are tried. -/
def lengths (t : Text) : Kind → List Nat
  | segment => downTo 1 (t.takeWhile (· != 0x2F)).length
  | stretch => downTo 0 (t.takeWhile (· != 10)).length
  | integer => downTo 1 (t.takeWhile Text.isDecimalDigit).length
  | decimal =>
    let whole := (t.takeWhile Text.isDecimalDigit).length
    let fractions : List Nat :=
      if 0 < whole ∧ t[whole]? = some 0x2E then
        (downTo 1 ((t.drop (whole + 1)).takeWhile Text.isDecimalDigit).length).map (whole + 1 + ·)
      else []
    fractions ++ downTo 1 whole
  | identifier => (groups? [8, 4, 4, 4, 12] t).toList

/-- Can the text be read as what the parameter stands for? An integer must not be too long. -/
def reads (t : Text) : Kind → Bool
  | integer => t.length ≤ digitLimit
  | _ => true

end Kind

/-- A part of a pattern. -/
inductive PatternPart
  | literal (t : Text)
  | parameter (name : Text) (kind : Kind)
  deriving DecidableEq, Repr

/-- A pattern of paths. -/
abbrev Pattern := List PatternPart

/-- Why a text is no pattern. -/
inductive PatternError
  | unknownKind (name : Text)
  /-- The names of several parameters each. -/
  | duplicates (names : List Text) (pattern : Text)
  deriving DecidableEq, Repr

/-- The error in words. -/
def PatternError.message : PatternError → Text
  | .unknownKind name => "Unknown path convertor '" ++ name ++ "'"
  | .duplicates names pattern =>
    let ending : Text := if 1 < names.length then "s " else " "
    "Duplicated param name" ++ ending ++ Text.join ", " names ++ " at path " ++ pattern

namespace Pattern

/-! ## Reading patterns -/

/-- May a name have the character? -/
def isNameCharacter (c : CodePoint) : Bool :=
  Text.isLowerLetter c || Text.isUpperLetter c || Text.isDecimalDigit c || c == 0x5F

/-- The name that the text begins with, and the text behind it. -/
def name? (t : Text) : Option (Text × Text) :=
  match t.span isNameCharacter with
  | (c :: name, rest) => if Text.isDecimalDigit c then none else some (c :: name, rest)
  | ([], _) => none

/-- The parameter behind an opening brace, by its name and the name of its kind, and the length
    of what is between the braces. -/
def parameter? (t : Text) : Option (Text × Text × Nat) := do
  let (name, rest) ← name? t
  match rest with
  | 0x7D :: _ => return (name, "str", name.length)
  | 0x3A :: rest =>
    let (kind, rest) ← name? rest
    if rest.head? = some 0x7D then return (name, kind, name.length + 1 + kind.length) else none
  | _ => none

/-- The parts of a text, from behind `skip` characters on, `plain` being the text since the last
    parameter. -/
def partsFrom : Text → (skip : Nat) → (plain : Text) → Except PatternError Pattern
  | [], _, plain => .ok [.literal plain]
  | _ :: rest, skip + 1, plain => partsFrom rest skip plain
  | c :: rest, 0, plain =>
    match if c = 0x7B then parameter? rest else none with
    | some (name, kind, length) =>
      match Kind.named.lookup kind with
      | none => .error (.unknownKind kind)
      | some kind =>
        (partsFrom rest (length + 1) []).map ([.literal plain, .parameter name kind] ++ ·)
    | none => partsFrom rest 0 (plain ++ [c])

/-- The names of the parameters. -/
def names (p : Pattern) : List Text :=
  p.filterMap fun
    | .parameter name _ => some name
    | .literal _ => none

/-- The texts with one put in its place by code points, unless it is there. -/
def insertName (t : Text) : List Text → List Text
  | [] => [t]
  | u :: us =>
    if t == u then u :: us
    else if t.lex u then t :: u :: us
    else u :: insertName t us

/-- The names that come again later, in order. -/
def repeated (names : List Text) : List Text :=
  (names.filter fun n => 1 < names.countP (· == n)).foldl (fun out n => insertName n out) []

/-- The pattern without what a colon behind the last parameter cuts off. -/
def withoutPort (p : Pattern) : Pattern :=
  match p.getLast? with
  | some (.literal t) => p.dropLast ++ [.literal (Text.breakAt 0x3A t).1]
  | _ => p

/-- The pattern that a text is. -/
def ofText (t : Text) : Except PatternError Pattern := do
  let p ← partsFrom t 0 []
  let again := repeated (names p)
  if !again.isEmpty then throw (.duplicates again t)
  return if t.head? = some 0x2F then p else withoutPort p

/-! ## Fitting paths -/

/-- What stands for the parameters when the pattern fits the text, each with its kind. -/
def values? : Pattern → Text → Option (List (Kind × Text))
  | [], t => if t.isEmpty || t == [10] then some [] else none
  | .literal l :: p, t => if Text.startsWith t l then values? p (t.drop l.length) else none
  | .parameter _ kind :: p, t =>
    (kind.lengths t).findSome? fun n => (values? p (t.drop n)).map ((kind, t.take n) :: ·)

/-- Does the pattern fit the text? -/
def fits (p : Pattern) (t : Text) : Bool := (values? p t).isSome

/-- Can what stands for the parameters be read? -/
def reads (p : Pattern) (t : Text) : Bool :=
  ((values? p t).getD []).all fun (kind, value) => kind.reads value

end Pattern

end GridGauge.Service
