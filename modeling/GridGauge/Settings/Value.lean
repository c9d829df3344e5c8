import GridGauge.Number.Limit
import GridGauge.Number.Reading
import GridGauge.Settings.Tree
import GridGauge.Timestamp.Reader

/-!
# Settings as texts and numbers

A setting is used as a text, an integer or a number, whatever it is. As a text
each scalar is written as it would be in a listing, a text as it is;
sequences and mappings show what is in them, their texts quoted and their dates
and times in full. There is no text of an integer with more digits than may be
written.

The elements of a set are shown in the order in which they were written. In
which order they are shown otherwise is not settled by what they are.
-/

namespace GridGauge

namespace Scalar

/-- The octets of bytes as code points. -/
def octets (bs : Bytes) : Text := bs.map UInt8.toNat

/-- The scalar as a text, unless it is an integer with too many digits to write. -/
def toText : Scalar → Except NumberError Text
  | .null => .ok "None"
  | .bool true => .ok "True"
  | .bool false => .ok "False"
  | .int n => if withinDigitLimit n then .ok (Text.ofInt n) else .error .tooLong
  | .float x => .ok x.toText
  | .ownNaN _ => .ok Binary64.nan.toText
  | .text t => .ok t
  | .bytes bs => .ok (Text.Quoted.encodeOctets (octets bs))
  | .date d => .ok d.toText
  | .dateTime d => .ok (d.toTextWith " ")

/-- A call with its arguments in writing. -/
def callText (function : Text) (arguments : List Text) : Text :=
  function ++ "(" ++ Text.join ", " arguments ++ ")"

/-- An offset from UTC in full. -/
def zoneText (offset : Int) : Text :=
  if offset = 0 then "datetime.timezone.utc"
  else callText "datetime.timezone" [Timestamp.durationText offset]

/-- A time in full. The seconds are left out when they and their fraction are zero, and so is the
    fraction. -/
def dateTimeText (d : Timestamp) : Text :=
  let seconds :=
    if d.microsecond ≠ 0 then [d.second, d.microsecond]
    else if d.second ≠ 0 then [d.second] else []
  let parts := ([d.year, d.month, d.day, d.hour, d.minute] ++ seconds).map Text.ofNat
  let zone := d.offset.map fun offset => "tzinfo=" ++ zoneText offset
  callText "datetime.datetime" (parts ++ zone.toList)

/-- The scalar inside a sequence or mapping: a text is quoted, and a date or time is in full. -/
def shown : Scalar → Except NumberError Text
  | .text t => .ok (Text.Quoted.encode t)
  | .date d => .ok (callText "datetime.date" ([d.year, d.month, d.day].map Text.ofNat))
  | .dateTime d => .ok (dateTimeText d)
  | s => s.toText

/-- The name of the scalar's type in messages. -/
def typeName : Scalar → Text
  | .null => "NoneType"
  | .bool _ => "bool"
  | .int _ => "int"
  | .float _ | .ownNaN _ => "float"
  | .text _ => "str"
  | .bytes _ => "bytes"
  | .date _ => "datetime.date"
  | .dateTime _ => "datetime.datetime"

/-- Does the scalar count as given? Zero, what is empty, false and null do not. -/
def isGiven : Scalar → Bool
  | .null => false
  | .bool b => b
  | .int n => n != 0
  | .float x => !x.isZero
  | .text t => !t.isEmpty
  | .bytes bs => !bs.isEmpty
  | .date _ | .dateTime _ | .ownNaN _ => true

end Scalar

namespace Setting

/-- A collection as a text, with its items or entries. -/
def between (isMapping : Bool) (content : Text) : Text :=
  if isMapping then "\x7b" ++ content ++ "\x7d" else "[" ++ content ++ "]"

/-- The numbers of the collections around what is inside one of this mark. -/
def around (mark : Option Mark) (outer : List Nat) : List Nat :=
  (mark.map Mark.number).toList ++ outer

/-- Is a collection of this mark inside of itself, with these around it? -/
def isInside (mark : Option Mark) (outer : List Nat) : Bool :=
  mark.any fun m => outer.contains m.number

mutual

/-- The setting inside collections of the given numbers. One that is inside of itself shows no more
    than that there is something. -/
def shown (outer : List Nat) : Setting → Except NumberError Text
  | .scalar s => s.shown
  | .again _ isMapping => .ok (between isMapping "...")
  | .sequence mark items =>
    if isInside mark outer then .ok (between false "...")
    else (shownItems (around mark outer) items).map fun ts => between false (Text.join ", " ts)
  | .mapping mark es =>
    if isInside mark outer then .ok (between true "...")
    else (shownEntries (around mark outer) es).map fun ts => between true (Text.join ", " ts)
  | .pair k v => do return "(" ++ (← shown outer k) ++ ", " ++ (← shown outer v) ++ ")"
  | .set [] => .ok "set()"
  | .set elements => (elements.mapM Scalar.shown).map fun ts => between true (Text.join ", " ts)

/-- Each of the items. -/
def shownItems (outer : List Nat) : List Setting → Except NumberError (List Text)
  | [] => .ok []
  | v :: vs => do return (← shown outer v) :: (← shownItems outer vs)

/-- Each of the entries. -/
def shownEntries (outer : List Nat) : List (Scalar × Setting) → Except NumberError (List Text)
  | [] => .ok []
  | (k, v) :: es => do
    return ((← k.shown) ++ ": " ++ (← shown outer v)) :: (← shownEntries outer es)

end

/-- The setting as a text, unless an integer in it has too many digits to write. -/
def toText : Setting → Except NumberError Text
  | .scalar s => s.toText
  | s => s.shown []

/-- The name of the setting's type in messages. -/
def typeName : Setting → Text
  | .scalar s => s.typeName
  | .sequence _ _ | .again _ false => "list"
  | .mapping _ _ | .again _ true => "dict"
  | .pair _ _ => "tuple"
  | .set _ => "set"

/-- Does the setting count as given? -/
def isGiven : Setting → Bool
  | .scalar s => s.isGiven
  | .sequence _ items => !items.isEmpty
  | .mapping _ es => !es.isEmpty
  | .again _ _ | .pair _ _ => true
  | .set elements => !elements.isEmpty

/-- The setting as an integer: a number less its fraction, or the integer that a text or bytes
    hold. -/
def toInteger : Setting → Except NumberError Int
  | .scalar (.bool b) => .ok (if b then 1 else 0)
  | .scalar (.int n) => .ok n
  | .scalar (.float x) =>
    if x.isNaN then .error .nan else if x.isInfinite then .error .infinite else .ok x.truncate
  | .scalar (.ownNaN _) => .error .nan
  | .scalar (.text t) => Reading.integer t
  | .scalar (.bytes bs) => Reading.integerOfOctets (Scalar.octets bs)
  | s => .error (.typeNotInteger s.typeName)

/-- The setting as a number. -/
def toNumber : Setting → Except NumberError Binary64
  | .scalar (.bool b) => .ok (.ofRatio false (if b then 1 else 0) 1)
  | .scalar (.int n) =>
    match Binary64.ofInt? n with
    | some x => .ok x
    | none => .error .tooLarge
  | .scalar (.float x) => .ok x
  | .scalar (.ownNaN _) => .ok .nan
  | .scalar (.text t) => Reading.number t
  | .scalar (.bytes bs) => Reading.numberOfOctets (Scalar.octets bs)
  | s => .error (.typeNotNumber s.typeName)

end Setting

end GridGauge
