import GridGauge.Text

/-!
# Hosts

The host of an address is a name, four numbers with points between them, or
an address of version 6 in brackets. What looks like one of the latter two has
to be one.
-/

namespace GridGauge.Url

/-- Are these four runs of digits with points between them? Nothing but a point will do, so that
    `10-0-0-5` and `1234567` are names. -/
def looksVersion4 (t : Text) : Bool :=
  let runs := Text.splitAtEach 0x2E t
  runs.length == 4 && runs.all fun (r : Text) => !r.isEmpty && r.all Text.isDecimalDigit

/-- Does the host stand in brackets? -/
def isBracketed (t : Text) : Bool := t.head? == some 0x5B && t.getLast? == some 0x5D

/-- Is this a number below 256, without needless zeros? -/
def isOctet (t : Text) : Bool :=
  !t.isEmpty && t.length ≤ 3 && t.all Text.isDecimalDigit && (t.length == 1 || t.head? != some 48)
    && Text.decimalValue t < 256

/-- Is this an address of version 4? -/
def isVersion4 (t : Text) : Bool :=
  let octets := Text.splitAtEach 0x2E t
  octets.length == 4 && octets.all isOctet

/-- Is this a group of an address of version 6? -/
def isGroup (t : Text) : Bool := t.length ≤ 4 && t.all fun c => (Text.hexValue? c).isSome

/-- Are these the groups of an address of version 6? They are eight, or fewer with a gap of empty
    groups: one inside, two at either end. -/
def areGroups (groups : List Text) : Bool :=
  let inner := groups.tail.dropLast
  let startsEmpty := groups.head? == some []
  let endsEmpty := groups.getLast? == some []
  let gaps := inner.countP List.isEmpty
  let given := groups.countP (!List.isEmpty ·)
  groups.all isGroup
    && (if gaps == 0 then groups.length == 8 && !startsEmpty && !endsEmpty
        else
          gaps == 1 && given < 8
            && (!startsEmpty || groups[1]? == some [])
            && (!endsEmpty || groups.reverse[1]? == some []))

/-- Is this an address of version 6? Its last two groups may be written as one of version 4, and
    a zone may stand behind a percent sign. -/
def isVersion6 (t : Text) : Bool :=
  let (address, zone) := Text.breakAt 0x25 t
  let groups := Text.splitAtEach 0x3A address
  let groups? : Option (List Text) :=
    match groups.getLast? with
    | some last =>
      if last.contains 0x2E then
        if isVersion4 last then some (groups.dropLast ++ [[48], [48]]) else none
      else some groups
    | none => none
  (match zone with
    | none => true
    | some z => !z.isEmpty && !z.contains 0x25)
    && !t.contains 0x2F && 3 ≤ groups.length
    && (match groups? with
      | some gs => gs.length ≤ 9 && areGroups gs
      | none => false)

end GridGauge.Url
