import GridGauge.Encoding.Surrogate
import GridGauge.Number.Reading
import GridGauge.Url.Host
import GridGauge.Url.Name
import GridGauge.Url.Percent

/-!
# Addresses

An address has a scheme, an authority of user, host and port, a path and a
query. Reading one checks its parts and brings the path into the form in
which a request carries it: without steps to where one is already or back, and
percent-encoded. The checks go from left to right, the path before the query,
so that of several faults the first is told.

An address without scheme or host is relative: it has no server of its own,
only a path from the root.
-/

namespace GridGauge

namespace Url

/-- Why a text is no address. -/
inductive Error
  | tooLong
  /-- A control character stands at a position. -/
  | control (c : CodePoint) (position : Nat)
  | port (t : Text)
  | version4 (host : Text)
  | version6 (host : Text)
  /-- The host is beyond ASCII and no name. -/
  | name (host : Text)
  /-- One half of a surrogate pair, which cannot be percent-encoded. -/
  | surrogate (c : CodePoint)
  /-- The path behind an authority does not start with a slash. -/
  | path
  /-- The path of an address without authority starts with two slashes. -/
  | relativeSlashes
  /-- The path of an address without authority starts with a colon. -/
  | relativeColon
  deriving DecidableEq, Repr

/-- The error in words. -/
def Error.message : Error → Text
  | .tooLong => "URL too long"
  | .control c position =>
    "Invalid non-printable ASCII character in URL, " ++ Text.Quoted.encode [c] ++ " at position "
      ++ Text.ofNat position ++ "."
  | .port t => "Invalid port: " ++ Text.Quoted.encode t
  | .version4 host => "Invalid IPv4 address: " ++ Text.Quoted.encode host
  | .version6 host => "Invalid IPv6 address: " ++ Text.Quoted.encode host
  | .name host => "Invalid IDNA hostname: " ++ Text.Quoted.encode host
  | .surrogate c => SurrogateFault.message ⟨0, 0, c⟩
  | .path => "For absolute URLs, path must be empty or begin with '/'"
  | .relativeSlashes => "Relative URLs cannot have a path starting with '//'"
  | .relativeColon => "Relative URLs cannot have a path starting with ':'"

end Url

/-- An address as a request carries it. -/
structure Url where
  /-- Has it a scheme and a host? -/
  isAbsolute : Bool
  /-- The path, percent-encoded, which starts with a slash. -/
  path : Text
  /-- The query, percent-encoded. -/
  query : Option Text
  deriving DecidableEq, Repr, Inhabited

namespace Url

/-! ## Parts -/

/-- Can the character be in a scheme, behind the first? -/
def isSchemeCharacter (c : CodePoint) : Bool :=
  Text.isLowerLetter c || Text.isUpperLetter c || Text.isDecimalDigit c
    || c == 0x2B || c == 0x2E || c == 0x2D

/-- The scheme, empty if there is none, and the text behind its colon. -/
def scheme (t : Text) : Text × Text :=
  match t.span isSchemeCharacter with
  | (name, 0x3A :: rest) =>
    match name with
    | [] => ([], rest)
    | c :: _ => if Text.isLowerLetter c || Text.isUpperLetter c then (name, rest) else ([], t)
  | _ => ([], t)

/-- Does the character end an authority? -/
def endsAuthority (c : CodePoint) : Bool := c == 0x2F || c == 0x3F || c == 0x23

/-- The authority, empty if there is none, and the text behind it. -/
def authority (t : Text) : Text × Text :=
  match t with
  | 0x2F :: 0x2F :: rest => rest.span (!endsAuthority ·)
  | t => ([], t)

/-- The path, the query if there is one, and the fragment if there is one. -/
def pathQueryFragment (t : Text) : Text × Option Text × Option Text :=
  let (t, fragment) := Text.breakAt 0x23 t
  let (path, query) := Text.breakAt 0x3F t
  (path, query, fragment)

/-- The user, the host and the port of an authority. The user ends at the last at sign, and the
    host at the first colon outside of brackets. -/
def userHostPort (t : Text) : Text × Text × Text :=
  let behind := (t.reverse.takeWhile (· != 0x40)).reverse
  let user := t.take (t.length - behind.length - 1)
  let dropColon (t : Text) : Text := if t.head? == some 0x3A then t.drop 1 else t
  let bracketed := (behind.reverse.dropWhile (· != 0x5D)).reverse
  if behind.head? == some 0x5B && !bracketed.isEmpty then
    (user, bracketed, dropColon (behind.drop bracketed.length))
  else
    let (host, rest) := behind.span (· != 0x3A)
    (user, host, dropColon rest)

/-! ## Checks -/

/-- Refuses a text that cannot be percent-encoded, with the first surrogate in it. -/
def checkEncodable (t : Text) : Except Error Unit :=
  match t.find? Text.isSurrogate with
  | some c => .error (.surrogate c)
  | none => .ok ()

/-- Refuses a host that looks like a number and is none, and one beyond ASCII that is no name. -/
def checkHost (host : Text) : Except Error Unit :=
  if looksVersion4 host then
    if isVersion4 host then .ok () else .error (.version4 host)
  else if isBracketed host then
    if isVersion6 host.tail.dropLast then .ok () else .error (.version6 host)
  else if host.any (0x80 ≤ ·) then
    if (Name.inAscii? host).isSome then .ok () else .error (.name host)
  else .ok ()

/-- The ports that a scheme uses unless another is given. -/
def usualPorts : List (Text × Int) :=
  [("ftp", 21), ("http", 80), ("https", 443), ("ws", 80), ("wss", 443)]

/-- The port, if one is given that the scheme does not use anyway. -/
def port? (scheme : Text) (t : Text) : Except Error (Option Int) :=
  if t.isEmpty then .ok none
  else
    match Reading.integer t with
    | .error _ => .error (.port t)
    | .ok n => .ok (if usualPorts.lookup scheme == some n then none else some n)

/-- The path less its steps to where one is already and back. -/
def withoutDots (path : Text) : Text :=
  let parts := Text.splitAtEach 0x2F path
  if parts.all fun (p : Text) => p != "." && p != ".." then path
  else
    let kept := parts.foldl (fun (out : List Text) (p : Text) =>
      if p == "." then out
      else if p == ".." then (if out.isEmpty || out == [[]] then out else out.dropLast)
      else out ++ [p]) []
    Text.join [0x2F] kept

/-- The greatest length of an address. -/
def greatestLength : Nat := 65536

/-- Is it a control character of ASCII? -/
def isControl (c : CodePoint) : Bool := c < 0x20 || c == 0x7F

/-- The address that a text is. -/
def ofText (t : Text) : Except Error Url := do
  if greatestLength < t.length then throw .tooLong
  match t.findIdx? isControl with
  | some i => throw (.control (t.getD i 0) i)
  | none => pure ()
  let (scheme, rest) := scheme t
  let (authority, rest) := authority rest
  let (path, query, fragment) := pathQueryFragment rest
  let (user, host, port) := userHostPort authority
  checkEncodable user
  checkHost host
  let port ← port? scheme port
  let hasAuthority := !user.isEmpty || !host.isEmpty || port.isSome
  if hasAuthority && !path.isEmpty && path.head? != some 0x2F then throw .path
  if scheme.isEmpty && !hasAuthority then
    if Text.startsWith path "//" then throw .relativeSlashes
    if Text.startsWith path ":" then throw .relativeColon
  let path := if scheme.isEmpty && !hasAuthority then path else withoutDots path
  checkEncodable path
  checkEncodable (query.getD [])
  checkEncodable (fragment.getD [])
  let path := encode isPathSafe path
  let query := query.map (encode isQuerySafe)
  if scheme.isEmpty || host.isEmpty then
    return ⟨false, 0x2F :: path.dropWhile (· == 0x2F), query⟩
  return ⟨true, if path.isEmpty then [0x2F] else path, query⟩

/-- The address on a server at hand: one of its own, or the path from the root of the server. -/
def onServer (u : Url) : Url :=
  if u.isAbsolute then u
  else
    let path := withoutDots u.path
    { u with isAbsolute := true, path := if path.isEmpty then [0x2F] else path }

/-- The path that a server sees. -/
def requestPath (u : Url) : Text := decode u.path

/-- The path with the query behind it. -/
def pathText (u : Url) : Text :=
  match u.query with
  | none => u.path
  | some q => u.path ++ 0x3F :: q

end Url

end GridGauge
