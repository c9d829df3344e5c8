import GridGauge.Service

/-!
# Messages of HTTP

What goes over a connection, as bytes. A connection carries one request and
ends with its answer, so that the body of an answer is all that comes behind
the empty line after its head.
-/

namespace GridGauge.Http

/-- The end of a line in the head of a message. -/
def lineEnd : Text := [13, 10]

/-- The request for a path of a host. -/
def getRequest (host path : Text) : Bytes :=
  Utf8.encode (Text.join lineEnd
    ["GET " ++ path ++ " HTTP/1.0", "Host: " ++ host, "Accept: */*", "Connection: close", [], []])

/-- The bytes in front of the first empty line, and those behind it once it has come. -/
def splitHead : Bytes → Bytes × Option Bytes
  | 13 :: 10 :: 13 :: 10 :: body => ([], some body)
  | b :: rest =>
    let (head, body) := splitHead rest
    (b :: head, body)
  | [] => ([], none)

/-- The words of the first line of a head. -/
def firstLine (head : Bytes) : List Text :=
  Text.splitAtEach 32 ((head.map UInt8.toNat).takeWhile (· != 13))

/-- The answer in what has come over a connection. -/
def reply? (message : Bytes) : Option Hub.Reply :=
  match splitHead message with
  | (head, some body) =>
    match firstLine head with
    | _ :: status :: _ =>
      if status.length = 3 && status.all Text.isDecimalDigit then
        some (.answer (Text.decimalValue status) body)
      else none
    | _ => none
  | _ => none

/-- The request in what has come over a connection so far. -/
def request? (message : Bytes) : Option Service.Request :=
  match splitHead message with
  | (head, some _) =>
    match firstLine head with
    | method :: target :: _ => some ⟨method, target⟩
    | _ => none
  | _ => none

/-- The lines about an answer behind the first. -/
def headerLines (a : Service.Answer) (length : Nat) : List Text :=
  let line (name : Text) (value : Option Text) : List Text := (value.map (name ++ ": " ++ ·)).toList
  line "Content-Type" a.contentType ++ line "Location" a.location
    ++ line "Content-Length" (Text.ofNat length) ++ line "Connection" (some "close")

/-- An answer as it goes over a connection. -/
def answerBytes (a : Service.Answer) : Bytes :=
  let body := Utf8.encode a.body
  let status : Text := "HTTP/1.0 " ++ Text.ofNat a.status ++ " "
  let head := status :: headerLines a body.length
  Utf8.encode (Text.join lineEnd (head ++ [[], []])) ++ body

end GridGauge.Http
