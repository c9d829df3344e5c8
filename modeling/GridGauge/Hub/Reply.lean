import GridGauge.Encoding.Fault

/-!
# What comes of a request to the hub

A request is answered with a status and a body, or it is broken off: by the
network, or by anything else that can go wrong on the way.
-/

namespace GridGauge.Hub

/-- What the network can do to a request. -/
inductive NetworkFault
  | connectError
  | connectTimeout
  | readError
  | readTimeout
  | writeError
  | poolTimeout
  | remoteProtocolError
  | unsupportedProtocol
  | tooManyRedirects
  | decodingError
  /-- Any other, by its name. -/
  | other (name : Text) (isNamed : name ≠ [])
  deriving DecidableEq, Repr, Inhabited

/-- The name of a fault. -/
def NetworkFault.name : NetworkFault → Text
  | .connectError => "ConnectError"
  | .connectTimeout => "ConnectTimeout"
  | .readError => "ReadError"
  | .readTimeout => "ReadTimeout"
  | .writeError => "WriteError"
  | .poolTimeout => "PoolTimeout"
  | .remoteProtocolError => "RemoteProtocolError"
  | .unsupportedProtocol => "UnsupportedProtocol"
  | .tooManyRedirects => "TooManyRedirects"
  | .decodingError => "DecodingError"
  | .other name _ => name

/-- The faults whose names are known. -/
def NetworkFault.all : List NetworkFault :=
  [.connectError, .connectTimeout, .readError, .readTimeout, .writeError, .poolTimeout,
    .remoteProtocolError, .unsupportedProtocol, .tooManyRedirects, .decodingError]

/-- What else can break off a request. -/
inductive Mishap
  /-- The address turns out to be none. -/
  | invalidUrl
  | runtime
  | value
  | system
  deriving DecidableEq, Repr, Inhabited

/-- What comes of a request. -/
inductive Reply
  | answer (status : Nat) (body : Bytes)
  | network (fault : NetworkFault) (message : Text)
  | mishap (kind : Mishap) (message : Text)
  deriving DecidableEq, Repr, Inhabited

/-- A hub, as far as can be told from outside: what it replies on each path. -/
abbrev Server := Text → Reply

/-- The replies of a hub that serves some paths only. -/
def Server.ofRoutes (routes : List (Text × Reply)) : Server := fun path =>
  (routes.lookup path).getD (.answer 404 [])

end GridGauge.Hub
