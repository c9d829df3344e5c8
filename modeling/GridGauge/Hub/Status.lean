import GridGauge.Hub.Decoder

/-!
# The hub's status

What the hub reports about itself: whether it takes requests, and the nodes
that have registered with it. A node has slots, each of which can hold one
browser session; a slot is occupied when it holds one.

Each type has a decoder, which reads the hub's JSON, and `toJson`, which
writes it back in full: every member is there, in the order of the fields.
-/

namespace GridGauge.Hub

/-- A time as a JSON value, null if there is none. -/
def timestampJson : Option Timestamp → Json
  | none => .null
  | some d => .string d.toText

/-- The operating system of a node. -/
structure OsInfo where
  arch : Text
  name : Text
  version : Text
  deriving DecidableEq, Repr, Inhabited

/-- The name of a slot: that of its host and its own. -/
structure SlotId where
  hostId : Text
  id : Text
  deriving DecidableEq, Repr, Inhabited

/-- The kind of browser a slot is able to serve. -/
structure Stereotype where
  browserName : Text
  platformName : Text
  deriving DecidableEq, Repr, Inhabited

/-- A browser session. -/
structure Session where
  sessionId : Text
  start : Option Timestamp
  uri : Text
  /-- What the slot offered, kept as it is. -/
  stereotype : Members
  /-- What the browser offers, kept as it is. -/
  capabilities : Option Members
  deriving Repr, Inhabited

/-- The unit of capacity of a node. -/
structure Slot where
  id : SlotId
  lastStarted : Option Timestamp
  stereotype : Stereotype
  session : Option Session
  deriving Repr, Inhabited

/-- A machine that serves browsers. -/
structure Node where
  id : Text
  uri : Text
  version : Text
  availability : Text
  maxSessions : Nat
  osInfo : OsInfo
  heartbeatPeriod : Nat
  slots : List Slot
  deriving Repr, Inhabited

/-- The status of a hub. -/
structure Status where
  ready : Bool
  message : Text
  nodes : List Node
  deriving Repr, Inhabited

/-! ## Decoding -/

def OsInfo.decoder : Decoder OsInfo := fun v => do
  let o ← Decoder.object v
  let arch ← field o "arch" Decoder.text
  let name ← field o "name" Decoder.text
  let version ← field o "version" Decoder.text
  return { arch, name, version }

def SlotId.decoder : Decoder SlotId := fun v => do
  let o ← Decoder.object v
  let hostId ← field o "hostId" Decoder.text
  let id ← field o "id" Decoder.text
  return { hostId, id }

def Stereotype.decoder : Decoder Stereotype := fun v => do
  let o ← Decoder.object v
  let browserName ← field o "browserName" Decoder.text
  let platformName ← field o "platformName" Decoder.text
  return { browserName, platformName }

def Session.decoder : Decoder Session := fun v => do
  let o ← Decoder.object v
  let sessionId ← field o "sessionId" Decoder.text
  let start ← field o "start" Decoder.timestamp
  let uri ← field o "uri" Decoder.text
  let stereotype ← field o "stereotype" Decoder.bag
  let capabilities ← field o "capabilities" Decoder.bag
  return { sessionId, start, uri, stereotype := stereotype.getD [], capabilities }

def Slot.decoder : Decoder Slot := fun v => do
  let o ← Decoder.object v
  let id ← field o "id" SlotId.decoder
  let lastStarted ← field o "lastStarted" Decoder.timestamp
  let stereotype ← field o "stereotype" Stereotype.decoder
  let session ← field o "session" (Decoder.optional Session.decoder)
  return { id, lastStarted, stereotype, session }

def Node.decoder : Decoder Node := fun v => do
  let o ← Decoder.object v
  let id ← field o "id" Decoder.text
  let uri ← field o "uri" Decoder.text
  let version ← field o "version" Decoder.text
  let availability ← field o "availability" Decoder.text
  let maxSessions ← field o "maxSessions" Decoder.count
  let osInfo ← field o "osInfo" OsInfo.decoder
  let heartbeatPeriod ← field o "heartbeatPeriod" Decoder.count
  let slots ← field o "slots" (Decoder.list Slot.decoder)
  return { id, uri, version, availability, maxSessions, osInfo, heartbeatPeriod, slots }

def Status.decoder : Decoder Status := fun v => do
  let o ← Decoder.object v
  let ready ← field o "ready" Decoder.boolean
  let message ← field o "message" Decoder.text
  let nodes ← field o "nodes" (Decoder.list Node.decoder)
  return { ready, message, nodes }

/-! ## Writing -/

def OsInfo.toJson (i : OsInfo) : Json :=
  .object [("arch", .string i.arch), ("name", .string i.name), ("version", .string i.version)]

def SlotId.toJson (i : SlotId) : Json :=
  .object [("hostId", .string i.hostId), ("id", .string i.id)]

def Stereotype.toJson (s : Stereotype) : Json :=
  .object [("browserName", .string s.browserName), ("platformName", .string s.platformName)]

def Session.toJson (s : Session) : Json :=
  .object [("sessionId", .string s.sessionId), ("start", timestampJson s.start),
    ("uri", .string s.uri), ("stereotype", .object s.stereotype),
    ("capabilities", (s.capabilities.map Json.object).getD .null)]

def Slot.toJson (s : Slot) : Json :=
  .object [("id", s.id.toJson), ("lastStarted", timestampJson s.lastStarted),
    ("stereotype", s.stereotype.toJson), ("session", (s.session.map Session.toJson).getD .null)]

def Node.toJson (n : Node) : Json :=
  .object [("id", .string n.id), ("uri", .string n.uri), ("version", .string n.version),
    ("availability", .string n.availability), ("maxSessions", .int n.maxSessions),
    ("osInfo", n.osInfo.toJson), ("heartbeatPeriod", .int n.heartbeatPeriod),
    ("slots", .array (n.slots.map Slot.toJson))]

def Status.toJson (s : Status) : Json :=
  .object [("ready", .bool s.ready), ("message", .string s.message),
    ("nodes", .array (s.nodes.map Node.toJson))]

/-! ## Aggregates -/

/-- Does the slot hold a session? -/
def Slot.occupied (s : Slot) : Bool := s.session.isSome

/-- The number of slots of the node that hold a session. -/
def Node.occupiedSlots (n : Node) : Nat := n.slots.countP Slot.occupied

/-- What the gauges say of the nodes together. -/
structure Aggregate where
  /-- The number of nodes. -/
  nodes : Nat
  /-- The sessions all nodes can hold at most. -/
  maxSessions : Nat
  /-- The sessions all nodes hold. -/
  sessions : Nat
  deriving DecidableEq, Repr

/-- The aggregate of all nodes. -/
def Status.aggregate (s : Status) : Aggregate where
  nodes := s.nodes.length
  maxSessions := (s.nodes.map Node.maxSessions).foldr (· + ·) 0
  sessions := (s.nodes.map Node.occupiedSlots).foldr (· + ·) 0

end GridGauge.Hub
