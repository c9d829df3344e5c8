import GridGauge.Hub.Decoder

/-!
# The queue of new sessions

The requests for a session that the hub has not yet found a slot for, in
order. Of each the document tells its name and the browsers that would do.
-/

namespace GridGauge.Hub

/-- A kind of browser that would do for a request. -/
structure Wish where
  browserName : Text
  deriving DecidableEq, Repr, Inhabited

/-- A request for a session. -/
structure Request where
  requestId : Text
  capabilities : List Wish
  deriving DecidableEq, Repr, Inhabited

/-- The requests that wait. -/
structure Queue where
  entries : List Request
  deriving DecidableEq, Repr, Inhabited

def Wish.decoder : Decoder Wish := fun v => do
  let o ← Decoder.object v
  let browserName ← field o "browserName" Decoder.text
  return { browserName }

def Request.decoder : Decoder Request := fun v => do
  let o ← Decoder.object v
  let requestId ← field o "requestId" Decoder.text
  let capabilities ← field o "capabilities" (Decoder.list Wish.decoder)
  return { requestId, capabilities }

def Queue.decoder : Decoder Queue := fun v =>
  (Decoder.list Request.decoder v).map Queue.mk

def Wish.toJson (w : Wish) : Json := .object [("browserName", .string w.browserName)]

def Request.toJson (r : Request) : Json :=
  .object [("requestId", .string r.requestId),
    ("capabilities", .array (r.capabilities.map Wish.toJson))]

def Queue.toJson (q : Queue) : Json :=
  .object [("entries", .array (q.entries.map Request.toJson))]

/-- The number of requests that wait. -/
def Queue.size (q : Queue) : Nat := q.entries.length

end GridGauge.Hub
