import GridGauge.Hub.Reply
import GridGauge.Number.Binary64
import GridGauge.Url
import GridGauge.Url.Join

/-!
# Fetching from the hub

A fetch is one request for a path under the base address. Only an answer with
a status from 200 to 299 gives a body. Any other status, and whatever the
network does, is a transport failure, which has a reason that is never empty;
all else passes through as it is.

The request is made whenever the address can be read at all, and never
otherwise. An address without a server of its own is found out only when an
answer has come.
-/

namespace GridGauge.Hub

/-- How the hub is reached. -/
structure Fetcher where
  /-- The base address. -/
  base : Text
  /-- How long a request may take, in seconds. -/
  timeout : Binary64
  deriving DecidableEq, Repr, Inhabited

/-- A request that has been made. -/
structure Call where
  path : Text
  timeout : Binary64
  deriving DecidableEq, Repr, Inhabited

/-- Why a fetch gives no body. -/
inductive FetchError
  /-- The hub was not reached, or it answered with a status that is no success. -/
  | transport (url reason : Text) (status : Option Nat)
  /-- The address cannot be read. -/
  | badUrl (e : Url.Error)
  /-- The address, of this path, has no server. -/
  | noServer (path : Text)
  /-- Something else broke off the request. -/
  | mishap (kind : Mishap) (message : Text)
  deriving DecidableEq, Repr

/-- The error in words. -/
def FetchError.message : FetchError → Text
  | .transport url reason _ => "GET " ++ url ++ " failed: " ++ reason
  | .badUrl e => e.message
  | .noServer path => "unknown url type: " ++ Text.Quoted.encode path
  | .mishap _ message => message

namespace Fetcher

variable (f : Fetcher)

/-- The address of a path. -/
def urlFor (path : Text) : Text := Url.join f.base path

/-- The outcome of a request to `url`, read as `u`, that was replied to. -/
def outcome (url : Text) (u : Url) : Reply → Except FetchError Bytes
  | .answer status body =>
    if !u.isAbsolute then .error (.noServer u.pathText)
    else if 200 ≤ status ∧ status ≤ 299 then .ok body
    else .error (.transport url ("HTTP " ++ Text.ofNat status) (some status))
  | .network fault message =>
    .error (.transport url (if message.isEmpty then fault.name else message) none)
  | .mishap kind message => .error (.mishap kind message)

/-- The body under a path, with the requests made for it: one, or none if there is no address. -/
def fetch (server : Server) (path : Text) : Except FetchError Bytes × List Call :=
  let url := f.urlFor path
  match Url.ofText url with
  | .error e => (.error (.badUrl e), [])
  | .ok u => (outcome url u (server u.requestPath), [⟨u.requestPath, f.timeout⟩])

end Fetcher

end GridGauge.Hub
