import GridGauge.Hub.Queue
import GridGauge.Hub.Status
import GridGauge.Json.Reader

/-!
# The hub's replies as documents

A reply is a JSON object that holds the document as its member `value`. It
comes as bytes, or as a text that has been decoded already.
-/

namespace GridGauge.Hub

/-- The body of a reply. -/
inductive Body
  | bytes (bytes : Bytes)
  | text (t : Text)

/-- Why a body holds no document. -/
inductive DecodeError
  /-- It is no JSON. -/
  | malformed (e : Json.Error)
  /-- It is no JSON object. -/
  | notObject (got : Json.Kind)
  /-- The value that starts at `root` does not fit the schema. -/
  | mismatch (root : Text) (m : Mismatch)
  deriving DecidableEq, Repr

namespace DecodeError

/-- Where the value is that is at fault, empty for the whole body. -/
def path : DecodeError → Text
  | .malformed _ | .notObject _ => []
  | .mismatch root m => m.path.text root

/-- What is wrong with it, in words. -/
def reason : DecodeError → Text
  | .malformed e => "malformed JSON: " ++ e.message
  | .notObject got => "expected object envelope, got " ++ got.name
  | .mismatch _ m => m.reason.message

/-- The error in words: the path, if there is one, and the reason. -/
def message (e : DecodeError) : Text :=
  if e.path.isEmpty then e.reason else e.path ++ ": " ++ e.reason

end DecodeError

/-- The JSON value of a body. -/
def Body.json : Body → Except DecodeError Json
  | .bytes b => (Json.ofBytes b).mapError .malformed
  | .text t => (Json.ofText t).mapError .malformed

/-- The name of the document's value in messages. -/
def documentRoot : Text := "value"

/-- The value that a decoder makes of `v`, which messages call `root`. -/
def Decoder.run {α : Type} (d : Decoder α) (root : Text) (v : Json) : Except DecodeError α :=
  (d v).mapError (.mismatch root)

/-- The document in the member `value` of a body. -/
def Body.decode {α : Type} (d : Decoder α) (b : Body) : Except DecodeError α := do
  match ← b.json with
  | .object o => d.run documentRoot ((Bindings.find? o documentRoot).getD .null)
  | v => throw (.notObject v.kind)

/-- The status in a body. -/
def Status.decode (b : Body) : Except DecodeError Status := b.decode Status.decoder

/-- The queue in a body. -/
def Queue.decode (b : Body) : Except DecodeError Queue := b.decode Queue.decoder

end GridGauge.Hub
