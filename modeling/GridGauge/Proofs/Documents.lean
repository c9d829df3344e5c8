import GridGauge.Proofs.Decoding

/-!
# The schemas of the documents

What the hub's status and queue have to look like, part by part, and that this
is what their decoders follow. A body holds a document exactly when it is JSON
for an object whose member `value` conforms to the document's schema
(`decodes_iff_conforms`).
-/

namespace GridGauge.Hub

/-! ## The status -/

def OsInfo.schema : Schema := .object [("arch", .text), ("name", .text), ("version", .text)]

def SlotId.schema : Schema := .object [("hostId", .text), ("id", .text)]

def Stereotype.schema : Schema := .object [("browserName", .text), ("platformName", .text)]

def Session.schema : Schema :=
  .object [("sessionId", .text), ("start", .timestamp), ("uri", .text), ("stereotype", .bag),
    ("capabilities", .bag)]

def Slot.schema : Schema :=
  .object [("id", SlotId.schema), ("lastStarted", .timestamp), ("stereotype", Stereotype.schema),
    ("session", Session.schema)]

def Node.schema : Schema :=
  .object [("id", .text), ("uri", .text), ("version", .text), ("availability", .text),
    ("maxSessions", .count), ("osInfo", OsInfo.schema), ("heartbeatPeriod", .count),
    ("slots", .list Slot.schema)]

def Status.schema : Schema :=
  .object [("ready", .boolean), ("message", .text), ("nodes", .list Node.schema)]

open Decoder

theorem OsInfo.decoder_follows : Follows OsInfo.decoder OsInfo.schema :=
  object_follows fun _ =>
    settles_field text_follows fun _ =>
    settles_field text_follows fun _ =>
    settles_field text_follows fun _ => settles_pure _

theorem SlotId.decoder_follows : Follows SlotId.decoder SlotId.schema :=
  object_follows fun _ =>
    settles_field text_follows fun _ =>
    settles_field text_follows fun _ => settles_pure _

theorem Stereotype.decoder_follows : Follows Stereotype.decoder Stereotype.schema :=
  object_follows fun _ =>
    settles_field text_follows fun _ =>
    settles_field text_follows fun _ => settles_pure _

theorem Session.decoder_follows : Follows Session.decoder Session.schema :=
  object_follows fun _ =>
    settles_field text_follows fun _ =>
    settles_field timestamp_follows fun _ =>
    settles_field text_follows fun _ =>
    settles_field bag_follows fun _ =>
    settles_field bag_follows fun _ => settles_pure _

theorem Slot.decoder_follows : Follows Slot.decoder Slot.schema :=
  object_follows fun _ =>
    settles_field SlotId.decoder_follows fun _ =>
    settles_field timestamp_follows fun _ =>
    settles_field Stereotype.decoder_follows fun _ =>
    settles_field Session.decoder_follows.optional fun _ => settles_pure _

theorem Node.decoder_follows : Follows Node.decoder Node.schema :=
  object_follows fun _ =>
    settles_field text_follows fun _ =>
    settles_field text_follows fun _ =>
    settles_field text_follows fun _ =>
    settles_field text_follows fun _ =>
    settles_field count_follows fun _ =>
    settles_field OsInfo.decoder_follows fun _ =>
    settles_field count_follows fun _ =>
    settles_field Slot.decoder_follows.list fun _ => settles_pure _

theorem Status.decoder_follows : Follows Status.decoder Status.schema :=
  object_follows fun _ =>
    settles_field boolean_follows fun _ =>
    settles_field text_follows fun _ =>
    settles_field Node.decoder_follows.list fun _ => settles_pure _

/-! ## The queue -/

def Wish.schema : Schema := .object [("browserName", .text)]

def Request.schema : Schema := .object [("requestId", .text), ("capabilities", .list Wish.schema)]

def Queue.schema : Schema := .list Request.schema

theorem Wish.decoder_follows : Follows Wish.decoder Wish.schema :=
  object_follows fun _ => settles_field text_follows fun _ => settles_pure _

theorem Request.decoder_follows : Follows Request.decoder Request.schema :=
  object_follows fun _ =>
    settles_field text_follows fun _ =>
    settles_field Wish.decoder_follows.list fun _ => settles_pure _

theorem Queue.decoder_follows : Follows Queue.decoder Queue.schema :=
  Request.decoder_follows.list.map Queue.mk

/-! ## Bodies -/

/-- A value is an object whose member `value`, if there is one, conforms to the schema. -/
def Schema.Envelops (s : Schema) (v : Json) : Prop :=
  ∃ o : Members, v = .object o ∧ ∀ w, o.find? documentRoot = some w → s.Conforms w

/-- The name of a value counts for errors only. -/
theorem Decoder.run_eq_ok_iff {α : Type} {d : Decoder α} {root : Text} {v : Json} {a : α} :
    d.run root v = .ok a ↔ d v = .ok a := by
  rw [Decoder.run]
  cases d v with
  | ok b =>
    constructor <;> intro h <;> cases h <;> rfl
  | error m =>
    constructor <;> intro h <;> cases h

theorem Decoder.Follows.run_iff {α : Type} {d : Decoder α} {s : Schema} (h : d.Follows s)
    (root : Text) (v : Json) : (∃ a, d.run root v = .ok a) ↔ s.Conforms v := by
  simp only [Decoder.run_eq_ok_iff]
  exact h.decodes_iff v

/-- Of a body that is JSON, it is the schema that tells whether it holds a document. -/
theorem Decoder.Follows.decode_iff {α : Type} {d : Decoder α} {s : Schema} (h : d.Follows s)
    {b : Body} {v : Json} (hb : b.json = .ok v) : (∃ a, b.decode d = .ok a) ↔ s.Envelops v := by
  cases v with
  | object o =>
    have hd : b.decode d = d.run documentRoot ((Bindings.find? o documentRoot).getD .null) := by
      rw [Body.decode, hb]
      rfl
    rw [hd, h.run_iff]
    cases hv : Bindings.find? o documentRoot with
    | none => exact ⟨fun _ => ⟨o, rfl, by simp [hv]⟩, fun _ => .null⟩
    | some w =>
      refine ⟨fun hw => ⟨o, rfl, fun w' hw' => ?_⟩, ?_⟩
      · rw [hv, Option.some.injEq] at hw'
        exact hw' ▸ hw
      · rintro ⟨o', ho, hw⟩
        cases ho
        exact hw w hv
  | _ =>
    refine ⟨?_, nofun⟩
    rintro ⟨a, ha⟩
    rw [Body.decode, hb] at ha
    cases ha

/-- A body that is no JSON holds no document, and the error is that of the JSON. -/
theorem Body.decode_of_malformed {α : Type} {d : Decoder α} {b : Body} {e : DecodeError}
    (hb : b.json = .error e) : b.decode d = .error e := by
  rw [Body.decode, hb]
  rfl

/-- A result is either had or refused. -/
theorem exists_error_iff {α ε : Type} {x : Except ε α} : (∃ e, x = .error e) ↔ ¬∃ a, x = .ok a := by
  cases x <;> simp

/-- A body that is JSON holds a document exactly when it is an object whose member `value`
    conforms to the document's schema, and is refused exactly when it is not; a body that is no
    JSON is refused in any case. -/
theorem decodes_iff_conforms (b : Body) :
    (∀ v, b.json = .ok v →
      ((∃ d, Status.decode b = .ok d) ↔ Status.schema.Envelops v) ∧
      ((∃ e, Status.decode b = .error e) ↔ ¬Status.schema.Envelops v) ∧
      ((∃ d, Queue.decode b = .ok d) ↔ Queue.schema.Envelops v) ∧
      ((∃ e, Queue.decode b = .error e) ↔ ¬Queue.schema.Envelops v)) ∧
    ∀ e, b.json = .error e → Status.decode b = .error e ∧ Queue.decode b = .error e := by
  constructor
  · intro v hv
    have hstatus := Status.decoder_follows.decode_iff hv
    have hqueue := Queue.decoder_follows.decode_iff hv
    exact ⟨hstatus, exists_error_iff.trans (not_congr hstatus), hqueue,
      exists_error_iff.trans (not_congr hqueue)⟩
  · intro e he
    exact ⟨Body.decode_of_malformed he, Body.decode_of_malformed he⟩

/-- A truth value is no count, three levels inside a body. -/
theorem boolean_is_no_count :
    let b := Body.text
      "\x7b\"value\": \x7b\"nodes\": [null, \x7b\"maxSessions\": true\x7d]\x7d\x7d"
    let node := Json.object [("maxSessions", .bool true)]
    b.json = .ok (.object [("value", .object [("nodes", .array [.null, node])])]) ∧
      ∃ e, Status.decode b = .error e := by
  intro b node
  refine ⟨rfl, ((decodes_iff_conforms b).1 _ rfl).2.1.2 ?_⟩
  rintro ⟨o, ho, hvalue⟩
  cases ho
  cases hvalue (.object [("nodes", .array [.null, node])]) rfl with
  | object hfields =>
    cases hfields ("nodes", .list Node.schema) (by simp) (.array [.null, node]) rfl with
    | list hnodes =>
      have hnode : Node.schema.Conforms (.object [("maxSessions", .bool true)]) :=
        hnodes node (by simp)
      cases hnode with
      | object hmembers => cases hmembers ("maxSessions", .count) (by simp) (.bool true) rfl

end GridGauge.Hub
