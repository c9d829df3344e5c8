import GridGauge.Proofs.Decoding
import GridGauge.Proofs.Place
import GridGauge.Proofs.Timestamps

/-!
# Documents are read as they are written

A decoder restores what it decodes when it makes the same of how that is
written (`Decoder.Restores`). This is built up as the decoders are: from the
scalars, of which only the timestamps have to be looked at twice, over lists
and values that may be null, to the parts of the documents, field by field. So
nothing of a document is lost in writing it, and the null that a member may
have been is told from the empty value it may have been (`written_is_restored`).
-/

namespace GridGauge.Hub

variable {α β : Type}

/-- What the decoder makes of a value, it makes again of how that is written. -/
def Decoder.Restores (d : Decoder α) (write : α → Json) : Prop :=
  ∀ v a, d v = .ok a → d (write a) = .ok a

namespace Decoder

/-! ## Scalars -/

theorem text_restores : text.Restores .string := fun _ _ _ => rfl

theorem boolean_restores : boolean.Restores .bool := fun _ _ _ => rfl

theorem count_restores : count.Restores fun n => .int n := fun _ _ _ => rfl

theorem timestamp_restores : timestamp.Restores timestampJson := fun v a h => by
  cases a with
  | none => rfl
  | some d =>
    have hd : ∃ t, Timestamp.ofText t = .ok d := by
      cases v with
      | null => cases h
      | string t =>
        cases ht : Timestamp.ofText t with
        | ok e =>
          simp only [timestamp, ht, Except.ok.injEq, Option.some.injEq] at h
          exact ⟨t, h ▸ ht⟩
        | error e =>
          simp only [timestamp, ht] at h
          cases h
      | _ => cases h
    -- The text is another one than was read, but that it was read at all makes it readable again.
    rw [timestampJson, timestamp, Timestamp.ofText_toText (Timestamp.isReadable_iff.2 hd)]

/-- A bag in writing, null if there is none. -/
theorem bag_restores : bag.Restores fun o => (o.map Json.object).getD .null := fun _ o _ => by
  cases o <;> rfl

/-! ## Lists and null -/

variable {d : Decoder α} {write : α → Json}

/-- Null is told from what is written otherwise. -/
theorem Restores.optional (h : d.Restores write) (hne : ∀ a, write a ≠ .null) :
    d.optional.Restores fun a => (a.map write).getD .null := fun v a ha => by
  cases a with
  | none => rfl
  | some a =>
    have hv : v ≠ .null := by
      rintro rfl
      cases ha
    -- So the decoder itself has been at work, and so it will be on what is written.
    rw [optional_of_ne_null hv] at ha
    cases hd : d v with
    | error m =>
      rw [hd] at ha
      cases ha
    | ok a' =>
      rw [hd] at ha
      cases ha
      show d.optional (write a) = .ok (some a)
      rw [optional_of_ne_null (hne a), h v a hd]
      rfl

/-- The position of an item counts for errors only. -/
theorem items_restores (h : d.Restores write) {vs : List Json} :
    ∀ {i : Nat} {as : List α}, items d i vs = .ok as → ∀ j, items d j (as.map write) = .ok as := by
  induction vs with
  | nil =>
    intro i as has j
    cases has
    rfl
  | cons v vs ih =>
    intro i as has j
    cases hd : d v with
    | error m =>
      rw [items_cons_of_error hd] at has
      cases has
    | ok a =>
      rw [items_cons_of_ok hd] at has
      cases hrest : items d (i + 1) vs with
      | error m =>
        rw [hrest] at has
        cases has
      | ok rest =>
        rw [hrest] at has
        cases has
        rw [List.map_cons, items_cons_of_ok (h v a hd), ih hrest (j + 1)]
        rfl

theorem Restores.list (h : d.Restores write) :
    d.list.Restores fun as => .array (as.map write) := fun v as has => by
  cases v with
  | null =>
    cases has
    rfl
  | array vs => exact items_restores h has 0
  | _ => cases has

/-! ## Objects -/

/-- What is decoded from the members of an object was decoded from some. -/
theorem of_object_bind {k : Members → Except Mismatch β} {v : Json} {b : β}
    (h : object v >>= k = .ok b) : ∃ o, k o = .ok b := by
  cases v with
  | null => exact ⟨[], h⟩
  | object o => exact ⟨o, h⟩
  | _ => cases h

/-- If a field is decoded and then the others, its value can be restored. -/
theorem of_field_bind {o : Members} {name : Text} {d : Decoder α} {write : α → Json}
    (hd : d.Restores write) {k : α → Except Mismatch β} {b : β}
    (h : field o name d >>= k = .ok b) : ∃ a, d (write a) = .ok a ∧ k a = .ok b := by
  obtain ⟨a, ha, hk⟩ := exists_of_field_bind h
  exact ⟨a, hd _ a ha, hk⟩

theorem object_bind (o : Members) (k : Members → Except Mismatch β) :
    object (.object o) >>= k = k o := rfl

/-- A field of known value is decoded, and then the others. -/
theorem field_bind {o : Members} {name : Text} {w : Json} (hw : o.find? name = some w)
    {d : Decoder α} {a : α} (ha : d w = .ok a) {k : α → Except Mismatch β} {b : β}
    (hk : k a = .ok b) : field o name d >>= k = .ok b := by
  rw [field_bind_of_ok (a := a), hk]
  rw [hw]
  exact ha

end Decoder

open Decoder

/-! ## The status -/

theorem OsInfo.decoder_restores : Restores OsInfo.decoder OsInfo.toJson := fun v i h => by
  obtain ⟨o, h⟩ := of_object_bind h
  obtain ⟨arch, harch, h⟩ := of_field_bind text_restores h
  obtain ⟨name, hname, h⟩ := of_field_bind text_restores h
  obtain ⟨version, hversion, h⟩ := of_field_bind text_restores h
  cases h
  rw [OsInfo.decoder, OsInfo.toJson, object_bind]
  exact field_bind rfl harch <| field_bind rfl hname <| field_bind rfl hversion rfl

theorem SlotId.decoder_restores : Restores SlotId.decoder SlotId.toJson := fun v i h => by
  obtain ⟨o, h⟩ := of_object_bind h
  obtain ⟨hostId, hhost, h⟩ := of_field_bind text_restores h
  obtain ⟨id, hid, h⟩ := of_field_bind text_restores h
  cases h
  rw [SlotId.decoder, SlotId.toJson, object_bind]
  exact field_bind rfl hhost <| field_bind rfl hid rfl

theorem Stereotype.decoder_restores : Restores Stereotype.decoder Stereotype.toJson :=
  fun v s h => by
  obtain ⟨o, h⟩ := of_object_bind h
  obtain ⟨browserName, hbrowser, h⟩ := of_field_bind text_restores h
  obtain ⟨platformName, hplatform, h⟩ := of_field_bind text_restores h
  cases h
  rw [Stereotype.decoder, Stereotype.toJson, object_bind]
  exact field_bind rfl hbrowser <| field_bind rfl hplatform rfl

/-- A stereotype is written as an object even if it was null, which is read as the empty one. -/
theorem Session.decoder_restores : Restores Session.decoder Session.toJson := fun v s h => by
  obtain ⟨o, h⟩ := of_object_bind h
  obtain ⟨sessionId, hid, h⟩ := of_field_bind text_restores h
  obtain ⟨start, hstart, h⟩ := of_field_bind timestamp_restores h
  obtain ⟨uri, huri, h⟩ := of_field_bind text_restores h
  obtain ⟨stereotype, -, h⟩ := of_field_bind bag_restores h
  obtain ⟨capabilities, hcapabilities, h⟩ := of_field_bind bag_restores h
  cases h
  have hstereotype : bag (.object (stereotype.getD [])) = .ok (some (stereotype.getD [])) := rfl
  rw [Session.decoder, Session.toJson, object_bind]
  exact field_bind rfl hid <| field_bind rfl hstart <| field_bind rfl huri <|
    field_bind rfl hstereotype <| field_bind rfl hcapabilities rfl

theorem Slot.decoder_restores : Restores Slot.decoder Slot.toJson := fun v s h => by
  obtain ⟨o, h⟩ := of_object_bind h
  obtain ⟨id, hid, h⟩ := of_field_bind SlotId.decoder_restores h
  obtain ⟨lastStarted, hstarted, h⟩ := of_field_bind timestamp_restores h
  obtain ⟨stereotype, hstereotype, h⟩ := of_field_bind Stereotype.decoder_restores h
  obtain ⟨session, hsession, h⟩ :=
    of_field_bind (Session.decoder_restores.optional fun _ => nofun) h
  cases h
  rw [Slot.decoder, Slot.toJson, object_bind]
  exact field_bind rfl hid <| field_bind rfl hstarted <| field_bind rfl hstereotype <|
    field_bind rfl hsession rfl

theorem Node.decoder_restores : Restores Node.decoder Node.toJson := fun v n h => by
  obtain ⟨o, h⟩ := of_object_bind h
  obtain ⟨id, hid, h⟩ := of_field_bind text_restores h
  obtain ⟨uri, huri, h⟩ := of_field_bind text_restores h
  obtain ⟨version, hversion, h⟩ := of_field_bind text_restores h
  obtain ⟨availability, havailability, h⟩ := of_field_bind text_restores h
  obtain ⟨maxSessions, hmax, h⟩ := of_field_bind count_restores h
  obtain ⟨osInfo, hos, h⟩ := of_field_bind OsInfo.decoder_restores h
  obtain ⟨heartbeatPeriod, hheartbeat, h⟩ := of_field_bind count_restores h
  obtain ⟨slots, hslots, h⟩ := of_field_bind Slot.decoder_restores.list h
  cases h
  rw [Node.decoder, Node.toJson, object_bind]
  exact field_bind rfl hid <| field_bind rfl huri <| field_bind rfl hversion <|
    field_bind rfl havailability <| field_bind rfl hmax <| field_bind rfl hos <|
    field_bind rfl hheartbeat <| field_bind rfl hslots rfl

theorem Status.decoder_restores : Restores Status.decoder Status.toJson := fun v s h => by
  obtain ⟨o, h⟩ := of_object_bind h
  obtain ⟨ready, hready, h⟩ := of_field_bind boolean_restores h
  obtain ⟨message, hmessage, h⟩ := of_field_bind text_restores h
  obtain ⟨nodes, hnodes, h⟩ := of_field_bind Node.decoder_restores.list h
  cases h
  rw [Status.decoder, Status.toJson, object_bind]
  exact field_bind rfl hready <| field_bind rfl hmessage <| field_bind rfl hnodes rfl

/-! ## The queue -/

theorem Wish.decoder_restores : Restores Wish.decoder Wish.toJson := fun v w h => by
  obtain ⟨o, h⟩ := of_object_bind h
  obtain ⟨browserName, hbrowser, h⟩ := of_field_bind text_restores h
  cases h
  rw [Wish.decoder, Wish.toJson, object_bind]
  exact field_bind rfl hbrowser rfl

theorem Request.decoder_restores : Restores Request.decoder Request.toJson := fun v r h => by
  obtain ⟨o, h⟩ := of_object_bind h
  obtain ⟨requestId, hid, h⟩ := of_field_bind text_restores h
  obtain ⟨capabilities, hcapabilities, h⟩ := of_field_bind Wish.decoder_restores.list h
  cases h
  rw [Request.decoder, Request.toJson, object_bind]
  exact field_bind rfl hid <| field_bind rfl hcapabilities rfl

/-- A queue is decoded from the array of its requests. -/
theorem Queue.decoder_restores :
    Restores Queue.decoder fun q => .array (q.entries.map Request.toJson) := fun v q h => by
  rw [Queue.decoder] at h ⊢
  cases hlist : Decoder.list Request.decoder v with
  | error m =>
    rw [hlist] at h
    cases h
  | ok entries =>
    rw [hlist] at h
    cases h
    rw [Request.decoder_restores.list v entries hlist]
    rfl

/-! ## Documents -/

/-- Whatever value a status is decoded from, the same status is decoded from its writing, so that
    writing what is decoded a second time changes nothing. The same goes for a queue and the
    entries in its writing. -/
theorem written_is_restored (root : Text) (v : Json) :
    (∀ s, Status.decoder.run root v = .ok s → Status.decoder.run root s.toJson = .ok s) ∧
    (∀ w, (Status.decoder.run root v).map Status.toJson = .ok w →
      (Status.decoder.run root w).map Status.toJson = .ok w) ∧
    ∀ q, Queue.decoder.run root v = .ok q →
      ∃ w, Path.resolve? [.key "entries"] q.toJson = some w ∧
        Queue.decoder.run root w = .ok q := by
  have hstatus : ∀ s, Status.decoder.run root v = .ok s →
      Status.decoder.run root s.toJson = .ok s := fun s hs => by
    rw [run_eq_ok_iff] at hs ⊢
    exact Status.decoder_restores v s hs
  refine ⟨hstatus, fun w hw => ?_, fun q hq => ⟨_, rfl, ?_⟩⟩
  · cases hs : Status.decoder.run root v with
    | error e =>
      rw [hs] at hw
      cases hw
    | ok s =>
      rw [hs] at hw
      cases hw
      rw [hstatus s hs]
      rfl
  · rw [run_eq_ok_iff] at hq ⊢
    exact Queue.decoder_restores v q hq

/-- A status whose two slots hold a session without anything and none at all, with times in other
    forms than they are written in. -/
theorem sparse_status_restored :
    let slots : Json := .array [
      .object [("session", .object [("start", .string "20240301T101530.1234567Z"),
        ("capabilities", .object []), ("stereotype", .object [("n", .float .nan)])])],
      .object [("session", .null), ("lastStarted", .string " 2024-W09-5 10-00:00:30.5 ")]]
    let v := Json.object [("nodes", .array [.object [("slots", slots)], .null])]
    ∃ s, Status.decoder.run documentRoot v = .ok s ∧
      Status.decoder.run documentRoot s.toJson = .ok s ∧
      (s.nodes.flatMap Node.slots).map (·.session.map (·.capabilities.map List.length))
        = [some (some 0), none] ∧
      (s.nodes.flatMap Node.slots).map (·.lastStarted.map Timestamp.toText)
        = [none, some (Text.ofString "2024-03-01T10:00:00-00:00:30.500000")] := by
  intro slots v
  exact ⟨_, rfl, (written_is_restored documentRoot v).1 _ rfl, by decide, by decide⟩

end GridGauge.Hub
