import GridGauge.Proofs.Documents
import Mathlib.Data.List.Forall2

/-!
# What a raw status has of sessions

The aggregate of a status is counted from the document. It can as well be
counted from the JSON value the document is decoded from, with no decoding at
all: where a member is absent or null there is nothing to count, and a slot is
occupied when it has a session that is not null (`Json.aggregate`). Both counts
agree on every value that is decoded.

Neither count depends on the order of the nodes, nor on that of the slots of
each node. A value with these in another order (`Json.Rearranged`) conforms to
the same schemas, so that the one is decoded exactly when the other is, and
has the same aggregate (`aggregate_is_raw`).
-/

namespace GridGauge

namespace Json

/-! ## Counting in values -/

/-- The value under a name, null if there is none. -/
def valueAt (name : Text) : Json → Json
  | .object o => Hub.valueOf o name
  | _ => .null

/-- The items of an array, none for any other value. -/
def elements : Json → List Json
  | .array vs => vs
  | _ => []

/-- The number that a value is, zero for one that is no number from zero on. -/
def amount : Json → Nat
  | .int n => n.toNat
  | _ => 0

/-- Is the value null? -/
def isNull : Json → Bool
  | .null => true
  | _ => false

/-- Does a slot have a session? -/
def hasSession (slot : Json) : Bool := !(slot.valueAt "session").isNull

/-- What the gauges would say of the nodes together, counted in a raw status. -/
def aggregate (status : Json) : Hub.Aggregate where
  nodes := (status.valueAt "nodes").elements.length
  maxSessions := ((status.valueAt "nodes").elements.map fun node =>
    (node.valueAt "maxSessions").amount).foldr (· + ·) 0
  sessions := ((status.valueAt "nodes").elements.flatMap fun node =>
    (node.valueAt "slots").elements).countP hasSession

/-- The second value is the first with the items of some arrays in another order: those of the
    array under the first of the names, and inside each of them, in the same way, those of the
    arrays under the other names. -/
def Rearranged : (names : List Text) → Json → Json → Prop
  | [], v, w => v = w
  | name :: names, v, w => v = w ∨ ∃ (before after : Members) (vs us ws : List Json),
      v = .object (before ++ (name, .array vs) :: after) ∧
      w = .object (before ++ (name, .array ws) :: after) ∧
      vs.Perm us ∧ List.Forall₂ (Rearranged names) us ws

end Json

namespace Hub

variable {α β : Type}

/-! ## What is decoded from what -/

namespace Decoder

/-- What is decoded from the members of an object is decoded from the values under its names. -/
theorem exists_of_object_bind {k : Members → Except Mismatch β} {v : Json} {b : β}
    (h : object v >>= k = .ok b) :
    ∃ o : Members, k o = .ok b ∧ ∀ name, valueOf o name = v.valueAt name := by
  cases v with
  | null => exact ⟨[], h, fun _ => rfl⟩
  | object o => exact ⟨o, h, fun _ => rfl⟩
  | _ => cases h

/-- Items are decoded one by one, whatever their positions. -/
theorem forall₂_of_items {d : Decoder α} {vs : List Json} :
    ∀ {i : Nat} {as : List α}, items d i vs = .ok as →
      List.Forall₂ (fun v a => d v = .ok a) vs as := by
  induction vs with
  | nil =>
    intro i as h
    cases h
    exact .nil
  | cons v vs ih =>
    intro i as h
    cases hd : d v with
    | error m =>
      rw [items_cons_of_error hd] at h
      cases h
    | ok a =>
      rw [items_cons_of_ok hd] at h
      cases hrest : items d (i + 1) vs with
      | error m =>
        rw [hrest] at h
        cases h
      | ok rest =>
        rw [hrest] at h
        cases h
        exact .cons hd (ih hrest)

theorem forall₂_of_list {d : Decoder α} {v : Json} {as : List α} (h : d.list v = .ok as) :
    List.Forall₂ (fun v a => d v = .ok a) v.elements as := by
  cases v with
  | null =>
    cases h
    exact .nil
  | array vs => exact forall₂_of_items h
  | _ => cases h

theorem amount_of_count {v : Json} {n : Nat} (h : count v = .ok n) : v.amount = n := by
  cases v with
  | null =>
    cases h
    rfl
  | int m =>
    cases m with
    | ofNat m =>
      cases h
      rfl
    | negSucc m => cases h
  | _ => cases h

/-- Only null is nothing. -/
theorem isSome_of_optional {d : Decoder α} {v : Json} {a : Option α}
    (h : d.optional v = .ok a) : a.isSome = !v.isNull := by
  cases hv : v.isNull with
  | true =>
    cases v with
    | null =>
      cases h
      rfl
    | _ => cases hv
  | false =>
    have hne : v ≠ .null := by
      rintro rfl
      cases hv
    rw [optional_of_ne_null hne] at h
    cases hd : d v with
    | error m =>
      rw [hd] at h
      cases h
    | ok b =>
      rw [hd] at h
      cases h
      rfl

end Decoder

open Decoder

/-- What two lists have in common member by member, their images have. -/
theorem map_eq_map_of_forall₂ {γ : Type} {R : α → β → Prop} {f : α → γ} {g : β → γ}
    {as : List α} {bs : List β} (h : List.Forall₂ R as bs) (hfg : ∀ a b, R a b → f a = g b) :
    as.map f = bs.map g := by
  induction h with
  | nil => rfl
  | cons hab _ ih => rw [List.map_cons, List.map_cons, hfg _ _ hab, ih]

/-! ## The two counts -/

theorem Slot.occupied_of_decoder {v : Json} {s : Slot} (h : Slot.decoder v = .ok s) :
    s.occupied = v.hasSession := by
  obtain ⟨o, h, hat⟩ := exists_of_object_bind h
  obtain ⟨id, -, h⟩ := exists_of_field_bind h
  obtain ⟨lastStarted, -, h⟩ := exists_of_field_bind h
  obtain ⟨stereotype, -, h⟩ := exists_of_field_bind h
  obtain ⟨session, hsession, h⟩ := exists_of_field_bind h
  cases h
  rw [hat] at hsession
  exact isSome_of_optional hsession

/-- The sessions that a node can hold, and its slots, are those of the raw node. -/
theorem Node.counts_of_decoder {v : Json} {n : Node} (h : Node.decoder v = .ok n) :
    (v.valueAt "maxSessions").amount = n.maxSessions ∧
      (v.valueAt "slots").elements.countP Json.hasSession = n.occupiedSlots := by
  obtain ⟨o, h, hat⟩ := exists_of_object_bind h
  obtain ⟨nodeId, -, h⟩ := exists_of_field_bind h
  obtain ⟨uri, -, h⟩ := exists_of_field_bind h
  obtain ⟨version, -, h⟩ := exists_of_field_bind h
  obtain ⟨availability, -, h⟩ := exists_of_field_bind h
  obtain ⟨maxSessions, hmax, h⟩ := exists_of_field_bind h
  obtain ⟨osInfo, -, h⟩ := exists_of_field_bind h
  obtain ⟨heartbeatPeriod, -, h⟩ := exists_of_field_bind h
  obtain ⟨slots, hslots, h⟩ := exists_of_field_bind h
  cases h
  rw [hat] at hmax hslots
  refine ⟨amount_of_count hmax, ?_⟩
  have hmap := map_eq_map_of_forall₂ (forall₂_of_list hslots) fun w s hs =>
    (Slot.occupied_of_decoder hs).symm
  -- Both sides count how often the same list of truth values says so.
  have hcount := congrArg (List.countP fun b => b) hmap
  rw [List.countP_map, List.countP_map] at hcount
  exact hcount

/-- The aggregate of a status is that of the value it is decoded from. -/
theorem Status.aggregate_of_decoder {v : Json} {s : Status} (h : Status.decoder v = .ok s) :
    s.aggregate = v.aggregate := by
  obtain ⟨o, h, hat⟩ := exists_of_object_bind h
  obtain ⟨ready, -, h⟩ := exists_of_field_bind h
  obtain ⟨message, -, h⟩ := exists_of_field_bind h
  obtain ⟨nodes, hnodes, h⟩ := exists_of_field_bind h
  cases h
  rw [hat] at hnodes
  have hnodes := forall₂_of_list hnodes
  have hmax := map_eq_map_of_forall₂ hnodes fun w n hn => (Node.counts_of_decoder hn).1
  have hsessions := map_eq_map_of_forall₂ hnodes fun w n hn => (Node.counts_of_decoder hn).2
  rw [Status.aggregate, Json.aggregate, List.countP_flatMap, List.sum_eq_foldr,
    Function.comp_def, hmax, hsessions, hnodes.length_eq]

theorem Status.sessions_eq (s : Status) :
    s.aggregate.sessions = (s.nodes.flatMap Node.slots).countP Slot.occupied :=
  (List.countP_flatMap.trans List.sum_eq_foldr).symm

namespace Schema

variable {s : Schema}

theorem conforms_array_iff {vs : List Json} :
    (Schema.list s).Conforms (.array vs) ↔ ∀ v ∈ vs, s.Conforms v :=
  ⟨fun h => by cases h with | list hvs => exact hvs, .list⟩

theorem conforms_object_iff {fields : List (Text × Schema)} {o : Members} :
    (Schema.object fields).Conforms (.object o) ↔
      ∀ f ∈ fields, ∀ v, o.find? f.1 = some v → f.2.Conforms v :=
  ⟨fun h => by cases h with | object ho => exact ho, .object⟩

end Schema

end Hub

/-! ## Other orders -/

namespace Json

open Hub

variable {v w : Json} {name : Text} {names : List Text}

theorem Rearranged.refl : ∀ (names : List Text) (v : Json), Rearranged names v v
  | [], _ => rfl
  | _ :: _, _ => .inl rfl

/-- Under the first of the names there are the same items in another order, under any other name
    is the same value. -/
theorem Rearranged.valueAt (h : Rearranged (name :: names) v w) :
    (∃ us, (v.valueAt name).elements.Perm us ∧
      List.Forall₂ (Rearranged names) us (w.valueAt name).elements) ∧
    ∀ other, other ≠ name → v.valueAt other = w.valueAt other := by
  rcases h with rfl | ⟨before, after, vs, us, ws, rfl, rfl, hperm, hitems⟩
  · exact ⟨⟨_, .refl _, List.forall₂_same.2 fun u _ => .refl names u⟩, fun _ _ => rfl⟩
  refine ⟨?_, fun other hother => ?_⟩
  · rcases Bindings.find?_replace before after name name (.array vs) (.array ws) with
      hsame | ⟨-, hv, hw⟩
    · -- There is a member of the same name before it, which is the one that counts.
      refine ⟨_, .refl _, ?_⟩
      rw [Json.valueAt, Json.valueAt, valueOf, valueOf, hsame]
      exact List.forall₂_same.2 fun u _ => .refl names u
    · rw [Json.valueAt, Json.valueAt, valueOf, valueOf, hv, hw]
      exact ⟨us, hperm, hitems⟩
  · rcases Bindings.find?_replace before after name other (.array vs) (.array ws) with
      hsame | ⟨heq, -, -⟩
    · rw [Json.valueAt, Json.valueAt, valueOf, valueOf, hsame]
    · exact absurd (eq_of_beq heq).symm hother

theorem forall_mem_iff_of_forall₂ {R : Json → Json → Prop} {P : Json → Prop}
    {us ws : List Json} (h : List.Forall₂ R us ws) (hP : ∀ u w, R u w → (P u ↔ P w)) :
    (∀ u ∈ us, P u) ↔ ∀ w ∈ ws, P w := by
  induction h with
  | nil => rfl
  | cons huw _ ih => rw [List.forall_mem_cons, List.forall_mem_cons, hP _ _ huw, ih]

/-- Whether a value conforms to a schema is not a matter of order. -/
theorem Rearranged.conforms_iff (h : Rearranged names v w) (s : Schema) :
    s.Conforms v ↔ s.Conforms w := by
  induction names generalizing v w s with
  | nil =>
    cases h
    rfl
  | cons name names ih =>
    rcases h with rfl | ⟨before, after, vs, us, ws, rfl, rfl, hperm, hitems⟩
    · rfl
    have harray : ∀ t : Schema, t.Conforms (.array vs) ↔ t.Conforms (.array ws) := fun t => by
      cases t with
      | list t =>
        rw [Schema.conforms_array_iff, Schema.conforms_array_iff,
          ← forall_mem_iff_of_forall₂ hitems fun _ _ huw => ih huw t]
        simp only [hperm.mem_iff]
      | _ => exact ⟨nofun, nofun⟩
    cases s with
    | object fields =>
      rw [Schema.conforms_object_iff, Schema.conforms_object_iff]
      refine forall₂_congr fun f _ => ?_
      rcases Bindings.find?_replace before after name f.1 (.array vs) (.array ws) with
        hsame | ⟨-, hv, hw⟩
      · rw [hsame]
      · simp only [hv, hw, Option.some.injEq, forall_eq', harray]
    | bag => exact ⟨fun _ => .bag, fun _ => .bag⟩
    | _ => exact ⟨nofun, nofun⟩

/-- A count of the items is the same in any order, if each item counts the same after as before. -/
theorem foldr_map_eq {R : Json → Json → Prop} {f : Json → Nat} {vs us ws : List Json}
    (hperm : vs.Perm us) (hitems : List.Forall₂ R us ws) (hf : ∀ u w, R u w → f u = f w) :
    (vs.map f).foldr (· + ·) 0 = (ws.map f).foldr (· + ·) 0 := by
  rw [← map_eq_map_of_forall₂ hitems hf, ← List.sum_eq_foldr, ← List.sum_eq_foldr]
  exact (hperm.map f).sum_nat

/-- A node with its slots in another order can hold as many sessions, and holds as many. -/
theorem Rearranged.node (h : Rearranged ["slots"] v w) :
    (v.valueAt "maxSessions").amount = (w.valueAt "maxSessions").amount ∧
      (v.valueAt "slots").elements.countP hasSession
        = (w.valueAt "slots").elements.countP hasSession := by
  obtain ⟨⟨us, hperm, hitems⟩, hother⟩ := h.valueAt
  refine ⟨by rw [hother "maxSessions" (by decide)], ?_⟩
  have hus : us = (w.valueAt "slots").elements := List.forall₂_eq_eq_eq ▸ hitems
  rw [hperm.countP_eq, hus]

theorem Rearranged.aggregate_eq (h : Rearranged ["nodes", "slots"] v w) :
    v.aggregate = w.aggregate := by
  obtain ⟨⟨us, hperm, hitems⟩, -⟩ := h.valueAt
  have hmax := foldr_map_eq hperm hitems fun _ _ huw => huw.node.1
  have hsessions := foldr_map_eq hperm hitems fun _ _ huw => huw.node.2
  simp only [Json.aggregate, List.countP_flatMap, List.sum_eq_foldr]
  rw [hperm.length_eq, hitems.length_eq]
  exact congr (congrArg _ hmax) hsessions

end Json

namespace Hub

open Decoder

/-- The aggregate of a status is what can be counted in the value that it is decoded from; it has
    as many sessions as there are occupied slots, and no more than there are slots. With its nodes
    in another order, and the slots of each node as well, a value is decoded if and only if it was
    before, and to a status of the same aggregate. -/
theorem aggregate_is_raw (root : Text) (v : Json) :
    (∀ s, Status.decoder.run root v = .ok s →
      s.aggregate = v.aggregate ∧
      s.aggregate.sessions = (s.nodes.flatMap Node.slots).countP Slot.occupied ∧
      s.aggregate.sessions ≤ (s.nodes.flatMap Node.slots).length) ∧
    ∀ w, Json.Rearranged ["nodes", "slots"] v w →
      ((∃ s, Status.decoder.run root v = .ok s) ↔ ∃ t, Status.decoder.run root w = .ok t) ∧
      ∀ s t, Status.decoder.run root v = .ok s → Status.decoder.run root w = .ok t →
        s.aggregate = t.aggregate := by
  have hraw : ∀ {u : Json} {s : Status}, Status.decoder.run root u = .ok s →
      s.aggregate = u.aggregate := fun h =>
    Status.aggregate_of_decoder (run_eq_ok_iff.1 h)
  refine ⟨fun s hs => ⟨hraw hs, s.sessions_eq, ?_⟩, fun w hvw => ⟨?_, fun s t hs ht => ?_⟩⟩
  · rw [s.sessions_eq]
    exact List.countP_le_length
  · rw [Status.decoder_follows.run_iff, Status.decoder_follows.run_iff, hvw.conforms_iff]
  · rw [hraw hs, hraw ht, hvw.aggregate_eq]

/-- Null among nodes counts as a node, null among slots as a slot that is free, and an empty
    session as a session, in this order as well as in another. -/
theorem sparse_grid_counted :
    let busy := Json.object [("session", .object [])]
    let free := Json.object [("session", .null)]
    let node (slots : List Json) := Json.object [("maxSessions", .int 3), ("slots", .array slots)]
    let grid (nodes : List Json) := Json.object [("nodes", .array nodes)]
    let v := grid [.null, node [.null, busy, free]]
    let w := grid [node [busy, free, .null], .null]
    Json.Rearranged ["nodes", "slots"] v w ∧ ∃ s t,
      Status.decoder.run documentRoot v = .ok s ∧ Status.decoder.run documentRoot w = .ok t ∧
        s.aggregate = ⟨2, 3, 1⟩ ∧ t.aggregate = ⟨2, 3, 1⟩ ∧
        (s.nodes.flatMap Node.slots).countP Slot.occupied = 1 := by
  intro busy free node grid v w
  have hslots : [Json.null, busy, free].Perm [busy, free, .null] :=
    @List.perm_append_comm Json [.null] [busy, free]
  have hnode : Json.Rearranged ["slots"] (node [.null, busy, free]) (node [busy, free, .null]) :=
    .inr ⟨[("maxSessions", .int 3)], [], _, [busy, free, .null], _, rfl, rfl, hslots,
      List.forall₂_same.2 fun _ _ => rfl⟩
  have hvw : Json.Rearranged ["nodes", "slots"] v w :=
    .inr ⟨[], [], _, [node [.null, busy, free], .null], _, rfl, rfl, .swap _ _ _,
      .cons hnode (.cons (.refl _ _) .nil)⟩
  obtain ⟨hcount, horder⟩ := aggregate_is_raw documentRoot v
  obtain ⟨t, ht⟩ := (horder w hvw).1.1 ⟨_, rfl⟩
  obtain ⟨haggregate, hoccupied, -⟩ := hcount _ rfl
  refine ⟨hvw, _, t, rfl, ht, haggregate, ?_, hoccupied.symm.trans rfl⟩
  exact ((horder w hvw).2 _ t rfl ht).symm.trans haggregate

end Hub

end GridGauge
