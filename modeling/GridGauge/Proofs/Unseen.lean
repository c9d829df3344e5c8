import GridGauge.Proofs.Place
import Mathlib.Logic.Relation

/-!
# What decoders do not see

Hubs of different versions write the same status in different ways: with more
members or fewer, in another order, with null for what others leave out. None
of this is seen by a decoder. An *edit* (`Schema.Edit`) is one such change, at
any depth to which the schema reaches; values that come about from each other
by edits, there and back, are *alike* (`Schema.Alike`).

A decoder overlooks the edits of a schema (`Decoder.Overlooks`) when it makes
the same of a value before and after each of them, be it a result or a
mismatch. As there are no edits of scalars and bags, this is built up from
lists, whose items must take null for the object without members, and from
objects. Of an object a decoder sees the values of its fields only
(`Decoder.Heeds`), and of these an edit changes none, or one by another edit
(`Schema.SameFields`). So the documents overlook all edits, and with them
whatever is alike (`alike_is_decoded_alike`).
-/

namespace GridGauge.Hub

variable {α β : Type} {s : Schema} {v w : Json}

namespace Schema

/-- One change to a value that has no meaning under the schema. Null for an object without members
    has none among the items of an array only; elsewhere, a session that is null is none. -/
inductive Edit : Schema → Json → Json → Prop
  /-- One more member, which is no field. -/
  | unknown {fields : List (Text × Schema)} (before : Members) {after : Members} {name : Text}
      {v : Json} : name ∉ fields.map Prod.fst →
      Edit (.object fields) (.object (before ++ after)) (.object (before ++ (name, v) :: after))
  /-- A null for a member that is absent. -/
  | absent {fields : List (Text × Schema)} (before : Members) {after : Members} {name : Text} :
      name ∉ (before ++ after).map Prod.fst →
      Edit (.object fields) (.object (before ++ after)) (.object (before ++ (name, .null) :: after))
  /-- The members in another order, of which no two have the same name. -/
  | order {fields : List (Text × Schema)} {o o' : Members} : (o.map Prod.fst).Nodup →
      o.Perm o' → Edit (.object fields) (.object o) (.object o')
  /-- An object without members for null, where an array has objects. -/
  | empty {fields : List (Text × Schema)} (before : List Json) {after : List Json} :
      Edit (.list (.object fields)) (.array (before ++ .null :: after))
        (.array (before ++ .object [] :: after))
  /-- An edit of the value of a field. -/
  | member {fields : List (Text × Schema)} (before : Members) {after : Members} {name : Text}
      {s : Schema} {v w : Json} : (name, s) ∈ fields → Edit s v w →
      Edit (.object fields) (.object (before ++ (name, v) :: after))
        (.object (before ++ (name, w) :: after))
  /-- An edit of one of the items. -/
  | item {s : Schema} (before : List Json) {after : List Json} {v w : Json} : Edit s v w →
      Edit (.list s) (.array (before ++ v :: after)) (.array (before ++ w :: after))

/-- The one value comes about from the other by edits and by edits undone. -/
abbrev Alike (s : Schema) : Json → Json → Prop := Relation.EqvGen s.Edit

/-- Is the schema of values that no edit is of? -/
def isScalar : Schema → Bool
  | list _ | object _ => false
  | _ => true

/-- An edit is of arrays and objects. -/
theorem Edit.ne_null (h : s.Edit v w) : v ≠ .null ∧ w ≠ .null := by
  cases h <;> exact ⟨nofun, nofun⟩

/-! ## Edits of objects -/

/-- Each field has the same value in both objects, but for an edit of it. -/
def SameFields (fields : List (Text × Schema)) (o o' : Members) : Prop :=
  ∀ f ∈ fields, valueOf o f.1 = valueOf o' f.1 ∨ f.2.Edit (valueOf o f.1) (valueOf o' f.1)

variable {fields : List (Text × Schema)} {o o' : Members}

theorem valueOf_congr {name : Text} (h : Bindings.find? o name = Bindings.find? o' name) :
    valueOf o name = valueOf o' name := by
  rw [valueOf, valueOf, h]

/-- An absent member has the value null, and so has it when it is null. -/
theorem valueOf_absent {before after : Members} {name : Text}
    (h : name ∉ (before ++ after).map Prod.fst) :
    valueOf (before ++ after) name = valueOf (before ++ (name, .null) :: after) name := by
  rw [valueOf, valueOf, Bindings.find?_eq_none_of_not_mem h]
  rw [List.map_append, List.mem_append, not_or] at h
  rw [Bindings.find?_append, Bindings.find?_eq_none_of_not_mem h.1, Bindings.find?_cons,
    if_pos (BEq.refl name)]
  rfl

/-- Among well named fields a name has one schema. -/
theorem eq_of_mem_wellNamed {name : Text} {t : Schema} (h : areWellNamed fields = true)
    (hs : (name, s) ∈ fields) (ht : (name, t) ∈ fields) : s = t := by
  have lookup : ∀ {u : Schema}, (name, u) ∈ fields → fields.lookup name = some u := fun hu => by
    obtain ⟨before, after, rfl⟩ := List.append_of_mem hu
    exact lookup_of_not_mem (wellNamed_of_mem h).1
  exact Option.some.inj ((lookup hs).symm.trans (lookup ht))

theorem Edit.exists_members (h : (Schema.object fields).Edit v w) :
    ∃ o o' : Members, v = .object o ∧ w = .object o' := by
  cases h <;> exact ⟨_, _, rfl, rfl⟩

/-- Of the fields of an object an edit changes none, or one by another edit. -/
theorem Edit.sameFields (h : (Schema.object fields).Edit (.object o) (.object o'))
    (hnamed : areWellNamed fields = true) : SameFields fields o o' := by
  intro f hf
  cases h with
  | @unknown _ before after name u hname =>
    have hne : (name == f.1) = false :=
      beq_eq_false_iff_ne.2 fun heq => hname (heq ▸ List.mem_map_of_mem hf)
    exact .inl (valueOf_congr (Bindings.find?_insert_of_ne before after u hne).symm)
  | @absent _ before after name habsent =>
    left
    by_cases hname : name = f.1
    · exact hname ▸ valueOf_absent habsent
    · have hne : (name == f.1) = false := beq_eq_false_iff_ne.2 hname
      exact valueOf_congr (Bindings.find?_insert_of_ne before after .null hne).symm
  | order hkeys hperm => exact .inl (valueOf_congr (Bindings.find?_perm hperm hkeys f.1))
  | @member _ before after name t u u' hmem hedit =>
    rcases Bindings.find?_replace before after name f.1 u u' with hsame | ⟨heq, hu, hu'⟩
    · exact .inl (valueOf_congr hsame)
    · -- It is the field whose value is edited, and under its schema.
      right
      obtain rfl := eq_of_beq heq
      rw [valueOf, valueOf, hu, hu', eq_of_mem_wellNamed hnamed hf hmem]
      exact hedit

end Schema

open Schema

/-! ## Decoders that overlook edits -/

/-- The decoder makes the same of a value before an edit and after it. -/
def Decoder.Overlooks (d : Decoder α) (s : Schema) : Prop := ∀ v w, s.Edit v w → d v = d w

namespace Decoder

variable {d : Decoder α}

/-- What is overlooked edit by edit is overlooked altogether. -/
theorem Overlooks.eq_of_alike (h : d.Overlooks s) (hvw : s.Alike v w) : d v = d w := by
  induction hvw with
  | rel v w hedit => exact h v w hedit
  | refl v => rfl
  | symm v w _ ih => exact ih.symm
  | trans u v w _ _ ih ih' => exact ih.trans ih'

/-- Of a scalar or a bag there are no edits to be seen. -/
theorem overlooks_of_isScalar (hs : s.isScalar = true) (d : Decoder α) : d.Overlooks s :=
  fun _ _ h => by cases h <;> cases hs

theorem Overlooks.map (h : d.Overlooks s) (f : α → β) : Overlooks (fun v => (d v).map f) s :=
  fun v w hvw => congrArg (Except.map f) (h v w hvw)

/-- No edit makes a null of what was none. -/
theorem Overlooks.optional (h : d.Overlooks s) : d.optional.Overlooks s := fun v w hvw => by
  rw [optional_of_ne_null hvw.ne_null.1, optional_of_ne_null hvw.ne_null.2, h v w hvw]

/-- Items that are decoded the same can stand for each other, errors and all. -/
theorem items_replace (hvw : d v = d w) (before after : List Json) :
    ∀ i, items d i (before ++ v :: after) = items d i (before ++ w :: after) := by
  induction before with
  | nil =>
    intro i
    rw [List.nil_append, List.nil_append, items, items, hvw]
  | cons u before ih =>
    intro i
    rw [List.cons_append, List.cons_append, items, items, ih]

theorem Overlooks.list (h : d.Overlooks s) (hnull : d .null = d (.object [])) :
    d.list.Overlooks (.list s) := fun v w hvw => by
  cases hvw with
  | @empty _ before after => exact items_replace hnull before after 0
  | @item _ before after v w hedit => exact items_replace (h v w hedit) before after 0

/-! ## Decoders of objects -/

/-- What is made of the members of an object depends on the values of these fields. -/
def Heeds (fields : List (Text × Schema)) (x : Members → Except Mismatch β) : Prop :=
  ∀ o o', SameFields fields o o' → x o = x o'

variable {fields : List (Text × Schema)}

theorem heeds_pure (b : β) : Heeds [] fun _ => pure b := fun _ _ _ => rfl

/-- The first field is decoded, and then the others. -/
theorem heeds_field {name : Text} {k : Members → α → Except Mismatch β} (h : d.Overlooks s)
    (hk : ∀ a, Heeds fields fun o => k o a) :
    Heeds ((name, s) :: fields) fun o => field o name d >>= k o := fun o o' hsame => by
  obtain ⟨hfirst, hrest⟩ := List.forall_mem_cons.1 hsame
  have hvalue : d (valueOf o name) = d (valueOf o' name) := by
    rcases hfirst with heq | hedit
    · exact congrArg d heq
    · exact h _ _ hedit
  show (field o name d >>= k o) = (field o' name d >>= k o')
  cases hd : d (valueOf o' name) with
  | ok a =>
    rw [field_bind_of_ok (hvalue.trans hd), field_bind_of_ok hd]
    exact hk a o o' hrest
  | error m => rw [field_bind_of_error (hvalue.trans hd), field_bind_of_error hd]

theorem heeds_scalar {name : Text} {k : Members → α → Except Mismatch β}
    (hs : s.isScalar = true) (hk : ∀ a, Heeds fields fun o => k o a) :
    Heeds ((name, s) :: fields) fun o => field o name d >>= k o :=
  heeds_field (overlooks_of_isScalar hs d) hk

/-- Edits are overlooked by a decoder that has an eye for the values of its fields only. -/
theorem object_overlooks {k : Members → Except Mismatch β}
    (hnamed : areWellNamed fields = true) (hk : Heeds fields k) :
    Overlooks (fun v => object v >>= k) (.object fields) := fun v w hvw => by
  obtain ⟨o, o', rfl, rfl⟩ := hvw.exists_members
  exact hk o o' (hvw.sameFields hnamed)

end Decoder

open Decoder

/-! ## The documents -/

theorem OsInfo.decoder_overlooks : Overlooks OsInfo.decoder OsInfo.schema :=
  object_overlooks (by decide) <|
    heeds_scalar rfl fun _ =>
    heeds_scalar rfl fun _ =>
    heeds_scalar rfl fun _ => heeds_pure _

theorem SlotId.decoder_overlooks : Overlooks SlotId.decoder SlotId.schema :=
  object_overlooks (by decide) <|
    heeds_scalar rfl fun _ =>
    heeds_scalar rfl fun _ => heeds_pure _

theorem Stereotype.decoder_overlooks : Overlooks Stereotype.decoder Stereotype.schema :=
  object_overlooks (by decide) <|
    heeds_scalar rfl fun _ =>
    heeds_scalar rfl fun _ => heeds_pure _

theorem Session.decoder_overlooks : Overlooks Session.decoder Session.schema :=
  object_overlooks (by decide) <|
    heeds_scalar rfl fun _ =>
    heeds_scalar rfl fun _ =>
    heeds_scalar rfl fun _ =>
    heeds_scalar rfl fun _ =>
    heeds_scalar rfl fun _ => heeds_pure _

theorem Slot.decoder_overlooks : Overlooks Slot.decoder Slot.schema :=
  object_overlooks (by decide) <|
    heeds_field SlotId.decoder_overlooks fun _ =>
    heeds_scalar rfl fun _ =>
    heeds_field Stereotype.decoder_overlooks fun _ =>
    heeds_field Session.decoder_overlooks.optional fun _ => heeds_pure _

theorem Node.decoder_overlooks : Overlooks Node.decoder Node.schema :=
  object_overlooks (by decide) <|
    heeds_scalar rfl fun _ =>
    heeds_scalar rfl fun _ =>
    heeds_scalar rfl fun _ =>
    heeds_scalar rfl fun _ =>
    heeds_scalar rfl fun _ =>
    heeds_field OsInfo.decoder_overlooks fun _ =>
    heeds_scalar rfl fun _ =>
    heeds_field (Slot.decoder_overlooks.list rfl) fun _ => heeds_pure _

theorem Status.decoder_overlooks : Overlooks Status.decoder Status.schema :=
  object_overlooks (by decide) <|
    heeds_scalar rfl fun _ =>
    heeds_scalar rfl fun _ =>
    heeds_field (Node.decoder_overlooks.list rfl) fun _ => heeds_pure _

theorem Wish.decoder_overlooks : Overlooks Wish.decoder Wish.schema :=
  object_overlooks (by decide) <| heeds_scalar rfl fun _ => heeds_pure _

theorem Request.decoder_overlooks : Overlooks Request.decoder Request.schema :=
  object_overlooks (by decide) <|
    heeds_scalar rfl fun _ =>
    heeds_field (Wish.decoder_overlooks.list rfl) fun _ => heeds_pure _

theorem Queue.decoder_overlooks : Overlooks Queue.decoder Queue.schema :=
  (Request.decoder_overlooks.list rfl).map Queue.mk

/-- Values that differ in nothing but members that are no fields, the order of members, nulls for
    what is absent, and nulls for empty objects in arrays, at any places inside them, are decoded
    to the same status or the same queue, or refused for the same reason at the same place. -/
theorem alike_is_decoded_alike (root : Text) (v w : Json) :
    (Status.schema.Alike v w → Status.decoder.run root v = Status.decoder.run root w) ∧
      (Queue.schema.Alike v w → Queue.decoder.run root v = Queue.decoder.run root w) :=
  ⟨fun h => congrArg (Except.mapError _) (Status.decoder_overlooks.eq_of_alike h),
    fun h => congrArg (Except.mapError _) (Queue.decoder_overlooks.eq_of_alike h)⟩

/-- A status of an older hub and one of a newer are refused alike, at the same node. -/
theorem older_hub_decoded_alike :
    let slot (more : Members) := Json.object
      [("stereotype", .object (("browserName", .string "firefox") :: more))]
    let v := Json.object [("nodes", .array [.null,
      .object [("slots", .array [slot [("version", .float .nan)]]), ("maxSessions", .int (-1))]])]
    let w := Json.object [("message", .null), ("nodes", .array [.object [],
      .object [("maxSessions", .int (-1)), ("slots", .array [slot []])]])]
    let e := DecodeError.mismatch documentRoot
      ⟨[.key "nodes", .index 1, .key "maxSessions"], .negative (-1)⟩
    Status.schema.Alike v w ∧ Status.decoder.run documentRoot v = .error e ∧
      Status.decoder.run documentRoot w = .error e := by
  intro slot v w e
  let slots (more : Members) : Text × Json := ("slots", .array [slot more])
  let most : Text × Json := ("maxSessions", .int (-1))
  let grid (first : Json) (second : Members) :=
    Json.object [("nodes", .array [first, .object second])]
  have inside : ∀ {vs ws : List Json}, (Schema.list Node.schema).Edit (.array vs) (.array ws) →
      Status.schema.Edit (.object [("nodes", .array vs)]) (.object [("nodes", .array ws)]) :=
    fun h => .member [] (by simp) h
  have hempty : Status.schema.Edit v (grid (.object []) [slots [("version", .float .nan)], most]) :=
    inside (.empty [])
  have hslot : Slot.schema.Edit (slot []) (slot [("version", .float .nan)]) :=
    .member [] (s := Stereotype.schema) (by simp) (.unknown [_] (by decide))
  have hunknown : Status.schema.Edit (grid (.object []) [slots [], most])
      (grid (.object []) [slots [("version", .float .nan)], most]) :=
    inside (.item [_] (.member [] (s := .list Slot.schema) (by simp) (.item [] hslot)))
  have horder : Status.schema.Edit (grid (.object []) [slots [], most])
      (grid (.object []) [most, slots []]) :=
    inside (.item [_] (.order (by decide) (.swap _ _ _)))
  have habsent : Status.schema.Edit (grid (.object []) [most, slots []]) w :=
    .absent [] (by decide)
  have halike : Status.schema.Alike v w :=
    .trans _ _ _ (.rel _ _ hempty) <| .trans _ _ _ (.symm _ _ (.rel _ _ hunknown)) <|
      .trans _ _ _ (.rel _ _ horder) (.rel _ _ habsent)
  have hv : Status.decoder.run documentRoot v = .error e := rfl
  exact ⟨halike, hv, ((alike_is_decoded_alike documentRoot v w).1 halike).symm.trans hv⟩

end GridGauge.Hub
