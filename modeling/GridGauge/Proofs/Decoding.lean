import GridGauge.Proofs.Schema

/-!
# Decoders follow schemas

Each way to make a decoder from others has a schema made the same way from
theirs. The decoder of an object takes its members one after the other, so
that what it follows is built up field by field (`settles_field`); the decoder
of a list takes its items with the position of each at hand (`settles_items`).

The documents and their parts follow from that, and so does which bodies hold
a document.
-/

namespace GridGauge.Hub

variable {α β : Type} {s : Schema} {v : Json}

/-- The outcome for a value is the one that a schema calls for: a result if the value conforms,
    else its first fault. -/
structure Settles (x : Except Mismatch α) (s : Schema) (v : Json) : Prop where
  conforms : ∀ {a : α}, x = .ok a → s.Conforms v
  fault : ∀ {m : Mismatch}, x = .error m → s.Fault v m

/-- What is made of the result does not count. -/
theorem Settles.map {x : Except Mismatch α} (h : Settles x s v) (f : α → β) :
    Settles (x.map f) s v := by
  cases x with
  | ok a => exact ⟨fun _ => h.conforms rfl, nofun⟩
  | error m => exact ⟨nofun, fun e => by cases e; exact h.fault rfl⟩

/-- The decoder decodes the values that conform to the schema, and tells the first fault of all
    others. -/
def Decoder.Follows (d : Decoder α) (s : Schema) : Prop := ∀ v, Settles (d v) s v

/-- The value of a member, null if it is absent. -/
def valueOf (o : Members) (name : Text) : Json := (o.find? name).getD .null

namespace Decoder

/-- A decoder that follows a schema decodes exactly the values that conform to it. -/
theorem Follows.decodes_iff {d : Decoder α} (h : d.Follows s) (v : Json) :
    (∃ a, d v = .ok a) ↔ s.Conforms v := by
  constructor
  · rintro ⟨a, ha⟩
    exact (h v).conforms ha
  · intro hc
    cases hd : d v with
    | ok a => exact ⟨a, rfl⟩
    | error m => exact absurd ((h v).fault hd) hc.not_fault

/-- Null is decoded under every schema. -/
theorem Follows.null {d : Decoder α} (h : d.Follows s) : ∃ a, d .null = .ok a :=
  (h.decodes_iff .null).2 .null

/-! ## Scalars -/

theorem text_follows : text.Follows .text := fun v => by
  cases v with
  | null => exact ⟨fun _ => .null, nofun⟩
  | string t => exact ⟨fun _ => .text, nofun⟩
  | _ => exact ⟨nofun, fun h => by cases h; exact .here (.kind (by simp) rfl)⟩

theorem boolean_follows : boolean.Follows .boolean := fun v => by
  cases v with
  | null => exact ⟨fun _ => .null, nofun⟩
  | bool b => exact ⟨fun _ => .boolean, nofun⟩
  | _ => exact ⟨nofun, fun h => by cases h; exact .here (.kind (by simp) rfl)⟩

theorem count_follows : count.Follows .count := fun v => by
  cases v with
  | null => exact ⟨fun _ => .null, nofun⟩
  | int n =>
    cases n with
    | ofNat n => exact ⟨fun _ => .count (Int.natCast_nonneg n), nofun⟩
    | negSucc n =>
      exact ⟨nofun, fun h => by cases h; exact .here (.negative (Int.negSucc_lt_zero n))⟩
  | _ => exact ⟨nofun, fun h => by cases h; exact .here (.kind (by simp) rfl)⟩

theorem timestamp_follows : timestamp.Follows .timestamp := fun v => by
  cases v with
  | null => exact ⟨fun _ => .null, nofun⟩
  | string t =>
    cases ht : Timestamp.ofText t with
    | ok d => exact ⟨fun _ => .timestamp ht, by simp [timestamp, ht]⟩
    | error e =>
      refine ⟨by simp [timestamp, ht, refuse], fun h => ?_⟩
      simp only [timestamp, ht, refuse, Except.error.injEq] at h
      subst h
      exact .here (.timestamp ht)
  | _ => exact ⟨nofun, fun h => by cases h; exact .here (.kind (by simp) rfl)⟩

theorem bag_follows : bag.Follows .bag := fun v => by
  cases v with
  | null => exact ⟨fun _ => .null, nofun⟩
  | object o => exact ⟨fun _ => .bag, nofun⟩
  | _ => exact ⟨nofun, fun h => by cases h; exact .here (.kind (by simp) rfl)⟩

/-! ## Decoders of parts -/

/-- What is made of a decoded value does not count. -/
theorem Follows.map {d : Decoder α} (h : d.Follows s) (f : α → β) :
    Follows (fun v => (d v).map f) s := fun v => (h v).map f

theorem optional_of_ne_null {d : Decoder α} (h : v ≠ .null) : d.optional v = (d v).map some := by
  cases v with
  | null => exact absurd rfl h
  | _ => rfl

/-- Telling null from other values does not count. -/
theorem Follows.optional {d : Decoder α} (h : d.Follows s) : d.optional.Follows s := fun v => by
  cases v with
  | null => exact ⟨fun _ => .null, nofun⟩
  | _ => exact (h _).map some

theorem items_cons_of_error {d : Decoder α} {m : Mismatch} (hd : d v = .error m) (i : Nat)
    (vs : List Json) : items d i (v :: vs) = .error (m.under (.index i)) := by
  rw [items, hd]
  rfl

theorem items_cons_of_ok {d : Decoder α} {a : α} (hd : d v = .ok a) (i : Nat) (vs : List Json) :
    items d i (v :: vs) = (items d (i + 1) vs).map (a :: ·) := by
  rw [items, hd]
  cases items d (i + 1) vs <;> rfl

/-- The items of an array from some position on, those before which conform. -/
theorem settles_items {d : Decoder α} (h : d.Follows s) (vs : List Json) :
    ∀ before : List Json, (∀ w ∈ before, s.Conforms w) →
      Settles (items d before.length vs) (.list s) (.array (before ++ vs)) := by
  induction vs with
  | nil =>
    intro before hbefore
    exact ⟨fun _ => .list (by simpa using hbefore), nofun⟩
  | cons v vs ih =>
    intro before hbefore
    cases hd : d v with
    | error m =>
      rw [items_cons_of_error hd]
      exact ⟨nofun, fun e => by cases e; exact .item before hbefore ((h v).fault hd)⟩
    | ok a =>
      -- The item conforms, so it is one more of those before the rest.
      have hrest := ih (before ++ [v]) fun w hw => by
        rcases List.mem_append.1 hw with hw | hw
        · exact hbefore w hw
        · rw [List.mem_singleton.1 hw]
          exact (h v).conforms hd
      rw [List.length_append, List.length_singleton, List.append_assoc,
        List.singleton_append] at hrest
      rw [items_cons_of_ok hd]
      exact hrest.map _

theorem Follows.list {d : Decoder α} (h : d.Follows s) : d.list.Follows (.list s) := fun v => by
  cases v with
  | null => exact ⟨fun _ => .null, nofun⟩
  | array vs => exact settles_items h vs [] (by simp)
  | _ => exact ⟨nofun, fun e => by cases e; exact .here (.kind (by simp) rfl)⟩

/-! ## Decoders of objects -/

variable {fields : List (Text × Schema)} {o : Members}

/-- An object without fields left to decode. -/
theorem settles_pure (b : β) : Settles (pure b) (.object []) (.object o) :=
  ⟨fun _ => .object (by simp), nofun⟩

theorem field_bind_of_error {name : Text} {d : Decoder α} {m : Mismatch}
    (hd : d ((o.find? name).getD .null) = .error m) (k : α → Except Mismatch β) :
    field o name d >>= k = .error (m.under (.key name)) := by
  rw [field, hd]
  rfl

theorem field_bind_of_ok {name : Text} {d : Decoder α} {a : α}
    (hd : d ((o.find? name).getD .null) = .ok a) (k : α → Except Mismatch β) :
    field o name d >>= k = k a := by
  rw [field, hd]
  rfl

/-- If a field is decoded and then the others, it has a value. -/
theorem exists_of_field_bind {name : Text} {d : Decoder α} {k : α → Except Mismatch β} {b : β}
    (h : field o name d >>= k = .ok b) : ∃ a, d (valueOf o name) = .ok a ∧ k a = .ok b := by
  cases ha : d (valueOf o name) with
  | error m =>
    rw [field_bind_of_error ha] at h
    cases h
  | ok a =>
    rw [field_bind_of_ok ha] at h
    exact ⟨a, rfl, h⟩

/-- The first field is decoded, and then the others. -/
theorem settles_field {name : Text} {d : Decoder α} {k : α → Except Mismatch β}
    (h : d.Follows s) (hk : ∀ a, Settles (k a) (.object fields) (.object o)) :
    Settles (field o name d >>= k) (.object ((name, s) :: fields)) (.object o) := by
  cases hd : d ((o.find? name).getD .null) with
  | error m =>
    rw [field_bind_of_error hd]
    refine ⟨nofun, fun e => ?_⟩
    cases e
    cases hv : o.find? name with
    | none =>
      -- An absent member is decoded as null, which every decoder takes.
      obtain ⟨a, ha⟩ := h.null
      rw [hv, Option.getD_none, ha] at hd
      cases hd
    | some v =>
      rw [hv, Option.getD_some] at hd
      exact .member [] (by simp) hv ((h v).fault hd)
  | ok a =>
    rw [field_bind_of_ok hd]
    have hs : ∀ v, o.find? name = some v → s.Conforms v := fun v hv => by
      rw [hv, Option.getD_some] at hd
      exact (h v).conforms hd
    refine ⟨fun hb => ?_, fun hm => ((hk a).fault hm).cons hs⟩
    cases (hk a).conforms hb with
    | object ho =>
      refine .object fun f hf => ?_
      rcases List.mem_cons.1 hf with rfl | hf
      · exact hs
      · exact ho f hf

/-- A decoder of objects follows the fields that it decodes. -/
theorem object_follows {k : Members → Except Mismatch β}
    (h : ∀ o, Settles (k o) (.object fields) (.object o)) :
    Follows (fun v => object v >>= k) (.object fields) := fun v => by
  cases v with
  | null =>
    -- Null is read as the object without members, which conforms.
    refine ⟨fun _ => .null, fun e => absurd ((h []).fault e) (Schema.Conforms.not_fault ?_)⟩
    exact .object (by simp)
  | object o => exact h o
  | _ => exact ⟨nofun, fun e => by cases e; exact .here (.kind (by simp) rfl)⟩

end Decoder

end GridGauge.Hub
