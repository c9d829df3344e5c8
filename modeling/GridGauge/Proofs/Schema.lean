import GridGauge.Hub.Document

/-!
# The schema of the hub's documents

What a document has to look like, said apart from the decoders: a `Schema` is
what is required of a value, `Schema.Conforms` when a value meets it. Null
conforms to every schema, and so does a member that is absent.

A value that does not conform has a first fault (`Schema.Fault`). Values are
gone through from the outside in, members in the order of the schema's fields,
items from the first on, each with all that is inside it before the next. The
fault is the first value on this way that is itself not what is required of it
there (`Schema.Denies`).

A decoder follows a schema (`Decoder.Follows`) when it decodes conforming
values only, and reports of each other value its first fault. That it decodes
all that conform is a consequence (`Decoder.Follows.decodes_iff`): a value that
conforms has no fault.
-/

namespace GridGauge.Hub

/-- What is required of a value that is not null. -/
inductive Schema where
  | text
  | boolean
  /-- An integer that is not negative. -/
  | count
  | timestamp
  /-- An object, whatever is in it. -/
  | bag
  | list (item : Schema)
  | object (fields : List (Text × Schema))

namespace Schema

/-- The kind of value that a schema asks for. -/
def expected : Schema → Expected
  | text => .string
  | boolean => .boolean
  | count => .integer
  | timestamp => .timestamp
  | bag => .object
  | list _ => .array
  | object _ => .object

mutual

/-- The names of fields in a schema, at any depth. -/
def names : Schema → List Text
  | list s => s.names
  | object fields => namesOfFields fields
  | _ => []

/-- The names of fields and of those inside them. -/
def namesOfFields : List (Text × Schema) → List Text
  | [] => []
  | (name, s) :: fields => name :: (s.names ++ namesOfFields fields)

end

/-- A value meets a schema. -/
inductive Conforms : Schema → Json → Prop
  | null {s : Schema} : Conforms s .null
  | text {t : Text} : Conforms .text (.string t)
  | boolean {b : Bool} : Conforms .boolean (.bool b)
  | count {n : Int} : 0 ≤ n → Conforms .count (.int n)
  | timestamp {t : Text} {d : Timestamp} : Timestamp.ofText t = .ok d →
      Conforms .timestamp (.string t)
  | bag {o : Members} : Conforms .bag (.object o)
  | list {s : Schema} {vs : List Json} : (∀ v ∈ vs, Conforms s v) → Conforms (.list s) (.array vs)
  | object {fields : List (Text × Schema)} {o : Members} :
      (∀ f ∈ fields, ∀ v, o.find? f.1 = some v → Conforms f.2 v) →
      Conforms (.object fields) (.object o)

end Schema

/-- Is the value of this kind? A number is an integer by how it is written. -/
def Expected.fits : Expected → Json → Bool
  | .object, .object _ => true
  | .array, .array _ => true
  | .string, .string _ => true
  | .boolean, .bool _ => true
  | .integer, .int _ => true
  | .timestamp, .string _ => true
  | _, _ => false

namespace Schema

/-- A value is itself not what a schema requires, whatever is inside it, for a reason. -/
inductive Denies : Schema → Json → Reason → Prop
  | kind {s : Schema} {v : Json} : v ≠ .null → s.expected.fits v = false →
      Denies s v (.kind s.expected v.kind)
  | negative {n : Int} : n < 0 → Denies .count (.int n) (.negative n)
  | timestamp {t : Text} {e : Timestamp.Error} : Timestamp.ofText t = .error e →
      Denies .timestamp (.string t) (.timestamp t)

/-- The first fault of a value under a schema: all that comes before it conforms. -/
inductive Fault : Schema → Json → Mismatch → Prop
  | here {s : Schema} {v : Json} {r : Reason} : s.Denies v r → Fault s v ⟨[], r⟩
  | item {s : Schema} (before : List Json) {after : List Json} {v : Json} {m : Mismatch} :
      (∀ w ∈ before, Conforms s w) → Fault s v m →
      Fault (.list s) (.array (before ++ v :: after)) (m.under (.index before.length))
  | member (before : List (Text × Schema)) {after : List (Text × Schema)} {name : Text}
      {s : Schema} {o : Members} {v : Json} {m : Mismatch} :
      (∀ f ∈ before, ∀ w, o.find? f.1 = some w → Conforms f.2 w) →
      o.find? name = some v → Fault s v m →
      Fault (.object (before ++ (name, s) :: after)) (.object o) (m.under (.key name))

variable {s : Schema} {v : Json} {r : Reason} {m : Mismatch}

theorem Denies.ne_null (h : s.Denies v r) : v ≠ .null := by
  cases h with
  | kind hv _ => exact hv
  | negative _ => simp
  | timestamp _ => simp

/-- An object is what a schema of objects requires, whatever its members are. -/
theorem not_denies_object {fields : List (Text × Schema)} {o : Members} :
    ¬(Schema.object fields).Denies (.object o) r := fun h => by
  cases h with
  | kind _ hf => simp [expected, Expected.fits] at hf

/-- An array is what a schema of arrays requires, whatever its items are. -/
theorem not_denies_array {vs : List Json} : ¬(Schema.list s).Denies (.array vs) r := fun h => by
  cases h with
  | kind _ hf => simp [expected, Expected.fits] at hf

theorem Conforms.not_denies (hc : s.Conforms v) : ¬s.Denies v r := by
  intro hd
  cases hd with
  | kind hv hf => cases hc <;> simp_all [expected, Expected.fits]
  | negative hn =>
    cases hc with
    | count hn' => omega
  | timestamp he =>
    cases hc with
    | timestamp hd => rw [hd] at he; cases he

/-- A value that conforms has no fault. -/
theorem Conforms.not_fault (hc : s.Conforms v) : ¬s.Fault v m := by
  intro hf
  induction hf with
  | here hd => exact hc.not_denies hd
  | item _ _ _ ih =>
    cases hc with
    | list hvs => exact ih (hvs _ (by simp))
  | member _ _ hv _ ih =>
    cases hc with
    | object ho => exact ih (ho _ (List.mem_append_right _ List.mem_cons_self) _ hv)

/-- A fault among the later fields is the first if the field before them conforms. -/
theorem Fault.cons {name : Text} {fields : List (Text × Schema)} {o : Members}
    (hf : (Schema.object fields).Fault (.object o) m)
    (hs : ∀ v, o.find? name = some v → s.Conforms v) :
    (Schema.object ((name, s) :: fields)).Fault (.object o) m := by
  cases hf with
  | here hd => exact absurd hd not_denies_object
  | member before hbefore hv hm =>
    -- It has one field more before it.
    refine .member ((name, s) :: before) ?_ hv hm
    intro f hf
    rcases List.mem_cons.1 hf with rfl | hf
    · exact hs
    · exact hbefore f hf

theorem mem_namesOfFields {before after : List (Text × Schema)} {name : Text} :
    name ∈ namesOfFields (before ++ (name, s) :: after) ∧
      ∀ other ∈ s.names, other ∈ namesOfFields (before ++ (name, s) :: after) := by
  induction before with
  | nil =>
    rw [List.nil_append, namesOfFields]
    exact ⟨List.mem_cons_self, fun other h => List.mem_cons_of_mem _ (List.mem_append_left _ h)⟩
  | cons f before ih =>
    rw [List.cons_append, namesOfFields]
    refine ⟨?_, fun other h => ?_⟩
    · exact List.mem_cons_of_mem _ (List.mem_append_right _ ih.1)
    · exact List.mem_cons_of_mem _ (List.mem_append_right _ (ih.2 other h))

/-- The way to a fault goes through fields of the schema only. -/
theorem Fault.mem_names (h : s.Fault v m) {name : Text} (hname : .key name ∈ m.path) :
    name ∈ s.names := by
  induction h with
  | here _ => cases hname
  | item before _ _ ih =>
    rcases List.mem_cons.1 hname with hkey | hname
    · cases hkey
    · exact ih hname
  | member before _ _ _ ih =>
    rcases List.mem_cons.1 hname with hkey | hname
    · cases hkey
      exact mem_namesOfFields.1
    · exact mem_namesOfFields.2 name (ih hname)

end Schema

end GridGauge.Hub
