import GridGauge.Proofs.Digits
import GridGauge.Proofs.Documents
import Mathlib.Data.List.Basic

/-!
# Where the fault of a document is

A mismatch names its place by a path. Here a path is followed twice: through
the value, to what is there (`Path.resolve?`), and through the schema, to what
is required there (`Path.required?`). At the path of a mismatch is a value
that is not what is required of it, and at no place that is gone through
earlier (`Schema.Earlier`) is there another.

In writing, a path is the name of the value that it starts from with the steps
behind it. As the names of fields have no points or brackets in them, the path
can be read again (`Path.read`).
-/

namespace GridGauge.Hub

/-! ## Following a path -/

/-- The value at the end of a path, if there is one. -/
def Path.resolve? : Path → Json → Option Json
  | [], v => some v
  | .index i :: p, .array vs => vs[i]?.bind (resolve? p)
  | .key name :: p, .object o => (Bindings.find? o name).bind (resolve? p)
  | _, _ => none

/-- What a schema requires at the end of a path, if anything. -/
def Path.required? : Path → Schema → Option Schema
  | [], s => some s
  | .index _ :: p, .list s => required? p s
  | .key name :: p, .object fields => (fields.lookup name).bind (required? p)
  | _, _ => none

namespace Schema

/-- A place comes before another when a value is gone through: a value before all that is inside
    it, a field before those declared behind it, and an item before those of a greater index,
    each with all that is inside it. -/
inductive Earlier : Schema → Path → Path → Prop
  | outside {s : Schema} {step : Step} {p : Path} : Earlier s [] (step :: p)
  | items {s : Schema} {i j : Nat} {p q : Path} : i < j →
      Earlier (.list s) (.index i :: p) (.index j :: q)
  | item {s : Schema} {i : Nat} {p q : Path} : Earlier s p q →
      Earlier (.list s) (.index i :: p) (.index i :: q)
  | members {fields : List (Text × Schema)} {a b : Text} {p q : Path} :
      (fields.map Prod.fst).idxOf a < (fields.map Prod.fst).idxOf b →
      Earlier (.object fields) (.key a :: p) (.key b :: q)
  | member {fields : List (Text × Schema)} {name : Text} {s : Schema} {p q : Path} :
      fields.lookup name = some s → Earlier s p q →
      Earlier (.object fields) (.key name :: p) (.key name :: q)

/-! ## Names of fields -/

mutual

/-- Are the names of fields different from each other in each object? -/
def isWellNamed : Schema → Bool
  | list s => s.isWellNamed
  | object fields => areWellNamed fields
  | _ => true

/-- Are the fields well named, with all that is inside them? -/
def areWellNamed : List (Text × Schema) → Bool
  | [] => true
  | (name, s) :: fields =>
    !(fields.map Prod.fst).contains name && s.isWellNamed && areWellNamed fields

end

variable {s : Schema} {v : Json} {r : Reason} {m : Mismatch}

/-- A field among well named ones is well named, and none before it has its name. -/
theorem wellNamed_of_mem {before after : List (Text × Schema)} {name : Text}
    (h : areWellNamed (before ++ (name, s) :: after) = true) :
    name ∉ before.map Prod.fst ∧ s.isWellNamed = true := by
  induction before with
  | nil =>
    simp only [List.nil_append, areWellNamed, Bool.and_eq_true] at h
    exact ⟨by simp, h.1.2⟩
  | cons f before ih =>
    obtain ⟨other, t⟩ := f
    simp only [List.cons_append, areWellNamed, Bool.and_eq_true, Bool.not_eq_true'] at h
    obtain ⟨hname, hs⟩ := ih h.2
    refine ⟨fun hmem => ?_, hs⟩
    rcases List.mem_cons.1 hmem with rfl | hmem
    · simp at h
    · exact hname hmem

theorem lookup_of_not_mem {before after : List (Text × Schema)} {name : Text}
    (h : name ∉ before.map Prod.fst) : (before ++ (name, s) :: after).lookup name = some s := by
  induction before with
  | nil => simp
  | cons f before ih =>
    obtain ⟨other, t⟩ := f
    rw [List.map_cons, List.mem_cons, not_or] at h
    have hne : (name == other) = false := by simpa using h.1
    rw [List.cons_append, List.lookup_cons, hne]
    exact ih h.2

theorem mem_of_lookup {fields : List (Text × Schema)} {name : Text}
    (h : fields.lookup name = some s) : (name, s) ∈ fields := by
  induction fields with
  | nil => simp at h
  | cons f fields ih =>
    obtain ⟨other, t⟩ := f
    rw [List.lookup_cons] at h
    split at h
    · next hname => simp_all
    · exact List.mem_cons_of_mem _ (ih h)

/-- A field declared before another one is among those before it. -/
theorem mem_before_of_idxOf_lt {before after : List (Text × Schema)} {name other : Text}
    {t : Schema} (hname : name ∉ before.map Prod.fst)
    (hother : (before ++ (name, s) :: after).lookup other = some t)
    (hlt : ((before ++ (name, s) :: after).map Prod.fst).idxOf other
      < ((before ++ (name, s) :: after).map Prod.fst).idxOf name) : (other, t) ∈ before := by
  rw [List.map_append, List.map_cons, List.idxOf_append_of_notMem hname, List.idxOf_cons_self,
    Nat.add_zero] at hlt
  have hmem : other ∈ before.map Prod.fst := by
    by_contra hne
    rw [List.idxOf_append_of_notMem hne] at hlt
    omega
  rw [List.lookup_append] at hother
  cases hl : before.lookup other with
  | none =>
    obtain ⟨f, hf, rfl⟩ := List.mem_map.1 hmem
    have hne := List.lookup_eq_none_iff.1 hl f hf
    simp at hne
  | some u =>
    rw [hl, Option.some_or, Option.some.injEq] at hother
    exact hother ▸ mem_of_lookup hl

/-! ## The first fault -/

/-- At the path of the first fault is a value that is itself not what is required there. -/
theorem Fault.resolve (h : s.Fault v m) (hs : s.isWellNamed = true) :
    ∃ t w, m.path.required? s = some t ∧ m.path.resolve? v = some w ∧ t.Denies w m.reason := by
  induction h with
  | here hd => exact ⟨_, _, rfl, rfl, hd⟩
  | item before _ _ ih =>
    obtain ⟨t, w, ht, hw, hd⟩ := ih hs
    exact ⟨t, w, ht, by simpa [Mismatch.under, Path.resolve?] using hw, hd⟩
  | member before _ hv _ ih =>
    obtain ⟨hname, hs⟩ := wellNamed_of_mem hs
    obtain ⟨t, w, ht, hw, hd⟩ := ih hs
    refine ⟨t, w, ?_, ?_, hd⟩
    · simpa [Mismatch.under, Path.required?, lookup_of_not_mem hname] using ht
    · simpa [Mismatch.under, Path.resolve?, hv] using hw

/-- Inside a value that conforms, each value is what is required of it there. -/
theorem Conforms.not_denies_inside {p : Path} {t : Schema} {w : Json} (hc : s.Conforms v)
    (ht : p.required? s = some t) (hw : p.resolve? v = some w) : ¬t.Denies w r := by
  induction p generalizing s v with
  | nil =>
    cases ht
    cases hw
    exact hc.not_denies
  | cons step p ih =>
    cases hc with
    | list hvs =>
      cases step with
      | key name => cases ht
      | index i =>
        obtain ⟨w', hw', hw⟩ := Option.bind_eq_some_iff.1 hw
        exact ih (hvs w' (List.mem_of_getElem? hw')) ht hw
    | object ho =>
      cases step with
      | index i => cases ht
      | key name =>
        obtain ⟨t', ht', ht⟩ := Option.bind_eq_some_iff.1 ht
        obtain ⟨w', hw', hw⟩ := Option.bind_eq_some_iff.1 hw
        exact ih (ho _ (mem_of_lookup ht') w' hw') ht hw
    | bag => cases step <;> cases ht
    | _ => cases step <;> cases hw

/-- What is gone through before the first fault is what is required of it there. -/
theorem Fault.not_denies_earlier {q : Path} {t : Schema} {w : Json} (h : s.Fault v m)
    (hs : s.isWellNamed = true) (hq : s.Earlier q m.path) (ht : q.required? s = some t)
    (hw : q.resolve? v = some w) : ¬t.Denies w r := by
  induction h generalizing q t w with
  | here hd => cases hq
  | item before hbefore _ ih =>
    cases hq with
    | outside =>
      cases ht
      cases hw
      exact not_denies_array
    | items hlt =>
      -- The item is one of those before the fault, which conform with all that is inside them.
      obtain ⟨w', hw', hw⟩ := Option.bind_eq_some_iff.1 hw
      rw [List.getElem?_append_left hlt] at hw'
      exact (hbefore w' (List.mem_of_getElem? hw')).not_denies_inside ht hw
    | item hq =>
      refine ih hs hq ht ?_
      simpa [Path.resolve?] using hw
  | member before hbefore hv _ ih =>
    -- No field before has the name, so that both paths mean the same schema by it.
    obtain ⟨hname, hs⟩ := wellNamed_of_mem hs
    cases hq with
    | outside =>
      cases ht
      cases hw
      exact not_denies_object
    | members hlt =>
      obtain ⟨t', ht', ht⟩ := Option.bind_eq_some_iff.1 ht
      obtain ⟨w', hw', hw⟩ := Option.bind_eq_some_iff.1 hw
      exact (hbefore _ (mem_before_of_idxOf_lt hname ht' hlt) w' hw').not_denies_inside ht hw
    | member hlookup hq =>
      rw [lookup_of_not_mem hname, Option.some.injEq] at hlookup
      subst hlookup
      refine ih hs hq ?_ ?_
      · simpa [Path.required?, lookup_of_not_mem hname] using ht
      · simpa [Path.resolve?, hv] using hw

end Schema

/-! ## Paths in writing -/

/-- Can the name be told from the steps around it in writing? -/
def isPlainName (name : Text) : Bool := !name.contains 0x2E && !name.contains 0x5B

/-- What has been read of a path from its end on, with one more character in front of it: the
    characters that belong to no step yet, and the steps. -/
def Path.readCharacter (c : CodePoint) (read : Text × Path) : Text × Path :=
  if c = 0x2E then ([], .key read.1 :: read.2)
  else if c = 0x5B then ([], .index (Text.decimalValue read.1.dropLast) :: read.2)
  else (c :: read.1, read.2)

/-- The name in front of a path in writing, and the path. -/
def Path.read (t : Text) : Text × Path := t.foldr readCharacter ([], [])

/-- Can the step be told from those around it in writing? -/
def Step.isPlain : Step → Bool
  | .key name => isPlainName name
  | .index _ => true

/-- A plain name is read as it stands. -/
theorem read_plain {name : Text} (h : isPlainName name = true) (pending : Text) (p : Path) :
    name.foldr Path.readCharacter (pending, p) = (name ++ pending, p) := by
  induction name with
  | nil => rfl
  | cons c name ih =>
    simp only [isPlainName, List.contains_cons, Bool.not_or, Bool.and_eq_true,
      Bool.not_eq_true', beq_eq_false_iff_ne, ne_eq] at h
    have hname : isPlainName name = true := by
      simp only [isPlainName, h.1.2, h.2.2, Bool.not_false, Bool.and_self]
    rw [List.foldr_cons, ih hname, Path.readCharacter, if_neg (Ne.symm h.1.1),
      if_neg (Ne.symm h.2.1), List.cons_append]

/-- The digits of an index and the bracket behind them are plain. -/
theorem isPlainName_index (i : Nat) : isPlainName (Text.ofNat i ++ [0x5D]) = true := by
  have hne : ∀ c : Nat, c ∈ Text.ofNat i ++ [0x5D] → c ≠ 0x2E ∧ c ≠ 0x5B := fun c hc => by
    rcases List.mem_append.1 hc with hc | hc
    · have hdigit : 48 ≤ c ∧ c ≤ 57 := by
        simpa [Text.isDecimalDigit] using Text.isDecimalDigit_of_mem_ofNat hc
      omega
    · rw [List.mem_singleton.1 hc]
      decide
  simp only [isPlainName, Bool.and_eq_true, Bool.not_eq_true', List.contains_eq_mem,
    decide_eq_false_iff_not]
  exact ⟨fun h => (hne _ h).1 rfl, fun h => (hne _ h).2 rfl⟩

theorem read_step {step : Step} (h : step.isPlain = true) (p : Path) :
    step.text.foldr Path.readCharacter ([], p) = ([], step :: p) := by
  cases step with
  | key name =>
    rw [Step.text, List.foldr_cons, read_plain h, List.append_nil]
    rfl
  | index i =>
    have htext : (Step.index i).text = 0x5B :: (Text.ofNat i ++ [0x5D]) := rfl
    rw [htext, List.foldr_cons, read_plain (isPlainName_index i), Path.readCharacter]
    simp

/-- A path of plain steps can be read again, with the plain name in front of it. -/
theorem read_text {root : Text} (hroot : isPlainName root = true) {p : Path}
    (hp : ∀ step ∈ p, step.isPlain = true) : Path.read (p.text root) = (root, p) := by
  have hsteps : (p.flatMap Step.text).foldr Path.readCharacter ([], []) = ([], p) := by
    -- Paths are read from their end on, so that it is the first step that comes last.
    induction p with
    | nil => rfl
    | cons step p ih =>
      rw [List.flatMap_cons, List.foldr_append,
        ih fun step hstep => hp step (List.mem_cons_of_mem _ hstep)]
      exact read_step (hp step List.mem_cons_self) p
  rw [Path.read, Path.text, List.foldr_append, hsteps, read_plain hroot, List.append_nil]

/-- The path of a fault is of plain steps if the names of fields are plain. -/
theorem Schema.Fault.isPlain {s : Schema} {v : Json} {m : Mismatch} (h : s.Fault v m)
    (hs : s.names.all isPlainName = true) : ∀ step ∈ m.path, step.isPlain = true := by
  intro step hstep
  cases step with
  | key name => exact List.all_eq_true.1 hs name (h.mem_names hstep)
  | index i => rfl

/-! ## Errors -/

/-- An error tells the first fault of a value: its path, read from the name of the document on,
    leads to a value that is there and not null, and that is not what the schema requires at this
    place; its reason says what is wrong with that very value; and at every place that is gone
    through earlier, the value, if there is one, is what is required of it. -/
def DecodeError.Locates (e : DecodeError) (s : Schema) (v : Json) : Prop :=
  ∃ (p : Path) (required : Schema) (found : Json) (r : Reason),
    Path.read e.path = (documentRoot, p) ∧ p.required? s = some required ∧
    p.resolve? v = some found ∧ found ≠ .null ∧ required.Denies found r ∧ e.reason = r.message ∧
    ∀ (q : Path) (t : Schema) (w : Json), s.Earlier q p → q.required? s = some t →
      q.resolve? v = some w → ∀ r', ¬t.Denies w r'

theorem Decoder.Follows.locates {α : Type} {d : Decoder α} {s : Schema} (h : d.Follows s)
    (hs : s.isWellNamed = true) (hnames : s.names.all isPlainName = true) {v : Json}
    {e : DecodeError} (he : d.run documentRoot v = .error e) : e.Locates s v := by
  cases hd : d v with
  | ok a =>
    rw [Decoder.run, hd] at he
    cases he
  | error m =>
    rw [Decoder.run, hd] at he
    cases he
    have hm := (h v).fault hd
    obtain ⟨t, w, ht, hw, hdenies⟩ := hm.resolve hs
    exact ⟨m.path, t, w, m.reason, read_text (by decide) (hm.isPlain hnames), ht, hw,
      hdenies.ne_null, hdenies, rfl,
      fun q t' w' hq ht' hw' r' => hm.not_denies_earlier hs hq ht' hw'⟩

/-- An error of decoding a status or a queue tells the first fault of the value. -/
theorem errors_locate (v : Json) (e : DecodeError) :
    (Status.decoder.run documentRoot v = .error e → e.Locates Status.schema v) ∧
      (Queue.decoder.run documentRoot v = .error e → e.Locates Queue.schema v) :=
  ⟨Status.decoder_follows.locates (by decide) (by decide),
    Queue.decoder_follows.locates (by decide) (by decide)⟩

/-- Of several faults the one of the first field of the first node that has any is told. -/
theorem second_node_located :
    let v := Json.object [("nodes", .array [.null, .object [("slots", .bool true),
      ("maxSessions", .int (-1))], .object [("id", .int 7)]])]
    let e := DecodeError.mismatch documentRoot
      ⟨[.key "nodes", .index 1, .key "maxSessions"], .negative (-1)⟩
    Status.decoder.run documentRoot v = .error e ∧ e.path = "value.nodes[1].maxSessions" ∧
      e.reason = "expected non-negative integer, got -1" ∧ e.Locates Status.schema v := by
  intro v e
  exact ⟨rfl, by decide, by decide, (errors_locate v e).1 rfl⟩

end GridGauge.Hub
