/-!
# Bindings

An association of values with keys that keeps its keys in the order in which
they came. Binding a key anew gives it another value in its old place.

The value of a key (`find?`) is all there is to bindings but for their order:
binding a key changes the values of the same keys, and of no others
(`find?_put`). Where no key is bound twice, the order does not count for it
(`find?_perm`).
-/

namespace GridGauge

/-- Keys with their values, in order. -/
abbrev Bindings (κ α : Type) := List (κ × α)

namespace Bindings

variable {κ α : Type} [BEq κ]

/-- The value of a key. -/
def find? (bs : Bindings κ α) (key : κ) : Option α :=
  (List.find? (fun b => b.1 == key) bs).map Prod.snd

/-- Has the key a value? -/
def has (bs : Bindings κ α) (key : κ) : Bool := bs.any fun b => b.1 == key

/-- The bindings with `key` bound to `value`: in its place if it is bound already, else last. -/
def put (bs : Bindings κ α) (key : κ) (value : α) : Bindings κ α :=
  if has bs key then bs.map fun b => if b.1 == key then (b.1, value) else b
  else bs ++ [(key, value)]

/-- The bindings with all of `others` put in, one after the other. -/
def putAll (bs others : Bindings κ α) : Bindings κ α :=
  others.foldl (fun bs b => bs.put b.1 b.2) bs

/-! ## Values of keys -/

@[simp] theorem find?_nil (key : κ) : find? ([] : Bindings κ α) key = none := rfl

theorem find?_cons (b : κ × α) (bs : Bindings κ α) (key : κ) :
    find? (b :: bs) key = if b.1 == key then some b.2 else find? bs key := by
  rw [find?, List.find?_cons]
  cases b.1 == key <;> rfl

/-- A key is bound when it has a value. -/
theorem has_eq_isSome_find? (bs : Bindings κ α) (key : κ) :
    has bs key = (find? bs key).isSome := by
  induction bs with
  | nil => rfl
  | cons b bs ih =>
    rw [find?_cons, has, List.any_cons, ← has, ih]
    cases b.1 == key <;> rfl

/-- Of two bindings of a key the first counts. -/
theorem find?_append (as bs : Bindings κ α) (key : κ) :
    find? (as ++ bs) key = (find? as key).or (find? bs key) := by
  induction as with
  | nil => rfl
  | cons a as ih =>
    rw [List.cons_append, find?_cons, find?_cons, ih]
    cases a.1 == key <;> rfl

theorem find?_eq_none_of_not_mem [LawfulBEq κ] {bs : Bindings κ α} {key : κ}
    (h : key ∉ bs.map Prod.fst) : find? bs key = none := by
  induction bs with
  | nil => rfl
  | cons b bs ih =>
    rw [List.map_cons, List.mem_cons, not_or] at h
    rw [find?_cons, if_neg (fun heq => h.1 (eq_of_beq heq).symm), ih h.2]

/-- One more binding counts for its own key only. -/
theorem find?_insert_of_ne (before after : Bindings κ α) {key other : κ} (value : α)
    (h : (key == other) = false) :
    find? (before ++ (key, value) :: after) other = find? (before ++ after) other := by
  rw [find?_append, find?_append, find?_cons, if_neg (by simp [h])]

/-- Another value in one of the bindings is either not seen at all, or it is the value of the key
    of that binding. -/
theorem find?_replace (before after : Bindings κ α) (key other : κ) (v w : α) :
    find? (before ++ (key, v) :: after) other = find? (before ++ (key, w) :: after) other ∨
      (key == other) = true ∧ find? (before ++ (key, v) :: after) other = some v ∧
        find? (before ++ (key, w) :: after) other = some w := by
  simp only [find?_append, find?_cons]
  cases find? before other with
  | some u => exact .inl rfl
  | none =>
    cases h : key == other with
    | true => exact .inr ⟨rfl, rfl, rfl⟩
    | false => exact .inl rfl

/-- Where no key is bound twice, the order of the bindings does not count. -/
theorem find?_perm [LawfulBEq κ] {as bs : Bindings κ α} (h : as.Perm bs)
    (hkeys : (as.map Prod.fst).Nodup) (key : κ) : find? as key = find? bs key := by
  induction h with
  | nil => rfl
  | cons b _ ih =>
    rw [List.map_cons, List.nodup_cons] at hkeys
    rw [find?_cons, find?_cons, ih hkeys.2]
  | swap a b bs =>
    rw [List.map_cons, List.map_cons, List.nodup_cons, List.mem_cons, not_or] at hkeys
    simp only [find?_cons]
    by_cases ha : a.1 == key
    · -- The two keys differ, so the other binding is not that of the key.
      have hb : ¬(b.1 == key) = true := fun hb =>
        hkeys.1.1 ((eq_of_beq hb).trans (eq_of_beq ha).symm)
      simp [ha, hb]
    · simp [ha]
  | trans hab _ ih ih' => exact (ih hkeys).trans (ih' ((hab.map Prod.fst).nodup_iff.1 hkeys))

variable [PartialEquivBEq κ]

/-- Giving the bindings of a key another value does so to the keys that are the same. -/
theorem find?_map_value (bs : Bindings κ α) (key other : κ) (value : α) :
    find? (bs.map fun b => if b.1 == key then (b.1, value) else b) other
      = (find? bs other).map fun v => if key == other then value else v := by
  induction bs with
  | nil => rfl
  | cons b bs ih =>
    rw [List.map_cons, find?_cons, find?_cons, ih]
    by_cases hb : b.1 == other
    · by_cases hk : b.1 == key
      · have : (key == other) = true := PartialEquivBEq.trans (PartialEquivBEq.symm hk) hb
        simp [hb, hk, this]
      · have : ¬(key == other) = true := fun h =>
          hk (PartialEquivBEq.trans hb (PartialEquivBEq.symm h))
        simp [hb, hk, this]
    · by_cases hk : b.1 == key <;> simp [hb, hk]

/-- Binding a key gives it its new value and leaves all others theirs. -/
theorem find?_put (bs : Bindings κ α) (key other : κ) (value : α) :
    find? (put bs key value) other = if key == other then some value else find? bs other := by
  have same : ∀ h : key == other, has bs key = has bs other := by
    intro h
    rw [has, has]
    congr 1
    funext b
    by_cases hb : b.1 == key
    · rw [hb, PartialEquivBEq.trans hb h]
    · have : ¬(b.1 == other) = true := fun h' =>
        hb (PartialEquivBEq.trans h' (PartialEquivBEq.symm h))
      simp [hb, this]
  rw [put]
  by_cases hbound : has bs key
  · rw [if_pos hbound, find?_map_value]
    by_cases h : key == other
    · rw [same h, has_eq_isSome_find?] at hbound
      obtain ⟨v, hv⟩ := Option.isSome_iff_exists.1 hbound
      simp [h, hv]
    · cases find? bs other <;> simp [h]
  · rw [if_neg hbound, find?_append, find?_cons, find?_nil]
    by_cases h : key == other
    · rw [same h, has_eq_isSome_find?, Bool.not_eq_true, Option.isSome_eq_false_iff,
        Option.isNone_iff_eq_none] at hbound
      simp [h, hbound]
    · cases find? bs other <;> simp [h]

end Bindings

end GridGauge
