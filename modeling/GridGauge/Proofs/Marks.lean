import GridGauge.Proofs.Regrouping

/-!
# Trees apart from their marks

Merging and putting in settings do not look at marks: trees that differ in
their marks only go on to do so (`Entries.unmarked_merge`,
`Entries.unmarked_set`). Nor does what a path leads to depend on them, where
every mapping that it leads through is in one place (`Entries.at?_unmarked`).

Trees stay so when they are merged with trees that have no numbers, and when
settings are put in that have none (`Entries.IsUnshared.merge`,
`Entries.IsUnshared.set`).
-/

namespace GridGauge

/-! ## What does not look at marks -/

namespace Bindings

/-- Changing all values and binding a key can be done in either order. -/
theorem put_mapValues {κ α β : Type} [BEq κ] (bs : Bindings κ α) (f : α → β) (key : κ) (value : α) :
    (bs.put key value).map (fun b => (b.1, f b.2))
      = put (bs.map fun b => (b.1, f b.2)) key (f value) := by
  have hhas : has (bs.map fun b => (b.1, f b.2)) key = bs.has key := List.any_map
  unfold put
  rw [hhas]
  split
  · rw [List.map_map, List.map_map]
    refine List.map_congr_left fun b _ => ?_
    simp only [Function.comp_apply]
    split <;> rfl
  · rw [List.map_append]
    rfl

end Bindings

theorem Entries.unmarked_put (es : Entries) (key : Scalar) (v : Setting) :
    unmarked (es.put key v) = (unmarked es).put key v.unmarked := by
  rw [unmarked_eq_map, unmarked_eq_map, Bindings.put_mapValues]

mutual

theorem Setting.unmarked_over : (v : Setting) → (w : Option Setting) →
    (v.over w).unmarked = v.unmarked.over (w.map Setting.unmarked)
  | .scalar _, _ => rfl
  | .again _ _, _ => rfl
  | .sequence _ _, _ => rfl
  | .pair _ _, _ => rfl
  | .set _, _ => rfl
  | .mapping mark upper, w => by
    cases w with
    | none => rfl
    | some w =>
      cases w with
      | mapping l lower =>
        exact congrArg Setting.ofEntries (Entries.unmarked_over upper lower)
      | _ => rfl

theorem Entries.unmarked_over : (upper : List (Scalar × Setting)) → (lower : Entries) →
    Entries.unmarked (Entries.over upper lower)
      = Entries.over (Entries.unmarked upper) (Entries.unmarked lower)
  | [], _ => rfl
  | (key, v) :: upper, lower => by
    rw [Entries.over, Entries.unmarked, Entries.over, Entries.unmarked_over upper,
      Entries.unmarked_put, Setting.unmarked_over v, Entries.find?_unmarked]

end

namespace Entries

variable {es lower upper : Entries} {name : Text} {path : List Text} {v : Setting} {n : Nat}

/-- Merging does not look at marks. -/
theorem unmarked_merge (lower upper : Entries) :
    unmarked (lower.merge upper) = (unmarked lower).merge (unmarked upper) :=
  unmarked_over upper lower

theorem named?_unmarked (es : Entries) (name : Text) :
    named? (unmarked es) name = (es.named? name).map Setting.unmarked :=
  find?_unmarked es _

theorem markAt_unmarked (es : Entries) (name : Text) : markAt (unmarked es) name = none := by
  rw [markAt, named?_unmarked]
  cases es.named? name with
  | none => rfl
  | some w => cases w <;> rfl

theorem below_unmarked (es : Entries) (name : Text) :
    below (unmarked es) name = unmarked (es.below name) := by
  unfold below
  rw [named?_unmarked]
  cases es.named? name with
  | none => rfl
  | some w => cases w <;> rfl

/-- Putting in a setting does not look at marks. -/
theorem unmarked_set (es : Entries) (v : Setting) (path : List Text) :
    unmarked (es.set v path) = (unmarked es).set v.unmarked path := by
  induction path generalizing es with
  | nil => rfl
  | cons name path ih =>
    cases path with
    | nil => exact unmarked_put es _ v
    | cons next path =>
      rw [set_cons, set_cons, unmarked_put, Setting.unmarked, ih, markAt_unmarked, below_unmarked]

/-- What a path leads to, through mappings in one place, does not depend on marks. -/
theorem at?_unmarked (hu : ∀ n, es.Passes n path → es.places n ≤ 1) :
    (unmarked es).at? path = (es.at? path).map Setting.unmarked := by
  induction path generalizing es with
  | nil => rfl
  | cons name path ih =>
    cases path with
    | nil => exact named?_unmarked es name
    | cons next path =>
      rw [at?_cons, at?_cons, markAt_unmarked, below_unmarked,
        opened_eq_self fun m hm => places_below_eq_zero hu hm]
      exact ih (places_below_of_passes hu)

end Entries

/-! ## What stays in one place -/

namespace Setting

/-- In how many places is the mapping of a number in what may not be there? -/
def placesIn (n : Nat) (w : Option Setting) : Nat := w.elim 0 (places n)

end Setting

namespace Entries

variable {es lower upper : Entries} {name : Text} {path : List Text} {v : Setting} {n : Nat}

/-- Entries that are merged one by one bring nothing more with them than what is in them. -/
theorem places_merge_le_of (hl : lower.HasDistinctKeys) (hu : upper.HasDistinctKeys) (n : Nat)
    (h : ∀ e ∈ upper, ∀ w, (∀ x ∈ w, x.HasDistinctKeys) →
      (e.2.over w).places n ≤ e.2.places n + Setting.placesIn n w) :
    (lower.merge upper).places n ≤ lower.places n + upper.places n := by
  induction upper generalizing lower with
  | nil => exact Nat.le_refl _
  | cons e upper ih =>
    have hw : ∀ x ∈ lower.find? e.1, x.HasDistinctKeys := fun x hx => hl.of_find? hx
    have hvalue := h e List.mem_cons_self _ hw
    have hput := places_put hl.keys n e.1 (e.2.over (lower.find? e.1))
    have hrest := ih (hl.put e.1 ((hu.inside e List.mem_cons_self).over hw)) hu.tail
      fun e' he' => h e' (List.mem_cons_of_mem _ he')
    rw [Setting.placesIn] at hvalue
    rw [merge_cons, places]
    omega

end Entries

theorem Setting.places_over_le {v : Setting} (hv : v.HasDistinctKeys) {w : Option Setting}
    (hw : ∀ x ∈ w, x.HasDistinctKeys) (n : Nat) :
    (v.over w).places n ≤ v.places n + placesIn n w := by
  induction hv generalizing w with
  | @mapping u outer hkeys hinside ih =>
    by_cases hboth : ∃ l inner, w = some (.mapping l inner)
    · obtain ⟨l, inner, rfl⟩ := hboth
      cases hw _ rfl with
      | mapping hlkeys hlinside =>
        have hmerge := Entries.places_merge_le_of ⟨hlkeys, hlinside⟩ ⟨hkeys, hinside⟩ n
          fun e he _ hx => ih e he hx
        rw [mapping_over_mapping, ofEntries, placesIn, Option.elim_some, places, places, places]
        simp only [Option.any_none, Bool.false_eq_true, if_false]
        omega
    · rw [over_eq_self fun l inner _ _ h => absurd ⟨l, inner, h⟩ hboth]
      exact Nat.le_add_right _ _
  | _ => exact Nat.le_add_right _ _

namespace Entries

variable {es lower upper : Entries} {name : Text} {path : List Text} {v : Setting} {n : Nat}

/-- A merged tree has nothing more in it than what is in the two trees. -/
theorem places_merge_le (hl : lower.HasDistinctKeys) (hu : upper.HasDistinctKeys) (n : Nat) :
    (lower.merge upper).places n ≤ lower.places n + upper.places n :=
  places_merge_le_of hl hu n fun e he _ hx => Setting.places_over_le (hu.inside e he) hx n

/-- Below a name there is in a merged tree what one of the trees has there, or both are merged. -/
theorem below_merge_cases (hu : upper.KeysDistinct) (lower : Entries) (name : Text) :
    ((lower.merge upper).markAt name = lower.markAt name ∧
        (lower.merge upper).below name = lower.below name) ∨
      ((lower.merge upper).markAt name = upper.markAt name ∧
        (lower.merge upper).below name = upper.below name) ∨
      ((lower.merge upper).markAt name = none ∧
        (lower.merge upper).below name = (lower.below name).merge (upper.below name)) := by
  unfold markAt below
  rw [named?_merge hu]
  cases upper.named? name with
  | none => exact .inl ⟨rfl, rfl⟩
  | some w =>
    by_cases hboth : ∃ l inner, lower.named? name = some (.mapping l inner)
    · obtain ⟨l, inner, hlower⟩ := hboth
      rw [hlower]
      cases w with
      | mapping m outer => exact .inr (.inr ⟨rfl, rfl⟩)
      | _ => exact .inr (.inl ⟨rfl, rfl⟩)
    · rw [Option.map_some, Setting.over_eq_self fun l inner _ _ h => absurd ⟨l, inner, h⟩ hboth]
      exact .inr (.inl ⟨rfl, rfl⟩)

/-- A path leads through nothing in a merged tree that it does not lead through in one of the
    two. -/
theorem passes_of_merge (hl : lower.HasDistinctKeys) (hu : upper.HasDistinctKeys)
    (h : (lower.merge upper).Passes n path) : lower.Passes n path ∨ upper.Passes n path := by
  induction path generalizing lower upper with
  | nil => cases h
  | cons name path ih =>
    obtain ⟨hmark, hbelow⟩ | ⟨hmark, hbelow⟩ | ⟨hmark, hbelow⟩ :=
      below_merge_cases hu.keys lower name
    · cases h with
      | here h => exact .inl (.here (hmark ▸ h))
      | inside h => exact .inl (.inside (hbelow ▸ h))
    · cases h with
      | here h => exact .inr (.here (hmark ▸ h))
      | inside h => exact .inr (.inside (hbelow ▸ h))
    · cases h with
      | here h =>
        rw [hmark] at h
        cases h
      | inside h =>
        rw [hbelow] at h
        exact (ih (hl.below name) (hu.below name) h).imp .inside .inside

/-- Two trees of which one has no numbers are merged to one in which all is in one place, if it is
    in the other. -/
theorem IsUnshared.merge (hl : lower.HasDistinctKeys) (hu : upper.HasDistinctKeys)
    (h : lower.IsUnshared ∧ (∀ n, upper.places n = 0) ∨
      (∀ n, lower.places n = 0) ∧ upper.IsUnshared) : (lower.merge upper).IsUnshared := by
  intro n path hn
  have hle := places_merge_le hl hu n
  obtain ⟨hshared, hnone⟩ | ⟨hnone, hshared⟩ := h
  all_goals
    have hzero := hnone n
    obtain hpass | hpass := passes_of_merge hl hu hn
  · have := hshared n path hpass
    omega
  · have := hpass.one_le_places
    omega
  · have := hpass.one_le_places
    omega
  · have := hshared n path hpass
    omega

/-- A path leads through nothing more when a scalar has been put in. -/
theorem passes_of_set_scalar {c : Scalar} {p q : List Text}
    (h : (es.set (.scalar c) p).Passes n q) : es.Passes n q := by
  induction p generalizing es q with
  | nil => exact h
  | cons name p ih =>
    cases q with
    | nil => cases h
    | cons other q =>
      by_cases hne : name = other
      · subst hne
        cases p with
        | nil =>
          have hnamed : (es.set (.scalar c) [name]).named? name = some (.scalar c) := by
            rw [set, named?_put, if_pos rfl]
          cases h with
          | here h =>
            rw [markAt, hnamed] at h
            cases h
          | inside h =>
            rw [below, hnamed] at h
            exact absurd h.one_le_places (Nat.not_succ_le_zero 0)
        | cons next p =>
          cases h with
          | here h => exact .here (by rwa [markAt_set] at h)
          | inside h =>
            rw [below_set] at h
            exact .inside (ih h)
      · have hsame : (es.set (.scalar c) (name :: p)).named? other = es.named? other :=
          named?_set_of_ne hne _ p
        cases h with
        | here h => exact .here (by rwa [markAt, hsame] at h)
        | inside h => exact .inside (by rwa [below, hsame] at h)

theorem IsUnshared.set (h : es.IsUnshared) (hd : es.HasDistinctKeys) (c : Scalar) (p : List Text) :
    (es.set (.scalar c) p).IsUnshared := by
  intro n q hn
  have hle := places_set_le hd n (.scalar c) p
  have hone := h n q (passes_of_set_scalar hn)
  rw [Setting.places] at hle
  omega

/-- In trees in which all is in one place a scalar is put in one place. -/
theorem IsUnshared.setShared_eq (h : es.IsUnshared) (hd : es.HasDistinctKeys) (v : Setting)
    (p : List Text) : es.setShared v p = es.set v p :=
  setShared_eq_set hd (fun n hn => h n p hn) v

end Entries

end GridGauge
