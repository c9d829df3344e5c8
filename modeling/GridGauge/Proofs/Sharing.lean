import GridGauge.Proofs.Omissions

/-!
# Mappings in one place

A mapping that is in several places is changed in all of them at once
(`Entries.setShared`). Where every mapping that a path leads through is in one
place only (`Entries.IsUnshared`), a setting is put at the end of the path and
nowhere else, whether there are marks left of other places or not
(`Entries.setShared_eq_set`), and no mapping has to be opened on the way.
-/

namespace GridGauge

/-! ## Places -/

mutual

/-- In how many places inside the setting, or where it is itself, is the mapping of a number? -/
def Setting.places (number : Nat) : Setting → Nat
  | .scalar _ => 0
  | .again n _ => if n = number then 1 else 0
  | .sequence _ items => Setting.placesInItems number items
  | .mapping mark es => (if mark.any (·.number = number) then 1 else 0) + Entries.places number es
  | .pair k v => Setting.places number k + Setting.places number v
  | .set _ => 0

/-- In how many places among the items is the mapping of a number? -/
def Setting.placesInItems (number : Nat) : List Setting → Nat
  | [] => 0
  | v :: vs => Setting.places number v + Setting.placesInItems number vs

/-- In how many places among the entries is the mapping of a number? -/
def Entries.places (number : Nat) : Entries → Nat
  | [] => 0
  | (_, v) :: es => Setting.places number v + Entries.places number es

end

mutual

/-- Nothing comes once more where the mapping of the number is not. -/
theorem Setting.fill_eq_self {number : Nat} (whole : Setting) :
    (v : Setting) → v.places number = 0 → Setting.fill number whole v = v
  | .scalar _, _ => rfl
  | .again n isMapping, h => by
    rw [Setting.places] at h
    rw [Setting.fill, if_neg fun heq => by simp [heq] at h]
  | .sequence mark items, h => by
    rw [Setting.places] at h
    rw [Setting.fill, Setting.fillItems_eq_self whole items h, ite_self]
  | .mapping mark es, h => by
    rw [Setting.places, Nat.add_eq_zero_iff] at h
    rw [Setting.fill, Entries.fill_eq_self whole es h.2, ite_self]
  | .pair k v, h => by
    rw [Setting.places, Nat.add_eq_zero_iff] at h
    rw [Setting.fill, Setting.fill_eq_self whole k h.1, Setting.fill_eq_self whole v h.2]
  | .set _, _ => rfl

theorem Setting.fillItems_eq_self {number : Nat} (whole : Setting) :
    (vs : List Setting) → Setting.placesInItems number vs = 0 →
      Setting.fillItems number whole vs = vs
  | [], _ => rfl
  | v :: vs, h => by
    rw [Setting.placesInItems, Nat.add_eq_zero_iff] at h
    rw [Setting.fillItems, Setting.fill_eq_self whole v h.1,
      Setting.fillItems_eq_self whole vs h.2]

theorem Entries.fill_eq_self {number : Nat} (whole : Setting) :
    (es : List (Scalar × Setting)) → Entries.places number es = 0 →
      Entries.fill number whole es = es
  | [], _ => rfl
  | (k, v) :: es, h => by
    rw [Entries.places, Nat.add_eq_zero_iff] at h
    rw [Entries.fill, Setting.fill_eq_self whole v h.1, Entries.fill_eq_self whole es h.2]

end

mutual

/-- Nothing changes where the mapping of the number is not. -/
theorem Setting.setMarked_eq_self {number : Nat} (w : Setting) (path : List Text) :
    (v : Setting) → v.places number = 0 → Setting.setMarked number w path v = v
  | .scalar _, _ => rfl
  | .again _ _, _ => rfl
  | .sequence mark items, h => by
    rw [Setting.places] at h
    rw [Setting.setMarked, Setting.setMarkedItems_eq_self w path items h]
  | .mapping mark es, h => by
    rw [Setting.places, Nat.add_eq_zero_iff] at h
    have hmark : ¬(mark.any (·.number = number)) = true := fun hmark => by simp [hmark] at h
    rw [Setting.setMarked, if_neg hmark, Entries.setMarked_eq_self w path es h.2]
  | .pair k v, h => by
    rw [Setting.places, Nat.add_eq_zero_iff] at h
    rw [Setting.setMarked, Setting.setMarked_eq_self w path k h.1,
      Setting.setMarked_eq_self w path v h.2]
  | .set _, _ => rfl

theorem Setting.setMarkedItems_eq_self {number : Nat} (w : Setting) (path : List Text) :
    (vs : List Setting) → Setting.placesInItems number vs = 0 →
      Setting.setMarkedItems number w path vs = vs
  | [], _ => rfl
  | v :: vs, h => by
    rw [Setting.placesInItems, Nat.add_eq_zero_iff] at h
    rw [Setting.setMarkedItems, Setting.setMarked_eq_self w path v h.1,
      Setting.setMarkedItems_eq_self w path vs h.2]

theorem Entries.setMarked_eq_self {number : Nat} (w : Setting) (path : List Text) :
    (es : List (Scalar × Setting)) → Entries.places number es = 0 →
      Entries.setMarked number w path es = es
  | [], _ => rfl
  | (k, v) :: es, h => by
    rw [Entries.places, Nat.add_eq_zero_iff] at h
    rw [Entries.setMarked, Setting.setMarked_eq_self w path v h.1,
      Entries.setMarked_eq_self w path es h.2]

end

/-! ## Names on the way -/

namespace Bindings

variable {κ α : Type} [BEq κ]

/-- A value of a key stands in one of the bindings. -/
theorem exists_of_find? {bs : Bindings κ α} {key : κ} {value : α} (h : bs.find? key = some value) :
    ∃ front key' back, bs = front ++ (key', value) :: back ∧ (key' == key) = true := by
  obtain ⟨⟨key', _⟩, hfind, rfl⟩ := Option.map_eq_some_iff.1 h
  obtain ⟨hkey, front, back, rfl, -⟩ := List.find?_eq_some_iff_append.1 hfind
  exact ⟨front, key', back, rfl, hkey⟩

/-- A key that is there once gets its new value in its place. -/
theorem put_of_append [PartialEquivBEq κ] {front back : Bindings κ α} {key key' : κ} {old : α}
    (hkeys : KeysDistinct (front ++ (key', old) :: back)) (hkey : (key' == key) = true) (value : α) :
    put (front ++ (key', old) :: back) key value = front ++ (key', value) :: back := by
  have hbound : has (front ++ (key', old) :: back) key = true :=
    List.any_eq_true.2 ⟨(key', old), List.mem_append_right _ List.mem_cons_self, hkey⟩
  rw [KeysDistinct, List.map_append, List.pairwise_append, List.map_cons, List.pairwise_cons] at hkeys
  obtain ⟨-, ⟨hback, -⟩, hfront⟩ := hkeys
  have hfront' : front.map (fun b => if b.1 == key then (b.1, value) else b) = front := by
    refine (List.map_congr_left fun b hb => if_neg fun hb' => ?_).trans (List.map_id _)
    have hne := hfront b.1 (List.mem_map_of_mem hb) key' List.mem_cons_self
    rw [PartialEquivBEq.trans hb' (PartialEquivBEq.symm hkey)] at hne
    cases hne
  have hback' : back.map (fun b => if b.1 == key then (b.1, value) else b) = back := by
    refine (List.map_congr_left fun b hb => if_neg fun hb' => ?_).trans (List.map_id _)
    have hne := hback b.1 (List.mem_map_of_mem hb)
    rw [PartialEquivBEq.trans hkey (PartialEquivBEq.symm hb')] at hne
    cases hne
  rw [put, if_pos hbound, List.map_append, List.map_cons, if_pos hkey, hfront', hback']

end Bindings

namespace Entries

variable {es : Entries} {name next : Text} {path : List Text} {n : Nat} {v : Setting}

/-- The mark of the mapping of a name, if there is one. -/
def markAt (es : Entries) (name : Text) : Option Mark :=
  match es.named? name with
  | some (.mapping mark _) => mark
  | _ => none

/-- The entries of the mapping of a name, none if it is no mapping. -/
def below (es : Entries) (name : Text) : Entries :=
  match es.named? name with
  | some (.mapping _ inner) => inner
  | _ => []

theorem at?_nil (next : Text) (path : List Text) : at? [] (next :: path) = none := by
  cases path <;> rfl

theorem at?_cons (es : Entries) (name next : Text) (path : List Text) :
    es.at? (name :: next :: path)
      = at? (opened (es.markAt name) (es.below name)) (next :: path) := by
  rw [at?.eq_3 _ _ _ (by simp), markAt, below]
  cases es.named? name with
  | none => exact (at?_nil next path).symm
  | some w =>
    cases w with
    | mapping mark inner => rfl
    | _ => exact (at?_nil next path).symm

theorem set_cons (es : Entries) (v : Setting) (name next : Text) (path : List Text) :
    es.set v (name :: next :: path)
      = es.put (.text name) (.mapping (es.markAt name) ((es.below name).set v (next :: path))) := by
  rw [set.eq_3 _ _ _ _ (by simp), markAt, below]
  cases es.named? name with
  | none => rfl
  | some w => cases w <;> rfl

theorem innermostMark_nil (next : Text) (path : List Text) :
    innermostMark [] (next :: path) = none := by
  cases path <;> rfl

theorem innermostMark_cons (es : Entries) (name next : Text) (path : List Text) :
    es.innermostMark (name :: next :: path)
      = (innermostMark (opened (es.markAt name) (es.below name)) (next :: path)).or
        ((es.markAt name).map fun m => (m.number, next :: path)) := by
  have hnone : none = (innermostMark (opened none []) (next :: path)).or
      ((none : Option Mark).map fun m => (m.number, next :: path)) := by
    rw [opened, innermostMark_nil]
    rfl
  rw [innermostMark.eq_3 _ _ _ (by simp), markAt, below]
  cases es.named? name with
  | none => exact hnone
  | some w =>
    cases w with
    | mapping mark inner => exact Option.orElse_eq_or
    | _ => exact hnone

/-! ## Paths through mappings in one place -/

/-- The path leads through the mapping of a number. -/
inductive Passes (n : Nat) : Entries → List Text → Prop
  | here {es : Entries} {name next : Text} {path : List Text} :
      (es.markAt name).any (·.number = n) = true → Passes n es (name :: next :: path)
  | inside {es : Entries} {name : Text} {path : List Text} :
      Passes n (es.below name) path → Passes n es (name :: path)

/-- No mapping that a path leads through is in two places. -/
def IsUnshared (es : Entries) : Prop := ∀ n path, es.Passes n path → es.places n ≤ 1

theorem places_append (n : Nat) (front back : Entries) :
    places n (front ++ back) = places n front + places n back := by
  induction front with
  | nil => exact (Nat.zero_add _).symm
  | cons e front ih => rw [List.cons_append, places, places, ih, Nat.add_assoc]

/-- A name has no mapping, or it is one of the entries. -/
theorem split_at (es : Entries) (name : Text) :
    (es.markAt name = none ∧ es.below name = []) ∨ ∃ front key back,
      es = front ++ (key, .mapping (es.markAt name) (es.below name)) :: back ∧
        (key == .text name) = true := by
  unfold markAt below
  cases h : es.named? name with
  | none => exact .inl ⟨rfl, rfl⟩
  | some w =>
    cases w with
    | mapping mark inner => exact .inr (Bindings.exists_of_find? h)
    | _ => exact .inl ⟨rfl, rfl⟩

/-- A mapping and what is in it are in the tree. -/
theorem places_below_le (n : Nat) (es : Entries) (name : Text) :
    (if (es.markAt name).any (·.number = n) then 1 else 0) + (es.below name).places n
      ≤ es.places n := by
  obtain ⟨hmark, hbelow⟩ | ⟨front, key, back, hes, -⟩ := es.split_at name
  · rw [hmark, hbelow]
    exact Nat.zero_le _
  · have hplaces := congrArg (places n) hes
    rw [places_append, places, Setting.places] at hplaces
    omega

theorem Passes.one_le_places (h : es.Passes n path) : 1 ≤ es.places n := by
  induction h with
  | @here es name next path hmark =>
    have hle := places_below_le n es name
    rw [if_pos hmark] at hle
    exact Nat.le_trans (Nat.le_add_right _ _) hle
  | @inside es name path _ ih =>
    exact Nat.le_trans ih (Nat.le_trans (Nat.le_add_left _ _) (places_below_le n es name))

/-- What the path leads through below a name is in one place, and it is there. -/
theorem places_below_of_passes (hu : ∀ n, es.Passes n (name :: path) → es.places n ≤ 1) :
    ∀ n, (es.below name).Passes n path → (es.below name).places n ≤ 1 := fun n hn =>
  Nat.le_trans (Nat.le_add_left _ _) (Nat.le_trans (places_below_le n es name) (hu n (.inside hn)))

/-- A mapping that the path leads through is not inside of itself. -/
theorem places_below_eq_zero (hu : ∀ n, es.Passes n (name :: next :: path) → es.places n ≤ 1)
    {m : Mark} (hm : m ∈ es.markAt name) : (es.below name).places m.number = 0 := by
  have hmark : (es.markAt name).any (·.number = m.number) = true := by
    rw [Option.mem_def.1 hm]
    exact decide_eq_true rfl
  have hle := places_below_le m.number es name
  rw [if_pos hmark] at hle
  have hone := hu m.number (.here hmark)
  omega

/-- A mapping that does not come once more inside is opened as it is. -/
theorem opened_eq_self {mark : Option Mark} (h : ∀ m ∈ mark, es.places m.number = 0) :
    opened mark es = es := by
  unfold opened
  split
  · next m =>
    split
    · exact fill_eq_self _ es (h m rfl)
    · rfl
  · rfl

theorem HasDistinctKeys.below (h : es.HasDistinctKeys) (name : Text) :
    (es.below name).HasDistinctKeys := by
  unfold Entries.below
  split
  · next mark inner hs =>
    cases h.of_find? hs with
    | mapping hkeys hinside => exact ⟨hkeys, hinside⟩
  · exact ⟨Bindings.keysDistinct_nil, nofun⟩

/-- A mapping that is among the entries once is changed there only. -/
theorem setMarked_append_of_places {front back inner : Entries} {key : Scalar} {mark : Option Mark}
    {rest : List Text}
    (hone : places n (front ++ (key, .mapping mark inner) :: back)
      ≤ (Setting.mapping mark inner).places n)
    (v : Setting) :
    setMarked n v rest (front ++ (key, .mapping mark inner) :: back)
      = front ++ (key, Setting.setMarked n v rest (.mapping mark inner)) :: back := by
  rw [places_append, places] at hone
  have hfront : setMarked n v rest front = front := setMarked_eq_self v rest front (by omega)
  have hback : setMarked n v rest back = back := setMarked_eq_self v rest back (by omega)
  simp only [setMarked_eq_map, List.map_append, List.map_cons] at hfront hback ⊢
  rw [hfront, hback]

/-- Where the innermost mapping with a mark that a path leads through is in one place, to change it
    in all places is to put the setting at the end of the path. -/
theorem setMarked_eq_set {rest : List Text} (hd : es.HasDistinctKeys)
    (hu : ∀ n, es.Passes n path → es.places n ≤ 1)
    (hmark : es.innermostMark path = some (n, rest)) :
    es.Passes n path ∧ setMarked n v rest es = es.set v path := by
  induction path generalizing es with
  | nil => cases hmark
  | cons name path ih =>
    cases path with
    | nil => cases hmark
    | cons next path =>
      have hopened := opened_eq_self fun m hm => places_below_eq_zero hu hm
      rw [innermostMark_cons, hopened, Option.or_eq_some_iff] at hmark
      rw [set_cons]
      obtain ⟨hnone, hnil⟩ | ⟨front, key, back, hes, hkey⟩ := es.split_at name
      · rw [hnone, hnil, innermostMark_nil] at hmark
        obtain h | ⟨-, h⟩ := hmark <;> cases h
      have hzero := @places_below_eq_zero _ _ _ _ hu
      have hinside := @Passes.inside n es name (next :: path)
      have hhere := @Passes.here n es name next path
      have ih := ih (hd.below name) (places_below_of_passes hu)
      have hone := hu n
      generalize es.markAt name = mark at *
      generalize es.below name = inner at *
      subst hes
      rw [Bindings.put_of_append hd.keys hkey]
      obtain hinner | ⟨-, hmark⟩ := hmark
      · -- The mapping is further inside, and therefore neither here nor beside.
        obtain ⟨hpass, hset⟩ := ih hinner
        have hplaces := places_append n front ((key, .mapping mark inner) :: back)
        rw [places, Setting.places] at hplaces
        have hthere := hpass.one_le_places
        have hle := hone (hinside hpass)
        have hnot : ¬mark.any (·.number = n) = true := fun h => by
          rw [if_pos h] at hplaces
          omega
        rw [setMarked_append_of_places (by rw [Setting.places]; omega), Setting.setMarked,
          if_neg hnot, hset]
        exact ⟨hinside hpass, rfl⟩
      · obtain ⟨m, rfl, hm⟩ := Option.map_eq_some_iff.1 hmark
        cases hm
        have hany : (some m).any (·.number = m.number) = true := decide_eq_true rfl
        have hself := setMarked_eq_self v (next :: path) inner (hzero rfl)
        have hle : places m.number (front ++ (key, .mapping (some m) inner) :: back)
            ≤ (Setting.mapping (some m) inner).places m.number := by
          rw [Setting.places, if_pos hany]
          exact Nat.le_trans (hone (hhere hany)) (Nat.le_add_right 1 _)
        rw [setMarked_append_of_places hle, Setting.setMarked, hself, if_pos hany]
        exact ⟨hhere hany, rfl⟩

/-- A setting is put in one place where the path leads through mappings in one place. -/
theorem setShared_eq_set (hd : es.HasDistinctKeys) (hu : ∀ n, es.Passes n path → es.places n ≤ 1)
    (v : Setting) : es.setShared v path = es.set v path := by
  unfold setShared
  split
  · rfl
  · next hmark => exact (setMarked_eq_set hd hu hmark).2

end Entries

end GridGauge
