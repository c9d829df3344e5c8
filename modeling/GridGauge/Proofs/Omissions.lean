import GridGauge.Proofs.Layers

/-!
# What a file does not set

A file of settings should leave alone what it does not set. That it does so is
not a matter of the file alone: its tree is merged over what the environment
has set, the environment is put in again, and the whole is laid over the
defaults.

A setting that is not in its section, or whose section is not there, keeps the
value that the environment or the default gives it, in whatever other places a
file may have its sections too: to put a setting in its place changes every
place of the section, but it changes one name there, and no two settings have
the same name (`Entries.Holds.set_of_ne`).

A section that is left empty is another matter. Nothing stands for its
entries, and what is no mapping hides the defaults below it; only if the
environment sets something in that section, the section becomes a mapping
again and the defaults come back (`unset_reads`).
-/

namespace GridGauge

namespace Bindings

variable {κ α β : Type} [BEq κ]

/-- Changing all values changes the value of each key. -/
theorem find?_mapValues (bs : Bindings κ α) (f : α → β) (key : κ) :
    find? (bs.map fun b => (b.1, f b.2)) key = (find? bs key).map f := by
  induction bs with
  | nil => rfl
  | cons b bs ih =>
    rw [List.map_cons, find?_cons, find?_cons, ih]
    cases b.1 == key <;> rfl

theorem KeysDistinct.mapValues {bs : Bindings κ α} (h : bs.KeysDistinct) (f : α → β) :
    KeysDistinct (bs.map fun b => (b.1, f b.2)) := h.map _ fun _ _ => rfl

end Bindings

/-- The settings of all sections have names of their own. -/
theorem SettingKey.eq_of_leafName {k j : SettingKey} (h : k.leafName = j.leafName) : k = j := by
  have : ∀ k ∈ all, ∀ j ∈ all, k.leafName = j.leafName → k = j := by decide
  exact this k k.mem_all j j.mem_all h

namespace Entries

theorem setMarked_eq_map (number : Nat) (v : Setting) (path : List Text) (es : Entries) :
    setMarked number v path es = es.map fun e => (e.1, Setting.setMarked number v path e.2) := by
  induction es with
  | nil => rfl
  | cons e es ih => rw [setMarked, ih, List.map_cons]

theorem named?_setMarked (number : Nat) (v : Setting) (path : List Text) (es : Entries)
    (name : Text) :
    named? (setMarked number v path es) name
      = (es.named? name).map (Setting.setMarked number v path) := by
  rw [setMarked_eq_map]
  exact Bindings.find?_mapValues es _ _

/-- A mapping that has been opened has the same keys. -/
theorem KeysDistinct.opened {es : Entries} (h : es.KeysDistinct) (mark : Option Mark) :
    Bindings.KeysDistinct (Entries.opened mark es) := by
  unfold Entries.opened
  split
  · split
    · rw [Setting.fillEntries_eq_map]
      exact h.mapValues _
    · exact h
  · exact h

/-- A scalar that is found in a mapping is found in it also when it has been opened, and so is that
    there is none. -/
theorem named?_opened {es : Entries} {name : Text} {o : Option Scalar}
    (h : es.named? name = o.map .scalar) (mark : Option Mark) :
    named? (Entries.opened mark es) name = o.map .scalar := by
  unfold Entries.opened
  split
  · split
    · rw [Setting.fillEntries_eq_map]
      refine (Bindings.find?_mapValues es _ _).trans ?_
      rw [← named?, h]
      cases o <;> rfl
    · exact h
  · exact h

variable {es lower upper : Entries} {k j : SettingKey} {o : Option Scalar} {v : Setting}

/-! ## The place of a setting -/

/-- The tree has no key twice, and neither have its sections, in however many places they are. -/
structure IsTidy (es : Entries) : Prop where
  keys : es.KeysDistinct
  sections : ∀ (k : SettingKey) (mark : Option Mark) (inner : Entries),
    es.named? k.sectionName = some (.mapping mark inner) → inner.KeysDistinct

theorem HasDistinctKeys.isTidy (h : es.HasDistinctKeys) : es.IsTidy := by
  refine ⟨h.keys, fun k mark inner hs => ?_⟩
  cases h.of_find? hs with
  | mapping hkeys _ => exact hkeys

/-- What is in the place of a setting: a scalar, or nothing in a section that is absent or a
    mapping. -/
inductive Holds (es : Entries) (k : SettingKey) : Option Scalar → Prop
  | absent (h : es.named? k.sectionName = none) : Holds es k none
  | within {mark : Option Mark} {inner : Entries} {o : Option Scalar}
      (h : es.named? k.sectionName = some (.mapping mark inner))
      (ho : inner.named? k.leafName = o.map .scalar) : Holds es k o

/-- The tree has the section of a setting, but as a scalar, in which there is no place for it. -/
def IsBlocked (es : Entries) (k : SettingKey) (s : Scalar) : Prop :=
  es.named? k.sectionName = some (.scalar s)

theorem Holds.sectionOf (h : es.Holds k o) :
    (es.sectionOf k).named? k.leafName = o.map .scalar := by
  cases h with
  | absent h => rw [Entries.sectionOf, h]; rfl
  | within h ho => rw [sectionOf_of_named? h, ho]

/-- All that can come of putting a setting in its place. -/
inductive Placed (es : Entries) (v : Setting) (j : SettingKey) : Entries → Prop
  /-- The section has a mark, and changes wherever it is. -/
  | shared {m : Mark} {inner : Entries}
      (h : es.named? j.sectionName = some (.mapping (some m) inner)) :
      Placed es v j (setMarked m.number v [j.leafName] es)
  /-- The section is in one place, or becomes a mapping in one place. -/
  | alone (h : ∀ m inner, es.named? j.sectionName ≠ some (.mapping (some m) inner)) :
      Placed es v j (es.put (.text j.sectionName)
        (.ofEntries ((es.sectionOf j).put (.text j.leafName) v)))

theorem placed (es : Entries) (v : Setting) (j : SettingKey) :
    Placed es v j (es.setShared v j.path) := by
  have hset : es.set v j.path = _ := set.eq_3 es v j.sectionName [j.leafName] (by simp)
  have hmark : es.innermostMark j.path = _ :=
    innermostMark.eq_3 es j.sectionName [j.leafName] (by simp)
  have halone := @Placed.alone es v j
  rw [sectionOf] at halone
  rw [setShared, hmark, hset]
  cases hs : es.named? j.sectionName with
  | none =>
    rw [hs] at halone
    exact halone fun _ _ h => by cases h
  | some w =>
    rw [hs] at halone
    cases w with
    | mapping mark inner =>
      cases mark with
      | some m => exact .shared hs
      | none => exact halone fun _ _ h => by cases h
    | _ => exact halone fun _ _ h => by cases h

/-- A section that has been put in is in the tree. -/
theorem Holds.of_put {inner : Entries} (hsec : j.sectionName = k.sectionName)
    (ho : inner.named? k.leafName = o.map .scalar) :
    Holds (es.put (.text j.sectionName) (.ofEntries inner)) k o := by
  have there : named? (es.put (.text j.sectionName) (.ofEntries inner)) k.sectionName
      = some (.mapping none inner) := by
    rw [named?_put, if_pos hsec]
    rfl
  exact .within there ho

/-- What is put in its place is there, whatever was in the way. -/
theorem holds_set (es : Entries) (s : Scalar) (k : SettingKey) :
    (es.setShared (.scalar s) k.path).Holds k (some s) := by
  have there : ∀ inner : Entries,
      named? (inner.put (.text k.leafName) (.scalar s)) k.leafName = some (.scalar s) :=
    fun inner => by rw [named?_put, if_pos rfl]
  have hp := es.placed (.scalar s) k
  generalize es.setShared (.scalar s) k.path = es' at hp
  cases hp with
  | @shared m inner hs =>
    have hsection : named? (setMarked m.number (.scalar s) [k.leafName] es) k.sectionName
        = some (.mapping (some m) (Bindings.put (setMarked m.number (.scalar s) [k.leafName] inner)
          (.text k.leafName) (.scalar s))) := by
      rw [named?_setMarked, hs]
      simp [Setting.setMarked, set]
    exact .within hsection (there _)
  | alone => exact .of_put rfl (there _)

/-- To put a setting in its place leaves all others alone. -/
theorem Holds.set_of_ne (h : es.Holds k o) (hne : k ≠ j) (v : Setting) :
    (es.setShared v j.path).Holds k o := by
  have hleaf : j.leafName ≠ k.leafName := fun heq => hne (SettingKey.eq_of_leafName heq).symm
  have hp := es.placed v j
  generalize es.setShared v j.path = es' at hp
  cases hp with
  | @shared m inner hs =>
    cases h with
    | absent h => exact .absent (by rw [named?_setMarked, h]; rfl)
    | @within mark below o h ho =>
      -- The section may be one of the places that change, but the name in it is another.
      have hbelow : named? (setMarked m.number v [j.leafName] below) k.leafName
          = o.map .scalar := by
        rw [named?_setMarked, ho]
        cases o <;> rfl
      refine .within (by rw [named?_setMarked, h, Option.map_some, Setting.setMarked]) ?_
      split
      · rw [set, named?_put, if_neg hleaf, hbelow]
      · exact hbelow
  | alone =>
    by_cases hsec : j.sectionName = k.sectionName
    · refine .of_put hsec ?_
      rw [named?_put, if_neg hleaf, sectionOf_congr hsec, h.sectionOf]
    · cases h with
      | absent h => exact .absent (by rw [named?_put, if_neg hsec, h])
      | within h ho => exact .within (by rw [named?_put, if_neg hsec, h]) ho

/-- What is put into a section that is no mapping makes one of it. -/
theorem IsBlocked.holds_set {s : Scalar} (h : es.IsBlocked k s)
    (hsec : j.sectionName = k.sectionName) (hne : k ≠ j) (v : Setting) :
    (es.setShared v j.path).Holds k none := by
  have hleaf : j.leafName ≠ k.leafName := fun heq => hne (SettingKey.eq_of_leafName heq).symm
  have hp := es.placed v j
  generalize es.setShared v j.path = es' at hp
  cases hp with
  | shared hs => rw [hsec, h] at hs; cases hs
  | alone =>
    refine .of_put hsec ?_
    rw [named?_put, if_neg hleaf, sectionOf, hsec, h]
    rfl

/-- What is put into another section leaves it as it is. -/
theorem IsBlocked.set {s : Scalar} (h : es.IsBlocked k s) (hsec : j.sectionName ≠ k.sectionName)
    (v : Setting) : (es.setShared v j.path).IsBlocked k s := by
  have hp := es.placed v j
  generalize es.setShared v j.path = es' at hp
  cases hp with
  | shared => rw [IsBlocked, named?_setMarked, h]; rfl
  | alone => rw [IsBlocked, named?_put, if_neg hsec, h]

theorem IsTidy.sectionOf (h : es.IsTidy) (k : SettingKey) : (es.sectionOf k).KeysDistinct := by
  unfold Entries.sectionOf
  split
  · next mark inner hs => exact h.sections k mark inner hs
  · exact Bindings.keysDistinct_nil

/-- Putting a setting in its place keeps the tree tidy. -/
theorem IsTidy.set (h : es.IsTidy) (v : Setting) (j : SettingKey) :
    (es.setShared v j.path).IsTidy := by
  have hp := es.placed v j
  generalize es.setShared v j.path = es' at hp
  cases hp with
  | @shared m inner hs =>
    refine ⟨by rw [setMarked_eq_map]; exact h.keys.mapValues _, fun k mark below hk => ?_⟩
    rw [named?_setMarked] at hk
    obtain ⟨w, hw, hk⟩ := Option.map_eq_some_iff.1 hk
    cases w with
    | mapping mark' below' =>
      have hbelow : Bindings.KeysDistinct (setMarked m.number v [j.leafName] below') := by
        rw [setMarked_eq_map]
        exact (h.sections k mark' below' hw).mapValues _
      rw [Setting.setMarked] at hk
      cases hk
      split
      · exact hbelow.put _ _
      · exact hbelow
    | _ => cases hk
  | alone =>
    refine ⟨h.keys.put _ _, fun k mark below hk => ?_⟩
    rw [named?_put] at hk
    split at hk
    · cases hk
      exact (h.sectionOf j).put _ _
    · exact h.sections k mark below hk

/-! ## Merged trees -/

/-- A plain tree is tidy, and a scalar that it gives is in its place. -/
theorem IsPlain.isTidy (h : es.IsPlain) : es.IsTidy :=
  ⟨h.keys, fun k mark inner hs => (h.sections k mark inner hs).2⟩

theorem Gives.holds (h : es.Gives k (o.map .scalar)) : es.Holds k o := by
  generalize hw : o.map Setting.scalar = w at h
  cases h with
  | absent h =>
    obtain rfl : o = none := by cases o <;> cases hw; rfl
    exact .absent h
  | within h => exact .within h hw.symm

/-- What the upper tree has in the place of a setting counts, and otherwise what the lower one has
    there. -/
theorem Holds.merge {o' : Option Scalar} (hl : lower.Holds k o') (hu : upper.Holds k o)
    (ht : upper.IsTidy) : (lower.merge upper).Holds k (o.or o') := by
  have there : (lower.merge upper).named? k.sectionName = _ := named?_merge ht.keys _
  cases hu with
  | absent hu =>
    rw [hu] at there
    cases hl with
    | absent hl => exact .absent (there.trans hl)
    | within hl ho' => exact .within (there.trans hl) ho'
  | @within u outer o hu ho =>
    rw [hu] at there
    cases hl with
    | absent hl =>
      rw [hl] at there
      exact .within there (by rw [ho, Option.or_none])
    | @within l inner o' hl ho' =>
      rw [hl] at there
      refine .within (there.trans (congrArg some (Setting.mapping_over_mapping _ _ _ _))) ?_
      rw [named?_merge (ht.sections k u outer hu), ho, ho']
      cases o <;> cases o' <;> rfl

/-- A section that is a scalar in the upper tree is that scalar, whatever is below. -/
theorem IsBlocked.merge {s : Scalar} (h : upper.IsBlocked k s) (hu : upper.KeysDistinct)
    (lower : Entries) : (lower.merge upper).IsBlocked k s := by
  rw [IsBlocked, named?_merge hu, h]
  rfl

theorem IsTidy.merge (hl : lower.IsTidy) (hu : upper.IsTidy) : (lower.merge upper).IsTidy := by
  refine ⟨keysDistinct_merge hl.keys, fun k mark inner hs => ?_⟩
  rw [named?_merge hu.keys] at hs
  cases hk : upper.named? k.sectionName with
  | none =>
    rw [hk] at hs
    exact hl.sections k mark inner hs
  | some v =>
    rw [hk, Option.map_some, Option.some_or, Option.some.injEq] at hs
    by_cases hboth : ∃ l below u above, lower.named? k.sectionName = some (.mapping l below) ∧
        v = .mapping u above
    · obtain ⟨l, below, u, above, hw, rfl⟩ := hboth
      rw [hw] at hs
      cases hs
      exact keysDistinct_merge (hl.sections k l below hw)
    · have alone := Setting.over_eq_self fun l below u above hw hv =>
        hboth ⟨l, below, u, above, hw, hv⟩
      rw [alone] at hs
      exact hu.sections k mark inner (hs ▸ hk)

/-! ## Trees without an end -/

end Entries

/-- The setting as it is merged over another one: a mapping over a mapping is opened. -/
def Setting.openedOver (lower : Option Setting) (v : Setting) : Setting :=
  match lower, v with
  | some (.mapping _ _), .mapping u outer => .mapping u (Entries.opened u outer)
  | _, v => v

theorem Setting.openedOver_eq_self {v : Setting} {w : Option Setting}
    (h : ∀ l lower u upper, w = some (.mapping l lower) → v ≠ .mapping u upper) :
    v.openedOver w = v := by
  unfold openedOver
  split
  · exact absurd rfl (h _ _ _ _ rfl)
  · rfl

namespace Entries

variable {lower upper : Entries} {k : SettingKey} {o : Option Scalar}

/-- The tree with those mappings opened that meet another one in the tree below. -/
def openedOver (lower upper : Entries) : Entries :=
  upper.map fun e => (e.1, e.2.openedOver (lower.find? e.1))

theorem find?_openedOver (key : Scalar) :
    (openedOver lower upper).find? key
      = (upper.find? key).map (Setting.openedOver (lower.find? key)) := by
  induction upper with
  | nil => rfl
  | cons e upper ih =>
    rw [openedOver, List.map_cons, Bindings.find?_cons, Bindings.find?_cons, ← openedOver, ih]
    by_cases h : (e.1 == key) = true
    · rw [if_pos h, if_pos h, Bindings.find?_congr lower h, Option.map_some]
    · rw [if_neg h, if_neg h]

theorem named?_openedOver (name : Text) :
    (openedOver lower upper).named? name
      = (upper.named? name).map (Setting.openedOver (lower.named? name)) := find?_openedOver _

/-- A section is opened or left as it is; in either case its mapping has the same mark. -/
theorem openedOver_mapping (lower : Option Setting) (u : Option Mark) (outer : Entries) :
    ∃ above, Setting.openedOver lower (.mapping u outer) = .mapping u above ∧
      (above = outer ∨ above = opened u outer) := by
  unfold Setting.openedOver
  split
  · next heq => cases heq; exact ⟨_, rfl, .inr rfl⟩
  · exact ⟨_, rfl, .inl rfl⟩

theorem exists_of_openedOver_eq {lower : Option Setting} {v : Setting} {mark : Option Mark}
    {inner : Entries} (h : v.openedOver lower = .mapping mark inner) :
    ∃ outer, v = .mapping mark outer ∧ (inner = outer ∨ inner = opened mark outer) := by
  unfold Setting.openedOver at h
  split at h
  · cases h
    exact ⟨_, rfl, .inr rfl⟩
  · exact ⟨inner, h, .inl rfl⟩

theorem Holds.openedOver (h : upper.Holds k o) (lower : Entries) :
    (openedOver lower upper).Holds k o := by
  cases h with
  | absent h => exact .absent (by rw [named?_openedOver, h]; rfl)
  | @within u outer o h ho =>
    obtain ⟨above, habove, hor⟩ := openedOver_mapping (lower.named? k.sectionName) u outer
    refine .within (by rw [named?_openedOver, h, Option.map_some, habove]) ?_
    rcases hor with rfl | rfl
    · exact ho
    · exact named?_opened ho u

theorem IsBlocked.openedOver {s : Scalar} (h : upper.IsBlocked k s) (lower : Entries) :
    (openedOver lower upper).IsBlocked k s := by
  rw [IsBlocked, named?_openedOver, h, Option.map_some,
    Setting.openedOver_eq_self (v := .scalar s) fun _ _ _ _ _ h => by cases h]

theorem IsTidy.openedOver (h : upper.IsTidy) (lower : Entries) :
    (openedOver lower upper).IsTidy := by
  refine ⟨h.keys.map _ fun _ _ => rfl, fun k mark inner hs => ?_⟩
  rw [named?_openedOver] at hs
  obtain ⟨v, hv, hs⟩ := Option.map_eq_some_iff.1 hs
  obtain ⟨outer, rfl, rfl | rfl⟩ := exists_of_openedOver_eq hs
  · exact h.sections k mark inner hv
  · exact KeysDistinct.opened (h.sections k mark outer hv) mark

/-- Bounded merging is merging of what has been opened, as long as the opened mappings can be
    merged. -/
theorem mergeWithin_eq_openedOver {depth : Nat} (hu : upper.KeysDistinct)
    (h : ∀ e ∈ upper, ∀ l inner u outer, lower.find? e.1 = some (.mapping l inner) →
      e.2 = .mapping u outer → mergeWithin depth (opened l inner) (opened u outer)
        = some (Entries.merge inner (opened u outer))) :
    mergeWithin (depth + 1) lower upper = some (lower.merge (openedOver lower upper)) := by
  rw [mergeWithin_succ]
  induction upper generalizing lower with
  | nil => rfl
  | cons e upper ih =>
    have entry : mergeEntryWithin depth lower e.1 e.2
        = some (lower.put e.1 ((e.2.openedOver (lower.find? e.1)).over (lower.find? e.1))) := by
      unfold mergeEntryWithin
      split
      · next l inner u outer hl hv =>
        rw [h e List.mem_cons_self l inner u outer hl hv, hl, hv]
        rfl
      · next hne => rw [Setting.openedOver_eq_self hne, Setting.over_eq_self hne]
    -- The entries to come meet in the tree what they would have met before.
    have later : ∀ v, openedOver (lower.put e.1 v) upper = openedOver lower upper := fun v =>
      List.map_congr_left fun e' he' => by rw [find?_put_of_distinct hu he']
    rw [List.foldlM_cons, entry]
    refine (ih (Bindings.keysDistinct_cons.1 hu).2 fun e' he' => ?_).trans ?_
    · rw [find?_put_of_distinct hu he']
      exact h e' (List.mem_cons_of_mem _ he')
    · rw [later]
      rfl

/-- A tidy tree can be laid over a shallow one even if it has no end. -/
theorem mergeEndless_eq_openedOver (hl : lower.IsShallow) (hu : upper.IsTidy) :
    lower.mergeEndless upper = some (lower.merge (openedOver lower upper)) := by
  refine mergeWithin_eq_openedOver hu.keys fun e he l inner u outer hinner houter => ?_
  obtain ⟨k, below, hk, hbelow, hleaf⟩ := hl _ _ hinner
  cases hbelow
  have hsection := Bindings.find?_of_mem hu.keys he
  rw [eq_text_of_beq hk, houter] at hsection
  -- One step down there is no mapping in the lower tree, and so nothing to merge with.
  have distinct := KeysDistinct.opened (hu.sections k u outer hsection) u
  exact mergeWithin_eq distinct fun e' _ l' inner' _ _ hinner' _ =>
    absurd rfl (hleaf _ _ l' inner' hinner')

/-- The file leaves the setting out: its section is not there, is empty, or is a mapping without
    it. -/
def Omits (es : Entries) (k : SettingKey) : Prop := es.Holds k none ∨ es.IsBlocked k .null

end Entries

/-- What a variable of the environment says is a scalar. -/
theorem Environment.Says.exists_scalar {env : Environment} {k : SettingKey} {v : Setting}
    (h : env.Says k v) : ∃ c, v = .scalar c := by
  cases h <;> exact ⟨_, rfl⟩

namespace Settings

open Entries

variable {s : Settings} {k j : SettingKey} {v : Setting} {o : Option Scalar} {c : Scalar}
  {values : Bindings SettingKey Setting}

/-! ## Many settings at once -/

theorem isTidy_setAll (h : s.overrides.IsTidy) (values : Bindings SettingKey Setting) :
    (s.setAll values).overrides.IsTidy := by
  induction values generalizing s with
  | nil => exact h
  | cons kv values ih => exact ih (s := s.set kv.1.path kv.2) (h.set kv.2 kv.1)

/-- What is not put in stays as it is. -/
theorem holds_setAll_of_not_mem (hh : s.overrides.Holds k o) (hk : ∀ v, (k, v) ∉ values) :
    (s.setAll values).overrides.Holds k o := by
  induction values generalizing s with
  | nil => exact hh
  | cons kv values ih =>
    have hne : k ≠ kv.1 := fun heq => hk kv.2 (heq ▸ List.mem_cons_self)
    exact ih (s := s.set kv.1.path kv.2) (hh.set_of_ne hne kv.2) fun v hv =>
      hk v (List.mem_cons_of_mem _ hv)

/-- What is put in, and put in once, is there at the end. -/
theorem holds_setAll (hd : values.KeysDistinct) (hk : (k, .scalar c) ∈ values) :
    (s.setAll values).overrides.Holds k (some c) := by
  induction values generalizing s with
  | nil => cases hk
  | cons kv values ih =>
    obtain ⟨hne, hd⟩ := Bindings.keysDistinct_cons.1 hd
    rw [setAll_cons]
    rcases List.mem_cons.1 hk with rfl | hk
    · refine holds_setAll_of_not_mem (holds_set s.overrides c k) fun w hw => ?_
      have := hne _ hw
      simp at this
    · exact ih hd hk

/-- A section that is no mapping stays so while nothing is put in it. -/
theorem isBlocked_setAll (h : s.overrides.IsBlocked k c)
    (hk : ∀ j v, (j, v) ∈ values → j.sectionName ≠ k.sectionName) :
    (s.setAll values).overrides.IsBlocked k c := by
  induction values generalizing s with
  | nil => exact h
  | cons kv values ih =>
    have hsec := hk kv.1 kv.2 List.mem_cons_self
    exact ih (s := s.set kv.1.path kv.2) (h.set hsec kv.2) fun j v hv =>
      hk j v (List.mem_cons_of_mem _ hv)

/-- The first setting that is put in a section makes a mapping of it. -/
theorem holds_setAll_of_isBlocked (h : s.overrides.IsBlocked k c) (hk : ∀ v, (k, v) ∉ values)
    (hj : (j, v) ∈ values) (hsec : j.sectionName = k.sectionName) :
    (s.setAll values).overrides.Holds k none := by
  induction values generalizing s with
  | nil => cases hj
  | cons kv values ih =>
    have hne : k ≠ kv.1 := fun heq => hk kv.2 (heq ▸ List.mem_cons_self)
    have hk' : ∀ v, (k, v) ∉ values := fun v hv => hk v (List.mem_cons_of_mem _ hv)
    rw [setAll_cons]
    by_cases hfirst : kv.1.sectionName = k.sectionName
    · exact holds_setAll_of_not_mem (h.holds_set hfirst hne kv.2) hk'
    · rcases List.mem_cons.1 hj with rfl | hj
      · exact absurd hsec hfirst
      · exact ih (h.set hfirst kv.2) hk' hj

/-! ## Loading and reading -/

/-- However a tidy tree is laid over a shallow one, that is to merge a tree that has the same in the
    place of each setting. -/
theorem exists_laid (isEndless : Bool) {lower upper : Entries} (hl : lower.IsShallow)
    (hu : upper.IsTidy) :
    ∃ above, (if isEndless then lower.mergeEndless upper else some (lower.merge upper))
        = some (lower.merge above) ∧ above.IsTidy ∧
      (∀ k o, upper.Holds k o → above.Holds k o) ∧
      ∀ k c, upper.IsBlocked k c → above.IsBlocked k c := by
  cases isEndless with
  | false => exact ⟨upper, rfl, hu, fun _ _ h => h, fun _ _ h => h⟩
  | true =>
    exact ⟨openedOver lower upper, mergeEndless_eq_openedOver hl hu, hu.openedOver lower,
      fun _ _ h => h.openedOver lower, fun _ _ h => h.openedOver lower⟩

/-- A file can be loaded over what the environment has set. Before the variables are put in again,
    nothing is in the place of a setting that neither they nor the file give. -/
theorem exists_load (env : Environment) {file : FileTree} (h : file.entries.IsTidy) :
    ∃ s : Settings, (initial env).load env file = some (s.setAll env.settings) ∧
      s.overrides.IsTidy ∧
      (∀ k, (∀ v, ¬env.Says k v) → file.entries.Holds k none → s.overrides.Holds k none) ∧
      ∀ k c, file.entries.IsBlocked k c → s.overrides.IsBlocked k c := by
  obtain ⟨above, hmerge, htidy, hholds, hblocked⟩ :=
    exists_laid ((initial env).loops || file.loops) (isShallow_initial env) h
  refine ⟨⟨_, file.marks, (initial env).loops || file.loops⟩, ?_,
    (isPlain_initial env).isTidy.merge htidy, fun k he hk => ?_,
    fun k c hk => (hblocked k c hk).merge htidy.keys _⟩
  · rw [load, hmerge]
    rfl
  · have below : (initial env).overrides.Holds k none := (gives_initial he).holds
    exact below.merge (hholds k none hk) htidy

theorem exists_tree (h : s.overrides.IsTidy) :
    ∃ above, s.tree = defaultEntries.merge above ∧ above.IsTidy ∧
      (∀ k o, s.overrides.Holds k o → above.Holds k o) ∧
      ∀ k c, s.overrides.IsBlocked k c → above.IsBlocked k c := by
  obtain ⟨above, hmerge, rest⟩ := exists_laid s.loops isShallow_defaultEntries h
  refine ⟨above, ?_, rest⟩
  cases hloops : s.loops with
  | false =>
    rw [hloops, if_neg Bool.false_ne_true] at hmerge
    rw [tree, hloops, if_neg Bool.false_ne_true, Option.some.inj hmerge]
  | true =>
    rw [hloops, if_pos rfl] at hmerge
    rw [tree, hloops, if_pos rfl, hmerge, Option.getD_some]

/-- A setting is read as the scalar in its place, and as its default where there is none. -/
theorem get_of_holds (h : s.overrides.IsTidy) (hk : s.overrides.Holds k o) (otherwise : Setting) :
    s.get k.name otherwise = (o.map .scalar).getD k.default := by
  obtain ⟨above, htree, htidy, hholds, -⟩ := exists_tree h
  obtain ⟨d, hd⟩ : ∃ d, k.default = .scalar d := by cases k <;> exact ⟨_, rfl⟩
  have below : defaultEntries.Holds k (some d) :=
    Gives.holds (by rw [Option.map_some, ← hd]; exact gives_defaultEntries k)
  have whole := below.merge (hholds k o hk) htidy
  have found : s.at? k.path = (o.or (some d)).map .scalar := by
    rw [at?, htree]
    generalize ho : o.or (some d) = o' at whole
    cases whole with
    | absent => cases o <;> cases ho
    | @within mark inner o' hs hleaf =>
      rw [SettingKey.path, Entries.at?.eq_3 _ _ _ (by simp), hs]
      exact named?_opened hleaf mark
  rw [get, SettingKey.namesOfPath_name, found, hd]
  cases o <;> rfl

/-- Nothing is read from a section that is a scalar, not even a default. -/
theorem get_of_isBlocked (h : s.overrides.IsTidy) (hk : s.overrides.IsBlocked k c)
    (otherwise : Setting) : s.get k.name otherwise = otherwise := by
  obtain ⟨above, htree, htidy, -, hblocked⟩ := exists_tree h
  have whole : (defaultEntries.merge above).named? k.sectionName = some (.scalar c) :=
    (hblocked k c hk).merge htidy.keys _
  have found : s.at? k.path = none := by
    rw [at?, htree, SettingKey.path, Entries.at?.eq_3 _ _ _ (by simp), whole]
  rw [get, SettingKey.namesOfPath_name, found]
  rfl

/-! ## What a file leaves out -/

theorem isTidy_of_loadFrom {first : Nat} {files : Files} {path : Option Text} {file : FileTree}
    (h : loadFrom first files path = .tree file) : file.entries.IsTidy :=
  (hasDistinctKeys_of_loadFrom h).isTidy

/-- A setting that a file leaves out is read as the environment has it, and else as its default, but
    for the settings of a section that is empty in the file and in which the environment sets
    nothing: of these nothing is read. -/
theorem unset_reads (env : Environment) {first : Nat} {files : Files} {path : Option Text}
    {file : FileTree} (hload : loadFrom first files path = .tree file)
    (hk : file.entries.Omits k) (otherwise : Setting) :
    ∃ s, (initial env).load env file = some s ∧
      (∀ v, env.Says k v → s.get k.name otherwise = v) ∧
      ((∀ v, ¬env.Says k v) →
        (file.entries.IsBlocked k .null → ∃ j v, env.Says j v ∧ j.sectionName = k.sectionName) →
        s.get k.name otherwise = k.default) ∧
      (file.entries.IsBlocked k .null → (∀ j v, env.Says j v → j.sectionName ≠ k.sectionName) →
        s.get k.name otherwise = otherwise) := by
  obtain ⟨s, hs, htidy, hholds, hblocked⟩ := exists_load env (isTidy_of_loadFrom hload)
  have tidy := isTidy_setAll htidy env.settings
  have silent (he : ∀ v, ¬env.Says k v) : ∀ v, (k, v) ∉ env.settings := fun v hv =>
    he v (Environment.mem_settings.1 hv)
  refine ⟨_, hs, fun v hv => ?_, fun he hrestored => ?_, fun hempty hnone => ?_⟩
  · -- What the environment says is put in last.
    obtain ⟨c, rfl⟩ := hv.exists_scalar
    exact get_of_holds tidy (holds_setAll (Environment.keysDistinct_offers env).given
      (Environment.mem_settings.2 hv)) otherwise
  · refine get_of_holds tidy (o := none) ?_ otherwise
    rcases hk with hk | hempty
    · exact holds_setAll_of_not_mem (hholds k he hk) (silent he)
    · obtain ⟨j, v, hj, hsec⟩ := hrestored hempty
      exact holds_setAll_of_isBlocked (hblocked k _ hempty) (silent he)
        (Environment.mem_settings.2 hj) hsec
  · exact get_of_isBlocked tidy (isBlocked_setAll (hblocked k _ hempty) fun j v hj =>
      hnone j v (Environment.mem_settings.1 hj)) otherwise

/-- Two empty sections: the environment sets something in that of the hub, so that its defaults come
    back, and nothing in that of logging, of which nothing is read. -/
theorem empty_sections_read :
    let files : Files := ⟨[], [], [([], .directory),
      (["config.yaml"], .file (Utf8.encode "hub:\nlogging:\n"))]⟩
    let env : Environment := [("GRID_EXPORTER_TIMEOUT", "2")]
    ∃ file s, loadFrom 0 files none = .tree file ∧ (initial env).load env file = some s ∧
      s.get "hub.url" (.scalar .null) = .ofText "http://127.0.0.1:4444" ∧
      s.get "hub.timeout_sec" (.scalar .null) = .scalar (.float (.ofRatio false 2 1)) ∧
      s.get "logging.level" (.scalar .null) = .scalar .null := by
  intro files env
  have hload : loadFrom 0 files none =
      .tree ⟨[(.text "hub", .scalar .null), (.text "logging", .scalar .null)], 5, false⟩ := by
    decide +kernel
  have said : env.Says .hubTimeout (.scalar (.float (.ofRatio false 2 1))) :=
    .hubTimeout (t := "2") rfl rfl (by decide +kernel)
  have silent : ∀ k ≠ SettingKey.hubTimeout, ∀ v, ¬env.Says k v := by
    rintro k hk v (⟨h, ht⟩ | ⟨h, hx, hz⟩ | ⟨h, ht⟩ | ⟨h, hn, hz⟩ | ⟨h, ht⟩)
    case hubTimeout => exact hk rfl
    all_goals cases h
  obtain ⟨s, hs, -, restored, -⟩ := unset_reads env hload (k := .hubUrl) (.inr rfl) (.scalar .null)
  obtain ⟨s', hs', given, -, -⟩ :=
    unset_reads env hload (k := .hubTimeout) (.inr rfl) (.scalar .null)
  obtain ⟨s'', hs'', -, -, hidden⟩ :=
    unset_reads env hload (k := .logLevel) (.inr rfl) (.scalar .null)
  cases hs.symm.trans hs'
  cases hs.symm.trans hs''
  refine ⟨_, s, hload, hs, ?_, given _ said, ?_⟩
  · exact restored (silent _ (by decide)) fun _ => ⟨.hubTimeout, _, said, rfl⟩
  · refine hidden rfl fun j v hj hsec => ?_
    by_cases hne : j = .hubTimeout
    · subst hne
      exact absurd hsec (by decide)
    · exact silent j hne v hj

/-- A file that sets nothing hides a default: of a section that is empty nothing is read. -/
theorem empty_section_hides_default :
    let files : Files :=
      ⟨[], [], [([], .directory), (["config.yaml"], .file (Utf8.encode "hub:\n"))]⟩
    ∃ file s, loadFrom 0 files none = .tree file ∧ file.entries.Omits .hubUrl ∧
      (initial []).load [] file = some s ∧
      s.get "hub.url" (.scalar .null) ≠ SettingKey.default .hubUrl := by
  refine ⟨⟨[(.text "hub", .scalar .null)], 3, false⟩, _, by decide +kernel, .inr rfl, rfl, ?_⟩
  decide +kernel

end Settings

end GridGauge
