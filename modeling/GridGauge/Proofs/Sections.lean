import GridGauge.Settings
import GridGauge.Proofs.Merging

/-!
# The sections of a tree of settings

Every setting has its place in a section, and a tree of settings either has
no section of the name, or a mapping for it, or something else. In the first
two cases it is clear what the tree has for the setting (`Entries.Gives`).

Putting a setting in its place changes no other one (`Gives.set_of_ne`), even
where a section has to be made first, or takes the place of something else;
and merging a tree adds what the tree gives and changes nothing beyond
(`Gives.merge`). Settings are read from the defaults with all overrides merged
over them, and so are what the overrides give, or else the default
(`Settings.get_eq`).

All this is said of trees in which a section stands in one place
(`IsPlain`): where one mapping is there under two names, a change in one of
its places is a change in both.
-/

namespace GridGauge

namespace SettingKey

theorem mem_all (k : SettingKey) : k ∈ all := by
  cases k <;> decide

/-- A setting is known by its path. -/
theorem eq_of_path {k j : SettingKey} (hs : k.sectionName = j.sectionName)
    (hl : k.leafName = j.leafName) : k = j := by
  have : ∀ k ∈ all, ∀ j ∈ all, k.sectionName = j.sectionName → k.leafName = j.leafName → k = j := by
    decide
  exact this k k.mem_all j j.mem_all hs hl

theorem namesOfPath_name (k : SettingKey) : namesOfPath k.name = k.path := by
  cases k <;> decide

end SettingKey

namespace Entries

variable {es lower upper : Entries} {k j : SettingKey} {o : Option Setting}

/-! ## Sections -/

/-- The tree has no key twice, and neither have its sections, which are in one place each. -/
structure IsPlain (es : Entries) : Prop where
  keys : es.KeysDistinct
  sections : ∀ (k : SettingKey) (mark : Option Mark) (inner : Entries),
    es.named? k.sectionName = some (.mapping mark inner) → mark = none ∧ inner.KeysDistinct

/-- What a tree has for a setting, where its section is absent or a mapping. -/
inductive Gives (es : Entries) (k : SettingKey) : Option Setting → Prop
  | absent (h : es.named? k.sectionName = none) : Gives es k none
  | within {inner : Entries} (h : es.named? k.sectionName = some (.ofEntries inner)) :
      Gives es k (inner.named? k.leafName)

theorem isPlain_nil : IsPlain [] := ⟨Bindings.keysDistinct_nil, nofun⟩

theorem gives_nil : Gives [] k none := .absent rfl

/-- The section of a setting; it is empty where there is no mapping. -/
def sectionOf (es : Entries) (k : SettingKey) : Entries :=
  match es.named? k.sectionName with
  | some (.mapping _ inner) => inner
  | _ => []

theorem sectionOf_of_named? {mark : Option Mark} {inner : Entries}
    (h : es.named? k.sectionName = some (.mapping mark inner)) : es.sectionOf k = inner := by
  rw [sectionOf, h]

theorem sectionOf_eq_nil (h : ∀ mark inner, es.named? k.sectionName ≠ some (.mapping mark inner)) :
    es.sectionOf k = [] := by
  unfold sectionOf
  split
  · next mark inner hs => exact absurd hs (h mark inner)
  · rfl

theorem sectionOf_congr (h : j.sectionName = k.sectionName) : es.sectionOf j = es.sectionOf k := by
  rw [sectionOf, sectionOf, h]

theorem Gives.sectionOf (h : es.Gives k o) : (es.sectionOf k).named? k.leafName = o := by
  cases h with
  | absent h => rw [Entries.sectionOf, h]; rfl
  | within h => rw [sectionOf_of_named? h]

/-- In sections that are in one place a setting is put in one place. -/
theorem IsPlain.setShared (h : es.IsPlain) (v : Setting) :
    es.setShared v k.path = es.put (.text k.sectionName)
      (.ofEntries ((es.sectionOf k).put (.text k.leafName) v)) := by
  have single : es.set v k.path = es.put (.text k.sectionName)
      (.ofEntries ((es.sectionOf k).put (.text k.leafName) v)) := by
    rw [SettingKey.path, Entries.set.eq_3 _ _ _ _ (by simp)]
    split
    · next mark inner hs =>
      obtain ⟨rfl, -⟩ := h.sections k mark inner hs
      rw [sectionOf_of_named? hs]
      rfl
    · next hs =>
      rw [sectionOf_eq_nil hs]
      rfl
  -- No section is marked, so that there is no other place to be changed too.
  have unmarked : es.innermostMark k.path = none := by
    rw [SettingKey.path, innermostMark.eq_3 _ _ _ (by simp)]
    split
    · next mark inner hs =>
      obtain ⟨rfl, -⟩ := h.sections k mark inner hs
      rfl
    · rfl
  rw [Entries.setShared, unmarked, single]

theorem IsPlain.sectionOf (h : es.IsPlain) (k : SettingKey) : (es.sectionOf k).KeysDistinct := by
  unfold Entries.sectionOf
  split
  · next mark inner hs => exact (h.sections k mark inner hs).2
  · exact Bindings.keysDistinct_nil

/-- Putting a setting in its place keeps the tree plain. -/
theorem IsPlain.set (h : es.IsPlain) (v : Setting) (j : SettingKey) :
    (es.setShared v j.path).IsPlain := by
  rw [h.setShared]
  refine ⟨h.keys.put _ _, fun k mark inner hs => ?_⟩
  rw [named?_put] at hs
  split at hs
  · cases hs
    exact ⟨rfl, (h.sectionOf j).put _ _⟩
  · exact h.sections k mark inner hs

/-! ## One setting -/

/-- What is put in its place is there. -/
theorem IsPlain.gives_set (h : es.IsPlain) (v : Setting) (k : SettingKey) :
    (es.setShared v k.path).Gives k (some v) := by
  have placed : (es.setShared v k.path).named? k.sectionName =
      some (.ofEntries ((es.sectionOf k).put (.text k.leafName) v)) := by
    rw [h.setShared, named?_put, if_pos rfl]
  have := Gives.within placed
  rwa [named?_put, if_pos rfl] at this

/-- Putting a setting in its place leaves all others alone, those in its section included. -/
theorem Gives.set_of_ne (hg : es.Gives k o) (h : es.IsPlain) (hne : k ≠ j) (v : Setting) :
    (es.setShared v j.path).Gives k o := by
  rw [h.setShared]
  have there := named?_put es j.sectionName k.sectionName
    (.ofEntries ((es.sectionOf j).put (.text j.leafName) v))
  by_cases hs : j.sectionName = k.sectionName
  · -- In the same section it is the last name that tells the settings apart.
    have hl : j.leafName ≠ k.leafName := fun hl => hne (SettingKey.eq_of_path hs hl).symm
    have value : Entries.named? ((es.sectionOf j).put (.text j.leafName) v) k.leafName = o := by
      rw [named?_put, if_neg hl, sectionOf_congr hs, hg.sectionOf]
    rw [if_pos hs] at there
    exact value ▸ .within there
  · rw [if_neg hs] at there
    cases hg with
    | absent h' => exact .absent (there.trans h')
    | within h' => exact .within (there.trans h')

/-! ## Merged trees -/

theorem named?_merge (hu : upper.KeysDistinct) (name : Text) :
    (lower.merge upper).named? name =
      ((upper.named? name).map fun v => v.over (lower.named? name)).or (lower.named? name) :=
  find?_merge hu _

/-- Merging plain trees makes a plain tree. -/
theorem IsPlain.merge (hl : lower.IsPlain) (hu : upper.IsPlain) : (lower.merge upper).IsPlain := by
  refine ⟨keysDistinct_merge hl.keys, fun k mark inner hs => ?_⟩
  rw [named?_merge hu.keys] at hs
  cases hk : upper.named? k.sectionName with
  | none =>
    rw [hk] at hs
    exact hl.sections k mark inner hs
  | some v =>
    rw [hk] at hs
    cases v with
    | mapping mark' outer =>
      obtain ⟨rfl, hd⟩ := hu.sections k mark' outer hk
      cases hw : lower.named? k.sectionName with
      | none =>
        rw [hw] at hs
        cases hs
        exact ⟨rfl, hd⟩
      | some w =>
        rw [hw] at hs
        cases w with
        | mapping mark'' below =>
          cases hs
          exact ⟨rfl, keysDistinct_merge (hl.sections k mark'' below hw).2⟩
        | _ => cases hs; exact ⟨rfl, hd⟩
    | _ => cases hs

/-- Merging adds what the upper tree gives to what the lower one gives. -/
theorem Gives.merge {o' : Option Setting} (hl : lower.Gives k o') (hu : upper.Gives k o)
    (hp : upper.IsPlain) : (lower.merge upper).Gives k ((o.map fun v => v.over o').or o') := by
  have there : (lower.merge upper).named? k.sectionName = _ := named?_merge hp.keys _
  cases hu with
  | absent hu =>
    rw [hu] at there
    cases hl with
    | absent hl => exact .absent (there.trans hl)
    | within hl => exact .within (there.trans hl)
  | within hu =>
    rename_i outer
    rw [hu] at there
    cases hl with
    | absent hl =>
      rw [hl] at there
      have := Gives.within (there.trans (congrArg some (Setting.over_none _)))
      simpa using this
    | within hl =>
      rename_i inner
      rw [hl] at there
      have := Gives.within (there.trans (congrArg some (Setting.mapping_over_mapping _ _ _ _)))
      rwa [named?_merge (hp.sections k none outer hu).2] at this

/-! ## Trees of settings that have been put in -/

/-- The tree consists of sections, and no setting in them is a mapping. -/
def IsShallow (es : Entries) : Prop :=
  ∀ key v, es.find? key = some v → ∃ (k : SettingKey) (inner : Entries),
    (Scalar.text k.sectionName == key) = true ∧ v = .ofEntries inner ∧
      ∀ key w mark below, inner.find? key = some w → w ≠ .mapping mark below

theorem isShallow_nil : IsShallow [] := nofun

theorem eq_text_of_beq {name : Text} {key : Scalar} (h : (Scalar.text name == key) = true) :
    key = .text name :=
  Scalar.eq_of_identity_eq_itself (Scalar.beq_iff_identity_eq.1 h).symm

/-- Laying a plain tree over a shallow one never goes deeper than its sections. -/
theorem mergeEndless_eq (hl : lower.IsShallow) (hu : upper.IsPlain) :
    lower.mergeEndless upper = some (lower.merge upper) := by
  refine mergeWithin_eq hu.keys fun e he l inner u outer hinner houter => ?_
  obtain ⟨k, below, hk, hbelow, hleaf⟩ := hl _ _ hinner
  cases hbelow
  have hkey := eq_text_of_beq hk
  have hsection := Bindings.find?_of_mem hu.keys he
  -- One step down there is no mapping in the lower tree, and so nothing to merge with.
  rw [hkey, houter] at hsection
  obtain ⟨rfl, hd⟩ := hu.sections k u outer hsection
  exact mergeWithin_eq hd fun e' _ l' inner' _ _ hinner' _ =>
    absurd rfl (hleaf _ _ l' inner' hinner')

/-- Putting in a setting that is no mapping keeps a tree shallow. -/
theorem IsShallow.set (h : es.IsShallow) (hp : es.IsPlain) {v : Setting}
    (hv : ∀ mark inner, v ≠ .mapping mark inner) (j : SettingKey) :
    (es.setShared v j.path).IsShallow := by
  rw [hp.setShared]
  intro key w hw
  rw [Bindings.find?_put] at hw
  split at hw
  · next hkey =>
    cases hw
    refine ⟨j, _, hkey, rfl, fun key' w' mark below hw' => ?_⟩
    rw [Bindings.find?_put] at hw'
    split at hw'
    · cases hw'
      exact hv mark below
    · unfold sectionOf at hw'
      split at hw'
      · next mark' inner hs =>
        obtain ⟨-, inner', -, hinner, hleaf⟩ := h _ _ hs
        cases hinner
        exact hleaf key' w' mark below hw'
      · cases hw'
  · exact h key w hw

end Entries

/-! ## Many settings at once -/

namespace Settings

open Entries

variable {s : Settings} {k : SettingKey} {v : Setting} {o : Option Setting}

/-- The settings with values put in one after the other. -/
def setAll (s : Settings) (values : Bindings SettingKey Setting) : Settings :=
  values.foldl (fun s kv => s.set kv.1.path kv.2) s

theorem setAll_cons (s : Settings) (kv : SettingKey × Setting)
    (values : Bindings SettingKey Setting) :
    s.setAll (kv :: values) = (s.set kv.1.path kv.2).setAll values := rfl

theorem isPlain_setAll (h : s.overrides.IsPlain) (values : Bindings SettingKey Setting) :
    (s.setAll values).overrides.IsPlain := by
  induction values generalizing s with
  | nil => exact h
  | cons kv values ih => exact ih (s := s.set kv.1.path kv.2) (h.set kv.2 kv.1)

/-- What is not put in stays as it is. -/
theorem gives_setAll_of_not_mem {values : Bindings SettingKey Setting} (h : s.overrides.IsPlain)
    (hg : s.overrides.Gives k o) (hk : ∀ v, (k, v) ∉ values) :
    (s.setAll values).overrides.Gives k o := by
  induction values generalizing s with
  | nil => exact hg
  | cons kv values ih =>
    refine ih (s := s.set kv.1.path kv.2) (h.set kv.2 kv.1) ?_ fun v hv =>
      hk v (List.mem_cons_of_mem _ hv)
    refine hg.set_of_ne h (fun hkv => ?_) kv.2
    exact hk kv.2 (hkv ▸ List.mem_cons_self)

/-- What is put in, and put in once, is there at the end. -/
theorem gives_setAll {values : Bindings SettingKey Setting} (h : s.overrides.IsPlain)
    (hd : values.KeysDistinct) (hk : (k, v) ∈ values) :
    (s.setAll values).overrides.Gives k (some v) := by
  induction values generalizing s with
  | nil => cases hk
  | cons kv values ih =>
    obtain ⟨hne, hd⟩ := Bindings.keysDistinct_cons.1 hd
    rw [setAll_cons]
    rcases List.mem_cons.1 hk with rfl | hk
    · refine gives_setAll_of_not_mem (h.set v k) (h.gives_set v k) fun w hw => ?_
      have := hne _ hw
      simp at this
    · exact ih (s := s.set kv.1.path kv.2) (h.set kv.2 kv.1) hd hk

theorem isShallow_setAll {values : Bindings SettingKey Setting} (hs : s.overrides.IsShallow)
    (hp : s.overrides.IsPlain)
    (hv : ∀ kv ∈ values, ∀ mark inner, kv.2 ≠ .mapping mark inner) :
    (s.setAll values).overrides.IsShallow := by
  induction values generalizing s with
  | nil => exact hs
  | cons kv values ih =>
    exact ih (s := s.set kv.1.path kv.2) (hs.set hp (hv kv List.mem_cons_self) kv.1)
      (hp.set kv.2 kv.1) fun kv' hkv' => hv kv' (List.mem_cons_of_mem _ hkv')

theorem marks_setAll (s : Settings) (values : Bindings SettingKey Setting) :
    (s.setAll values).marks = s.marks := by
  induction values generalizing s with
  | nil => rfl
  | cons kv values ih => exact ih _

end Settings

/-! ## The defaults -/

theorem defaultEntries_eq : defaultEntries =
    (Settings.setAll ⟨[], 0, false⟩ (SettingKey.all.map fun k => (k, k.default))).overrides := rfl

theorem SettingKey.default_not_mapping (k : SettingKey) (mark : Option Mark) (inner : Entries) :
    k.default ≠ .mapping mark inner := by
  cases k <;> nofun

theorem isShallow_defaultEntries : defaultEntries.IsShallow := by
  rw [defaultEntries_eq]
  refine Settings.isShallow_setAll Entries.isShallow_nil Entries.isPlain_nil ?_
  intro kv hkv
  obtain ⟨k, -, rfl⟩ := List.mem_map.1 hkv
  exact k.default_not_mapping

theorem gives_defaultEntries (k : SettingKey) : defaultEntries.Gives k (some k.default) := by
  rw [defaultEntries_eq]
  exact Settings.gives_setAll Entries.isPlain_nil (by decide)
    (List.mem_map.2 ⟨k, k.mem_all, rfl⟩)

namespace Settings

open Entries

variable {s : Settings} {k : SettingKey} {v : Setting} {o : Option Setting}

theorem tree_eq (h : s.overrides.IsPlain) : s.tree = defaultEntries.merge s.overrides := by
  rw [tree, mergeEndless_eq isShallow_defaultEntries h]
  split <;> rfl

/-- A setting is read as the tree gives it, and as its default where the tree gives none. -/
theorem get_eq (h : s.overrides.IsPlain) (hg : s.overrides.Gives k o) (otherwise : Setting) :
    s.get k.name otherwise = o.getD k.default := by
  have whole := (gives_defaultEntries k).merge hg h
  have value : (o.map fun v => v.over (some k.default)).or (some k.default) =
      some (o.getD k.default) := by
    cases o with
    | none => rfl
    | some v =>
      -- Defaults are no mappings, so that what is given is not merged with them.
      refine congrArg some (Setting.over_eq_self fun l inner u outer hd => ?_)
      exact absurd (Option.some.inj hd) (k.default_not_mapping l inner)
  rw [value] at whole
  have found : s.at? k.path = some (o.getD k.default) := by
    rw [at?, tree_eq h]
    generalize hw : some (o.getD k.default) = w at whole ⊢
    cases whole with
    | absent _ => cases hw
    | within hs =>
      rw [SettingKey.path, Entries.at?.eq_3 _ _ _ (by simp), hs]
      rfl
  rw [get, SettingKey.namesOfPath_name, found]
  rfl

end Settings

end GridGauge
