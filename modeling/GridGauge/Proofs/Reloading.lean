import GridGauge.Proofs.Loading
import GridGauge.Proofs.Marks
import GridGauge.Proofs.Numbering

/-!
# Loading a file again

What the environment says can be merged in as a tree of its own, which holds
it and nothing else (`Settings.unmarked_setAll`): its settings are put into
sections, and whatever else is in the place of a section makes room for one,
as it does when a mapping is laid over it. So to load a file is to merge two
trees in, that of the file and that of the environment, and to load it again is
to merge the same two in again in turn, which changes nothing.

Nor does it change the order of the keys. Only marks may be lost, which do not
count for what is read where all that was set is in one place
(`Program.reloading_changes_nothing`).

A key that is the same only as itself is another key each time the file is
loaded, and so comes to be there as often as the file has been loaded
(`Program.own_key_comes_again`).
-/

namespace GridGauge

/-! ## Putting in and merging -/

namespace Entries

variable {lower upper : Entries} {name : Text}

/-- To bind a key before merging is to bind it afterwards, to what comes of laying its value over
    what was there. -/
theorem merge_put (hl : lower.KeysDistinct) (hu : upper.KeysDistinct) (key : Scalar)
    (v : Setting) :
    lower.merge (upper.put key v) = (lower.merge upper).put key (v.over (lower.find? key)) := by
  refine Bindings.eq_of_keys (keysDistinct_merge hl) ?_ fun other => ?_
  · rw [keys_merge (hu.put key v), Bindings.keys_put, Bindings.keys_put, has_merge hu,
      keys_merge hu]
    cases upper.has key with
    | true => rw [if_pos rfl, Bool.or_true, if_pos rfl]
    | false =>
      rw [if_neg Bool.false_ne_true, Bool.or_false, List.filter_append, ← List.append_assoc]
      cases hkey : lower.has key <;> simp [hkey]
  · rw [find?_merge_eq_overlay (hu.put key v), Bindings.find?_put, Bindings.find?_put,
      find?_merge_eq_overlay hu]
    by_cases hkey : (key == other) = true
    · rw [if_pos hkey, if_pos hkey, Setting.overlay_some, Bindings.find?_congr lower hkey]
    · rw [if_neg hkey, if_neg hkey]

/-- Below a name a merged tree is merged from what the two trees have there, unless the upper one
    has something there that is no mapping. -/
theorem below_merge_of_mapping (hu : upper.HasDistinctKeys)
    (hw : ∀ w, upper.named? name = some w → ∃ mark inner, w = .mapping mark inner) :
    (lower.merge upper).below name = (lower.below name).merge (upper.below name) := by
  rw [below_eq_entriesOf, below_eq_entriesOf, below_eq_entriesOf, named?_merge hu.keys]
  cases hupper : upper.named? name with
  | none => rfl
  | some w =>
    obtain ⟨mark, inner, rfl⟩ := hw w hupper
    cases hu.of_find? hupper with
    | mapping hkeys _ => exact entriesOf_mapping_over hkeys _

/-- To put a scalar into a section before merging is to put it in afterwards, marks apart, unless
    the upper tree has something in the place of the section that is no mapping. -/
theorem unmarked_merge_set (hl : lower.HasDistinctKeys) (hu : upper.HasDistinctKeys)
    (hw : ∀ w, upper.named? name = some w → ∃ mark inner, w = .mapping mark inner)
    (c : Scalar) (leaf : Text) :
    unmarked (lower.merge (upper.set (.scalar c) [name, leaf]))
      = unmarked ((lower.merge upper).set (.scalar c) [name, leaf]) := by
  have hinner := merge_put (hl.below name).keys (hu.below name).keys (.text leaf) (.scalar c)
  have hkeys : ((upper.below name).set (.scalar c) [leaf]).KeysDistinct :=
    keysDistinct_set (hu.below name).keys _ _
  rw [set_cons, set_cons, merge_put hl.keys hu.keys, unmarked_put, unmarked_put,
    unmarked_mapping_over hkeys, Setting.unmarked, below_merge_of_mapping hu hw, ← named?,
    ← below_eq_entriesOf, set, hinner]
  rfl

end Entries

/-! ## What is in one place -/

theorem Setting.placesInItems_eq_zero {n : Nat} {items : List Setting}
    (h : ∀ v ∈ items, v.places n = 0) : Setting.placesInItems n items = 0 := by
  induction items with
  | nil => rfl
  | cons v items ih =>
    rw [Setting.placesInItems, h v List.mem_cons_self,
      ih fun v hv => h v (List.mem_cons_of_mem _ hv)]

theorem Entries.places_eq_zero {n : Nat} {es : Entries} (h : ∀ e ∈ es, e.2.places n = 0) :
    es.places n = 0 := by
  induction es with
  | nil => rfl
  | cons e es ih =>
    rw [Entries.places, h e List.mem_cons_self, ih fun e he => h e (List.mem_cons_of_mem _ he)]

/-- Where nothing is in several places there are no numbers. -/
theorem Setting.IsTree.places {v : Setting} (h : v.IsTree) (n : Nat) : v.places n = 0 := by
  induction h with
  | scalar s => rfl
  | sequence _ ih => exact placesInItems_eq_zero ih
  | mapping _ _ ih => exact (Nat.zero_add _).trans (Entries.places_eq_zero ih)
  | pair _ _ ihk ihv => rw [Setting.places, ihk, ihv]
  | set => rfl

theorem FileTree.IsTree.places {file : FileTree} (h : file.IsTree) (n : Nat) :
    file.entries.places n = 0 :=
  Entries.places_eq_zero fun e he => (h.entries e he).places n

/-- No default has a number. -/
theorem places_defaultEntries (n : Nat) : defaultEntries.places n = 0 := rfl

/-! ## What the environment says -/

namespace Settings

open Entries

variable {s s' t : Settings} {env : Environment} {file : FileTree}

/-- All that is set is in one place, and inside of nothing else. -/
structure IsUnshared (s : Settings) : Prop where
  loops : s.loops = false
  keys : s.overrides.HasDistinctKeys
  places : s.overrides.IsUnshared

theorem IsUnshared.set (h : s.IsUnshared) (path : List Text) (c : Scalar) :
    (s.set path (.scalar c)).overrides = s.overrides.set (.scalar c) path ∧
      (s.set path (.scalar c)).IsUnshared := by
  have hset := h.places.setShared_eq h.keys (.scalar c) path
  refine ⟨hset, h.loops, ?_, ?_⟩
  · exact h.keys.setShared .scalar path
  · rw [Settings.set, hset]
    exact h.places.set h.keys c path

/-- The settings have only sections, that is mappings of settings that are none. -/
structure IsSectioned (s : Settings) : Prop extends s.IsUnshared where
  plain : s.overrides.IsPlain
  shallow : s.overrides.IsShallow

theorem isSectioned_nil : IsSectioned ⟨[], 0, false⟩ where
  loops := rfl
  keys := ⟨Bindings.keysDistinct_nil, nofun⟩
  places := fun _ _ h => absurd h.one_le_places (Nat.not_succ_le_zero 0)
  plain := isPlain_nil
  shallow := isShallow_nil

theorem IsSectioned.set (h : s.IsSectioned) (k : SettingKey) (c : Scalar) :
    (s.set k.path (.scalar c)).IsSectioned where
  toIsUnshared := (h.toIsUnshared.set k.path c).2
  plain := h.plain.set _ k
  shallow := h.shallow.set h.plain (fun _ _ => by rintro ⟨⟩) k

/-- Scalars that are put in are merged in, marks apart, as the tree that they make on their own. -/
theorem unmarked_setAll {values : Bindings SettingKey Setting} (lower : Entries)
    (hvalues : ∀ kv ∈ values, ∃ c, kv.2 = .scalar c) (hlower : lower.HasDistinctKeys)
    (hs : s.IsUnshared) (ht : t.IsSectioned)
    (h : unmarked s.overrides = unmarked (lower.merge t.overrides)) :
    (s.setAll values).IsUnshared ∧ (t.setAll values).IsSectioned ∧
      unmarked (s.setAll values).overrides
        = unmarked (lower.merge (t.setAll values).overrides) := by
  induction values generalizing s t with
  | nil => exact ⟨hs, ht, h⟩
  | cons kv values ih =>
    obtain ⟨k, v⟩ := kv
    obtain ⟨c, hc⟩ := hvalues _ List.mem_cons_self
    cases hc
    obtain ⟨hset, hs'⟩ := hs.set k.path c
    rw [setAll_cons, setAll_cons]
    refine ih (fun kv hkv => hvalues kv (List.mem_cons_of_mem _ hkv)) hs' (ht.set k c) ?_
    have hsection : ∀ w, t.overrides.named? k.sectionName = some w →
        ∃ mark inner, w = .mapping mark inner := fun w hw => by
      obtain ⟨_, inner, -, rfl, -⟩ := ht.shallow _ _ hw
      exact ⟨none, inner, rfl⟩
    dsimp only
    rw [hset, (ht.toIsUnshared.set k.path c).1, SettingKey.path,
      unmarked_merge_set hlower ht.keys hsection, unmarked_set, unmarked_set, h]

/-- What the environment says is merged in as the tree of what is set from the start. -/
theorem IsUnshared.applyEnvironment (h : s.IsUnshared) (env : Environment) :
    (s.applyEnvironment env).IsUnshared ∧
      unmarked (s.applyEnvironment env).overrides
        = unmarked (s.overrides.merge (initial env).overrides) := by
  have hvalues : ∀ kv ∈ env.settings, ∃ c, kv.2 = .scalar c := fun kv hkv =>
    (Environment.mem_settings.1 hkv).exists_scalar
  have hset := unmarked_setAll s.overrides hvalues h.keys h isSectioned_nil rfl
  exact ⟨hset.1, hset.2.2⟩

/-! ## Loading -/

/-- To load a file without numbers is to merge in its tree, and the tree of what the environment
    says. -/
theorem IsUnshared.load (h : s.IsUnshared) (env : Environment)
    (hkeys : file.entries.HasDistinctKeys) (hfile : file.IsTree) :
    ∃ s', s.load env file = some s' ∧ s'.IsUnshared ∧ s'.marks = file.marks ∧
      unmarked s'.overrides
        = unmarked ((s.overrides.merge file.entries).merge (initial env).overrides) := by
  have hloops : (s.loops || file.loops) = false := by rw [h.loops, hfile.loops]; rfl
  have hmerged : (Settings.mk (s.overrides.merge file.entries) file.marks false).IsUnshared :=
    ⟨rfl, h.keys.merge hkeys, .merge h.keys hkeys (.inl ⟨h.places, hfile.places⟩)⟩
  refine ⟨_, ?_, (hmerged.applyEnvironment env).1, marks_setAll _ _,
    (hmerged.applyEnvironment env).2⟩
  rw [Settings.load, hloops]
  rfl

/-- To load the tree of a file once more changes nothing, marks apart. -/
theorem IsUnshared.load_again (h : s.IsUnshared) (env : Environment)
    (hkeys : file.entries.HasDistinctKeys) (hfile : file.IsTree) (hs' : s.load env file = some s')
    (marks : Nat) :
    ∃ s'', s'.load env { file with marks := marks } = some s'' ∧ s''.IsUnshared ∧
      unmarked s''.overrides = unmarked s'.overrides := by
  obtain ⟨_, hload, hunshared, -, hfirst⟩ := h.load env hkeys hfile
  cases hs'.symm.trans hload
  let again : FileTree := { file with marks := marks }
  have hkeys' : again.entries.HasDistinctKeys := hkeys
  have hfile' : again.IsTree := ⟨hfile.keys, hfile.entries, hfile.loops⟩
  obtain ⟨s'', hagain, hunshared', -, hsecond⟩ := hunshared.load env hkeys' hfile'
  refine ⟨s'', hagain, hunshared', ?_⟩
  rw [hsecond, unmarked_merge, unmarked_merge, hfirst, ← unmarked_merge, ← unmarked_merge,
    merge_merge_again h.keys hkeys (hasDistinctKeys_initial env)]

/-! ## What is read -/

theorem IsUnshared.tree (h : s.IsUnshared) : s.tree.IsUnshared ∧
    unmarked s.tree = (unmarked defaultEntries).merge (unmarked s.overrides) := by
  rw [Settings.tree, h.loops, if_neg Bool.false_ne_true]
  exact ⟨.merge hasDistinctKeys_defaultEntries h.keys (.inr ⟨places_defaultEntries, h.places⟩),
    unmarked_merge _ _⟩

/-- What is read does not depend on marks. -/
theorem IsUnshared.get_congr (h : s.IsUnshared) (h' : s'.IsUnshared)
    (hsame : unmarked s.overrides = unmarked s'.overrides) (path : Text) (otherwise : Setting) :
    (s.get path otherwise).unmarked = (s'.get path otherwise).unmarked := by
  have hat : (s.at? (namesOfPath path)).map Setting.unmarked
      = (s'.at? (namesOfPath path)).map Setting.unmarked := by
    rw [at?, at?, ← at?_unmarked fun n => h.tree.1 n _, ← at?_unmarked fun n => h'.tree.1 n _,
      h.tree.2, h'.tree.2, hsame]
  rw [get, get, ← Option.getD_map Setting.unmarked, hat, Option.getD_map]

end Settings

/-! ## The program -/

namespace Program

open Settings

/-- Where all that was set is in one place, a file in which nothing is in several places and no key
    is the same only as itself can be loaded, and to load it again changes nothing, marks apart:
    what is set has the same entries in the same order, and the same is read. -/
theorem reloading_changes_nothing (w : World) {s : Settings} (hs : s.IsUnshared)
    {path : Option Text} {file : FileTree} (hloaded : loadFrom s.marks w.files path = .tree file)
    (hfile : file.IsTree) :
    ∃ s' s'', settingsAfter w s (loadFrom s.marks w.files path) = .ok s' ∧
      isLoaded (loadFrom s'.marks w.files path) = true ∧
      settingsAfter w s' (loadFrom s'.marks w.files path) = .ok s'' ∧
      Entries.unmarked s''.overrides = Entries.unmarked s'.overrides ∧
      ∀ key otherwise, (s''.get key otherwise).unmarked = (s'.get key otherwise).unmarked := by
  have hkeys := hasDistinctKeys_of_loadFrom hloaded
  obtain ⟨s', hload, hunshared, hmarks, -⟩ := hs.load w.environment hkeys hfile
  obtain ⟨marks, hloaded'⟩ := loadFrom_of_isTree hloaded hfile
  rw [← hmarks] at hloaded'
  obtain ⟨s'', hload', hunshared', hsame⟩ := hs.load_again w.environment hkeys hfile hload marks
  refine ⟨s', s'', ?_, ?_, ?_, hsame, hunshared'.get_congr hunshared hsame⟩
  · rw [hloaded, settingsAfter, hload]
    rfl
  · rw [hloaded']
    rfl
  · rw [hloaded', settingsAfter, hload']
    rfl

/-- A file that leaves a section empty and has a mapping in the place of the port is loaded twice
    under an environment that sets something in the section, and the port. -/
theorem odd_file_reloaded :
    let text : Text := "hub:\nexporter: \x7bport: \x7bhttp: 1\x7d\x7d"
    let files : Files := ⟨[], [], [([], .directory), (["config.yaml"], .file (Utf8.encode text))]⟩
    let env : Environment :=
      [("GRID_EXPORTER_HUB", "http://b.test"), ("GRID_EXPORTER_PORT", "2")]
    let w : World := ⟨env, files, Hub.Server.ofRoutes [], .zero, ⟨"3.11.2", "linux", "x86_64"⟩, 80,
      fun _ => false, ⟨id, id, {}⟩, []⟩
    let s := initial env
    let file : FileTree := ⟨[(.text "hub", .scalar .null), (.text "exporter",
      .ofEntries [(.text "port", .ofEntries [(.text "http", .scalar (.int 1))])])], 9, false⟩
    s.IsUnshared ∧ loadFrom s.marks files none = .tree file ∧ file.IsTree ∧
      ∃ s' s'', settingsAfter w s (loadFrom s.marks files none) = .ok s' ∧
        settingsAfter w s' (loadFrom s'.marks files none) = .ok s'' ∧
        (s''.get "hub" (.scalar .null)).unmarked = (s'.get "hub" (.scalar .null)).unmarked := by
  intro text files env w s file
  have hs : s.IsUnshared := (isSectioned_nil.toIsUnshared.applyEnvironment env).1
  have hloaded : loadFrom s.marks files none = .tree file := by decide +kernel
  have hport : (Setting.ofEntries
      [(.text "port", .ofEntries [(.text "http", .scalar (.int 1))])]).IsTree :=
    .mapping (by decide) (by simpa using .mapping (by decide) (by simpa using .scalar _))
  have hfile : file.IsTree := by
    refine ⟨by decide, ?_, rfl⟩
    simp only [file, List.forall_mem_cons]
    exact ⟨.scalar _, hport, nofun⟩
  obtain ⟨s', s'', hfirst, -, hsecond, -, hread⟩ :=
    reloading_changes_nothing w hs hloaded hfile
  exact ⟨hs, hloaded, hfile, s', s'', hfirst, hsecond, hread "hub" _⟩

/-- A file has a key that a tag makes a number of, and it is none. When the file has been loaded
    twice there are two entries of it. -/
theorem own_key_comes_again :
    let files : Files := ⟨[], [],
      [([], .directory), (["config.yaml"], .file (Utf8.encode "? !!float nan\n: 1"))]⟩
    let w : World := ⟨[], files, Hub.Server.ofRoutes [], .zero, ⟨"3.11.2", "linux", "x86_64"⟩, 80,
      fun _ => false, ⟨id, id, {}⟩, []⟩
    let s := initial []
    ∃ s' s'', settingsAfter w s (loadFrom s.marks files none) = .ok s' ∧
      settingsAfter w s' (loadFrom s'.marks files none) = .ok s'' ∧
      s'.overrides.length = 1 ∧ s''.overrides.length = 2 := by
  intro files w s
  let one : Settings := ⟨[(.ownNaN 1, .scalar (.int 1))], 3, false⟩
  let two : Settings := ⟨[(.ownNaN 1, .scalar (.int 1)), (.ownNaN 4, .scalar (.int 1))], 6, false⟩
  have hone : loadFrom s.marks files none = .tree ⟨one.overrides, 3, false⟩ := by decide +kernel
  have htwo : loadFrom one.marks files none = .tree ⟨[(.ownNaN 4, .scalar (.int 1))], 6, false⟩ := by
    decide +kernel
  refine ⟨one, two, ?_, ?_, rfl, rfl⟩
  · rw [hone]
    rfl
  · rw [htwo]
    rfl

end Program

end GridGauge
