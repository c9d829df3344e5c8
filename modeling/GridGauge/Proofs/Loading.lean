import GridGauge.Proofs.Faults
import GridGauge.Proofs.Laying

/-!
# Loading a file of settings

Loading a file is all or nothing. Either it sets nothing, and the settings are
what they were; or the tree of the file has been laid over all that was set,
and the environment over that (`Settings.IsLoadedFrom`).

Only that it comes to one of these is not so. Some flaws of a file are no
reason to go on without it, but stop the program (`Settings.Stops`): bytes
that are those of no text, of which it is not said that they cannot be read; a
path that is too long to be looked for; a working directory that is not there
any more, or a home directory that nothing is known of, where they have to be
searched; a scalar that is written like a number, a date or a time, or has the
tag of one, and is none; an escape with the number of no code point; nodes that
are nested too deep; and mappings that are inside of themselves both in the
file and in what has been set.
-/

namespace GridGauge

/-! ## Keys -/

namespace Setting

variable {v w : Setting} {number : Nat} {path : List Text}

theorem setMarkedItems_eq_map (number : Nat) (w : Setting) (path : List Text)
    (items : List Setting) :
    setMarkedItems number w path items = items.map (setMarked number w path) := by
  induction items with
  | nil => rfl
  | cons v items ih => rw [setMarkedItems, ih, List.map_cons]

theorem HasDistinctKeys.setMarked (hv : v.HasDistinctKeys) (hw : w.HasDistinctKeys) (number : Nat)
    (path : List Text) : (Setting.setMarked number w path v).HasDistinctKeys := by
  induction hv with
  | scalar => exact .scalar
  | again => exact .again
  | sequence _ ih =>
    rw [Setting.setMarked, setMarkedItems_eq_map]
    refine .sequence fun v hv => ?_
    obtain ⟨v', hv', rfl⟩ := List.mem_map.1 hv
    exact ih v' hv'
  | @mapping mark es hkeys _ ih =>
    have hes : Entries.HasDistinctKeys (Entries.setMarked number w path es) := by
      rw [Entries.setMarked_eq_map]
      refine ⟨hkeys.mapValues _, fun e he => ?_⟩
      obtain ⟨e', he', rfl⟩ := List.mem_map.1 he
      exact ih e' he'
    rw [Setting.setMarked]
    split
    · exact .mapping (hes.set hw path).keys (hes.set hw path).inside
    · exact .mapping hes.keys hes.inside
  | pair _ _ ihk ihv =>
    rw [Setting.setMarked]
    exact .pair ihk ihv
  | set =>
    rw [Setting.setMarked]
    exact .set

end Setting

namespace Entries

theorem HasDistinctKeys.setShared {es : Entries} {v : Setting} (h : es.HasDistinctKeys)
    (hv : v.HasDistinctKeys) (path : List Text) : (es.setShared v path).HasDistinctKeys := by
  unfold Entries.setShared
  split
  · exact h.set hv path
  · next number path _ =>
    rw [setMarked_eq_map]
    refine ⟨h.keys.mapValues _, fun e he => ?_⟩
    obtain ⟨e', he', rfl⟩ := List.mem_map.1 he
    exact (h.inside e' he').setMarked hv number path

end Entries

namespace Settings

open Entries

variable {s : Settings} {files : Files} {path : Option Text} {first : Nat} {env : Environment}

theorem hasDistinctKeys_setAll {values : Bindings SettingKey Setting}
    (h : s.overrides.HasDistinctKeys) (hv : ∀ kv ∈ values, kv.2.HasDistinctKeys) :
    (s.setAll values).overrides.HasDistinctKeys := by
  induction values generalizing s with
  | nil => exact h
  | cons kv values ih =>
    rw [setAll_cons]
    have hfirst := h.setShared (hv kv List.mem_cons_self) kv.1.path
    exact ih hfirst fun kv' hkv' => hv kv' (List.mem_cons_of_mem _ hkv')

/-! ## The file that is loaded -/

/-- Does the path lead to something, or is it too long to tell? -/
def isFound (files : Files) (p : Text) : Bool :=
  match files.read (Files.tidy p) with
  | .ok _ | .error .tooLong => true
  | .error _ => false

/-- The path that is loaded: the first that leads to something, of those that are looked for. -/
def chosen? (files : Files) (path : Option Text) : Option Text :=
  ((candidates files path).toOption.getD []).find? (isFound files)

/-- The file that is loaded holds these bytes. -/
def IsChosen (files : Files) (path : Option Text) (content : Bytes) : Prop :=
  ∃ p, chosen? files path = some p ∧ files.read (Files.tidy p) = .ok (.file content)

theorem ofContent_ne_missing (first : Nat) (p : Text) (content : Bytes) :
    ofContent first p content ≠ .missing := by
  unfold ofContent
  dsimp only
  split
  · next e _ =>
    unfold ofFailure
    split
    all_goals try split
    all_goals exact nofun
  · exact nofun
  · exact nofun

/-- Only a path that leads to nothing is passed over. -/
theorem loadPath_eq_missing_iff {p : Text} :
    loadPath first files p = .missing ↔ isFound files p = false := by
  unfold loadPath isFound
  dsimp only
  split
  · next h => rw [h]; exact iff_of_false nofun nofun
  · next fault hne h =>
    rw [h]
    cases fault with
    | tooLong => exact absurd rfl hne
    | _ => exact iff_of_true rfl rfl
  · next h => rw [h]; exact iff_of_false nofun nofun
  · next content h => rw [h]; exact iff_of_false (ofContent_ne_missing _ _ _) nofun

theorem loadFirst_eq (first : Nat) (files : Files) (paths : List Text) :
    loadFirst first files paths
      = (paths.find? (isFound files)).elim .missing (loadPath first files) := by
  induction paths with
  | nil => rfl
  | cons p paths ih =>
    rw [loadFirst, List.find?_cons]
    cases hfound : isFound files p with
    | false => rw [loadPath_eq_missing_iff.2 hfound]; exact ih
    | true =>
      split
      · next hmissing =>
        rw [loadPath_eq_missing_iff.1 hmissing] at hfound
        cases hfound
      · rfl

/-- Loading is loading the path that is chosen, if there is one, once it is known where to look. -/
theorem loadFrom_eq (first : Nat) (files : Files) (path : Option Text) :
    loadFrom first files path = match candidates files path with
      | .ok _ => (chosen? files path).elim .missing (loadPath first files)
      | .error e => .stops (.path e) := by
  rw [loadFrom, chosen?]
  cases candidates files path with
  | ok paths => exact loadFirst_eq first files paths
  | error e => rfl

/-- Where a path is chosen, that is the one that is loaded. -/
theorem loadFrom_of_chosen {p : Text} (hp : chosen? files path = some p) :
    loadFrom first files path = loadPath first files p := by
  rw [loadFrom_eq]
  cases hpaths : candidates files path with
  | ok paths => rw [hp]; rfl
  | error e =>
    rw [chosen?, hpaths] at hp
    cases hp

/-- Where to look is not known if the working directory or the home directory is not. -/
theorem candidates_eq_error_iff {e : FileError} : candidates files path = .error e ↔
    path = none ∧ (files.at? files.cwd ≠ some .directory ∧ e = .noCwd ∨
      files.at? files.cwd = some .directory ∧ files.home.head? = some 0x7E ∧ e = .noHome) := by
  cases path with
  | some p => exact ⟨nofun, fun h => nomatch h.1⟩
  | none =>
    rw [candidates, searchPaths, Files.isDirectory, Files.inHome, Files.homePath]
    by_cases hcwd : files.at? files.cwd = some .directory
    · rw [if_pos (beq_iff_eq.2 hcwd)]
      by_cases hhome : files.home.head? = some 0x7E
      · rw [if_pos (beq_iff_eq.2 hhome)]
        simp only [Except.map, Except.error.injEq, hcwd, hhome, ne_eq, not_true, false_and, true_and,
          false_or]
        exact eq_comm
      · rw [if_neg (mt beq_iff_eq.1 hhome)]
        exact iff_of_false nofun fun h => h.2.elim (fun h => h.1 hcwd) fun h => hhome h.2.1
    · rw [if_neg (mt beq_iff_eq.1 hcwd)]
      simp only [Except.error.injEq, hcwd, ne_eq, not_false_eq_true, true_and, false_and, or_false]
      exact eq_comm

/-! ## What stops the program -/

/-- What the text of a file sets, as far as it can be read. -/
def readContent (first : Nat) (content : Bytes) : Except Yaml.Failure Yaml.Outcome :=
  Yaml.read first (Yaml.Source.ofBytes content).obstacle.isSome (Yaml.Source.ofBytes content).text

theorem ofContent_of_error {content : Bytes} {e : Yaml.Failure}
    (h : readContent first content = .error e) (p : Text) :
    ofContent first p content = ofFailure p (Yaml.Source.ofBytes content).obstacle e := by
  unfold readContent at h
  unfold ofContent
  simp only [h]

/-- What is wrong with the text of the file that is loaded decides what comes of it. -/
theorem IsChosen.exists_loadFrom_eq {content : Bytes} {e : Yaml.Failure}
    (hc : IsChosen files path content) (h : readContent first content = .error e) :
    ∃ p, loadFrom first files path = ofFailure p (Yaml.Source.ofBytes content).obstacle e := by
  obtain ⟨p, hp, hread⟩ := hc
  refine ⟨Files.tidy p, ?_⟩
  rw [loadFrom_of_chosen hp, loadPath, hread]
  exact ofContent_of_error h _

/-- What stops the program when a file is loaded over settings. -/
inductive Stops (s : Settings) (files : Files) (path : Option Text) : FileFlaw → Prop
  /-- A file is to be searched for, and the working directory is not there any more. -/
  | noCwd (hpath : path = none) (h : files.at? files.cwd ≠ some .directory) :
      Stops s files path (.path .noCwd)
  /-- A file is to be searched for, and nothing is known of the home directory. -/
  | noHome (hpath : path = none) (hcwd : files.at? files.cwd = some .directory)
      (h : files.home.head? = some 0x7E) : Stops s files path (.path .noHome)
  /-- The path is too long to be looked for. -/
  | tooLong {p : Text} (hp : chosen? files path = some p)
      (h : files.read (Files.tidy p) = .error .tooLong) :
      Stops s files path (.path (.fault .tooLong (Files.tidy p)))
  /-- The bytes of the file are those of no text, and nothing else is wrong before the fault. -/
  | notText {content : Bytes} {fault : EncodingFault} (hc : IsChosen files path content)
      (ht : ∀ t : Text, t.IsScalar → Utf8.encode t ≠ content)
      (hfault : (Yaml.Source.ofBytes content).obstacle = some (.encoding fault))
      (h : readContent s.marks content = .error .ended) : Stops s files path (.encoding fault)
  /-- A scalar in the text of the file is broken. -/
  | scalar {content : Bytes} {e : Yaml.ScalarError} (hc : IsChosen files path content)
      (h : readContent s.marks content = .error (.scalar e)) : Stops s files path (.scalar e)
  /-- An escape in the text of the file has a number that no code point has. -/
  | noCodePoint {content : Bytes} {code : Nat} (hc : IsChosen files path content)
      (h : readContent s.marks content = .error (.noCodePoint code)) :
      Stops s files path (.noCodePoint code)
  /-- Nodes in the text of the file are nested too deep. -/
  | tooDeep {content : Bytes} (hc : IsChosen files path content)
      (h : readContent s.marks content = .error .tooDeep) : Stops s files path .tooDeep
  /-- In what has been set and in the file the same keys lead from mapping to mapping, too often. -/
  | endless {file : FileTree} (h : loadFrom s.marks files path = .tree file)
      (hloops : (s.loops || file.loops) = true)
      (hdeep : Entwined mergeLimit s.overrides file.entries) : Stops s files path .endless

/-- What stops the program, unless it is that a tree has no end, comes of the file alone. -/
theorem Stops.loadFrom {flaw : FileFlaw} (h : s.Stops files path flaw) :
    loadFrom s.marks files path = .stops flaw ∨
      flaw = .endless ∧ ∃ file, Settings.loadFrom s.marks files path = .tree file ∧
        (s.loops || file.loops) = true ∧ Entwined mergeLimit s.overrides file.entries := by
  cases h with
  | noCwd hpath h =>
    left
    rw [loadFrom_eq, candidates_eq_error_iff.2 ⟨hpath, .inl ⟨h, rfl⟩⟩]
  | noHome hpath hcwd h =>
    left
    rw [loadFrom_eq, candidates_eq_error_iff.2 ⟨hpath, .inr ⟨hcwd, h, rfl⟩⟩]
  | tooLong hp h =>
    left
    rw [loadFrom_of_chosen hp, loadPath, h]
  | notText hc _ hfault h =>
    left
    obtain ⟨p, hp⟩ := hc.exists_loadFrom_eq h
    rw [hp, hfault]
    rfl
  | scalar hc h =>
    left
    obtain ⟨p, hp⟩ := hc.exists_loadFrom_eq h
    exact hp
  | noCodePoint hc h =>
    left
    obtain ⟨p, hp⟩ := hc.exists_loadFrom_eq h
    exact hp
  | tooDeep hc h =>
    left
    obtain ⟨p, hp⟩ := hc.exists_loadFrom_eq h
    exact hp
  | endless h hloops hdeep => exact .inr ⟨rfl, _, h, hloops, hdeep⟩

/-- The settings after the tree of a file has been laid over all that was set, and what the
    environment says over that. -/
structure IsLoadedFrom (s' s : Settings) (env : Environment) (file : FileTree) : Prop where
  laid : ∃ merged : Entries,
    Entries.Laid (s.loops || file.loops) s.overrides file.entries merged ∧
      s' = (Settings.mk merged file.marks (s.loops || file.loops)).applyEnvironment env
  /-- No key comes twice. -/
  keys : s'.overrides.HasDistinctKeys
  /-- What the environment says is read. -/
  said : ∀ k v, env.Says k v → ∀ otherwise, s'.get k.name otherwise = v

theorem isLoadedFrom {merged : Entries} {file : FileTree}
    (hlaid : Entries.Laid (s.loops || file.loops) s.overrides file.entries merged)
    (hkeys : merged.HasDistinctKeys) :
    IsLoadedFrom ((Settings.mk merged file.marks (s.loops || file.loops)).applyEnvironment env) s
      env file := by
  have hdistinct := (Environment.keysDistinct_offers env).given
  have hset : (setAll ⟨merged, file.marks, s.loops || file.loops⟩
      env.settings).overrides.HasDistinctKeys := by
    refine hasDistinctKeys_setAll hkeys fun kv hkv => ?_
    obtain ⟨c, hc⟩ := (Environment.mem_settings.1 hkv).exists_scalar
    exact hc ▸ .scalar
  refine ⟨⟨merged, hlaid, rfl⟩, hset, fun k v hv otherwise => ?_⟩
  obtain ⟨c, rfl⟩ := hv.exists_scalar
  exact get_of_holds hset.isTidy (holds_setAll hdistinct (Environment.mem_settings.2 hv)) otherwise

/-- A tree is loaded unless it and what has been set have no end where they meet. -/
theorem load_cases {file : FileTree} (hs : s.overrides.HasDistinctKeys)
    (hfile : file.entries.HasDistinctKeys) (env : Environment) :
    (s.load env file = none ↔
        (s.loops || file.loops) = true ∧ Entwined mergeLimit s.overrides file.entries) ∧
      ∀ s', s.load env file = some s' → s'.IsLoadedFrom s env file := by
  obtain ⟨hnone, hsome⟩ := merging_spec (s.loops || file.loops) hs hfile
  refine ⟨Option.map_eq_none_iff.trans hnone, fun s' hs' => ?_⟩
  obtain ⟨merged, hmerged, rfl⟩ := Option.map_eq_some_iff.1 hs'
  obtain ⟨hlaid, hkeys⟩ := hsome merged hmerged
  exact isLoadedFrom hlaid hkeys

/-- What is set when the program starts has no key twice. -/
theorem hasDistinctKeys_initial (env : Environment) :
    (initial env).overrides.HasDistinctKeys := by
  refine hasDistinctKeys_setAll (s := ⟨[], 0, false⟩) ⟨Bindings.keysDistinct_nil, nofun⟩ ?_
  intro kv hkv
  obtain ⟨c, hc⟩ := (Environment.mem_settings.1 hkv).exists_scalar
  exact hc ▸ .scalar

end Settings

namespace Program

open Settings

variable {s : Settings}

end Program

end GridGauge
