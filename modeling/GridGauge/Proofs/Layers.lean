import GridGauge.Program.Preparation
import GridGauge.Proofs.Sections

/-!
# Which layer settles a setting

A setting can be given by an option, by the environment, by a file and by its
default, and the first of these that gives it prevails (`Settled`). There is
no place where the four are compared: the file is merged over what is set, the
variables and the options are put into the tree at their paths, and the
defaults are laid under it when a setting is read.

That these come to the same rests on what each of them leaves alone. Putting a
setting in its place changes no other one (`Entries.Gives.set_of_ne`), and
merging a tree changes only what the tree gives (`Entries.Gives.merge`). So it
does not matter what else a file holds, nor whether it has something else in
the place of a section: a section that is no mapping is in the way of what the
file itself would give, but not of options and variables, which make a mapping
of it.
-/

namespace GridGauge

/-! ## Layers -/

namespace Bindings

variable {κ α : Type}

/-- The bindings whose values are given. -/
def given (bs : Bindings κ (Option α)) : Bindings κ α := bs.filterMap fun b => b.2.map (b.1, ·)

theorem mem_given {bs : Bindings κ (Option α)} {b : κ × α} :
    b ∈ bs.given ↔ (b.1, some b.2) ∈ bs := by
  rw [given, List.mem_filterMap]
  constructor
  · rintro ⟨⟨k, o⟩, hb, h⟩
    cases o with
    | none => cases h
    | some a => cases h; exact hb
  · exact fun hb => ⟨_, hb, rfl⟩

theorem KeysDistinct.given [BEq κ] {bs : Bindings κ (Option α)} (h : bs.KeysDistinct) :
    bs.given.KeysDistinct := by
  induction bs with
  | nil => exact keysDistinct_nil
  | cons b bs ih =>
    obtain ⟨k, o⟩ := b
    obtain ⟨hne, hd⟩ := keysDistinct_cons.1 h
    cases o with
    | none => exact ih hd
    | some a => exact keysDistinct_cons.2 ⟨fun b hb => hne _ (mem_given.1 hb), ih hd⟩

end Bindings

/-! ## The environment -/

namespace Environment

variable {env : Environment} {k : SettingKey} {v : Setting}

/-- What a variable of the environment says of a setting. A text of blanks says nothing, nor does
    one that holds no number where there should be one, nor zero. -/
inductive Says (env : Environment) : SettingKey → Setting → Prop
  | hubUrl {t : Text} (h : env.find? "GRID_EXPORTER_HUB" = some t) (ht : t.trim ≠ []) :
      Says env .hubUrl (.ofText t.trim)
  | hubTimeout {t : Text} {x : Binary64} (h : env.find? "GRID_EXPORTER_TIMEOUT" = some t)
      (hx : Reading.number t = .ok x) (hz : x.isZero = false) :
      Says env .hubTimeout (.scalar (.float x))
  | host {t : Text} (h : env.find? "GRID_EXPORTER_HOST" = some t) (ht : t.trim ≠ []) :
      Says env .host (.ofText t.trim)
  | port {t : Text} {n : Int} (h : env.find? "GRID_EXPORTER_PORT" = some t)
      (hn : Reading.integer t = .ok n) (hz : n ≠ 0) : Says env .port (.scalar (.int n))
  | logLevel {t : Text} (h : env.find? "GRID_EXPORTER_LOG_LEVEL" = some t) (ht : t.trim ≠ []) :
      Says env .logLevel (.ofText t.trim)

/-- The text a variable gives. -/
def text? (env : Environment) (key : Text) : Option Setting :=
  let t := env.text key []
  if t.isEmpty then none else some (.ofText t)

/-- The number a variable gives. -/
def number? (env : Environment) (key : Text) : Option Setting :=
  ((env.find? key).bind fun t => (Reading.number t).toOption).bind fun x =>
    if x.isZero then none else some (.scalar (.float x))

/-- The integer a variable gives. -/
def integer? (env : Environment) (key : Text) : Option Setting :=
  ((env.find? key).bind fun t => (Reading.integer t).toOption).bind fun n =>
    if n = 0 then none else some (.scalar (.int n))

/-- What each of the variables gives, if anything. -/
def offers (env : Environment) : Bindings SettingKey (Option Setting) :=
  [(.hubUrl, env.text? "GRID_EXPORTER_HUB"), (.hubTimeout, env.number? "GRID_EXPORTER_TIMEOUT"),
    (.host, env.text? "GRID_EXPORTER_HOST"), (.port, env.integer? "GRID_EXPORTER_PORT"),
    (.logLevel, env.text? "GRID_EXPORTER_LOG_LEVEL")]

theorem settings_eq (env : Environment) : env.settings = env.offers.given := rfl

theorem text?_eq_some {key : Text} :
    env.text? key = some v ↔ ∃ t, env.find? key = some t ∧ t.trim ≠ [] ∧ .ofText t.trim = v := by
  rw [text?, text]
  cases h : env.find? key with
  | none =>
    have : Text.trim [] = [] := rfl
    simp [this]
  | some t => simp [List.isEmpty_iff]

theorem number?_eq_some {key : Text} :
    env.number? key = some v ↔ ∃ t x, env.find? key = some t ∧ Reading.number t = .ok x ∧
      x.isZero = false ∧ .scalar (.float x) = v := by
  rw [number?]
  cases h : env.find? key with
  | none => simp
  | some t =>
    cases hx : Reading.number t with
    | error e => simp [hx, Except.toOption]
    | ok x => cases hz : x.isZero <;> simp [hx, hz, Except.toOption]

theorem integer?_eq_some {key : Text} :
    env.integer? key = some v ↔ ∃ t n, env.find? key = some t ∧ Reading.integer t = .ok n ∧
      n ≠ 0 ∧ .scalar (.int n) = v := by
  rw [integer?]
  cases h : env.find? key with
  | none => simp
  | some t =>
    cases hn : Reading.integer t with
    | error e => simp [hn, Except.toOption]
    | ok n => by_cases hz : n = 0 <;> simp [hn, hz, Except.toOption]

theorem keysDistinct_offers (env : Environment) : env.offers.KeysDistinct := by
  show List.Pairwise _ [SettingKey.hubUrl, .hubTimeout, .host, .port, .logLevel]
  decide

/-- The environment gives just what the variables say. -/
theorem mem_settings : (k, v) ∈ env.settings ↔ env.Says k v := by
  rw [settings_eq, Bindings.mem_given, offers]
  simp only [List.mem_cons, List.not_mem_nil, or_false, Prod.mk.injEq]
  constructor
  · rintro (⟨rfl, h⟩ | ⟨rfl, h⟩ | ⟨rfl, h⟩ | ⟨rfl, h⟩ | ⟨rfl, h⟩)
    · obtain ⟨t, hfind, ht, rfl⟩ := text?_eq_some.1 h.symm
      exact .hubUrl hfind ht
    · obtain ⟨t, x, hfind, hx, hz, rfl⟩ := number?_eq_some.1 h.symm
      exact .hubTimeout hfind hx hz
    · obtain ⟨t, hfind, ht, rfl⟩ := text?_eq_some.1 h.symm
      exact .host hfind ht
    · obtain ⟨t, n, hfind, hn, hz, rfl⟩ := integer?_eq_some.1 h.symm
      exact .port hfind hn hz
    · obtain ⟨t, hfind, ht, rfl⟩ := text?_eq_some.1 h.symm
      exact .logLevel hfind ht
  · intro h
    cases h with
    | hubUrl h ht => exact .inl ⟨rfl, (text?_eq_some.2 ⟨_, h, ht, rfl⟩).symm⟩
    | hubTimeout h hx hz =>
      exact .inr (.inl ⟨rfl, (number?_eq_some.2 ⟨_, _, h, hx, hz, rfl⟩).symm⟩)
    | host h ht => exact .inr (.inr (.inl ⟨rfl, (text?_eq_some.2 ⟨_, h, ht, rfl⟩).symm⟩))
    | port h hn hz =>
      exact .inr (.inr (.inr (.inl ⟨rfl, (integer?_eq_some.2 ⟨_, _, h, hn, hz, rfl⟩).symm⟩)))
    | logLevel h ht =>
      exact .inr (.inr (.inr (.inr ⟨rfl, (text?_eq_some.2 ⟨_, h, ht, rfl⟩).symm⟩)))

theorem Says.not_mapping (h : env.Says k v) (mark : Option Mark) (inner : Entries) :
    v ≠ .mapping mark inner := by
  cases h <;> nofun

end Environment

/-! ## The options -/

namespace CommandLine.Arguments

variable {a : Arguments} {k : SettingKey} {v : Setting}

/-- What an option says of a setting. -/
inductive Says (a : Arguments) : SettingKey → Setting → Prop
  | hubUrl {v : Setting} (h : a.value? .hub = some v) : Says a .hubUrl v
  | hubTimeout {v : Setting} (h : a.value? .timeout = some v) : Says a .hubTimeout v
  | host {v : Setting} (h : a.value? .host = some v) : Says a .host v
  | port {v : Setting} (h : a.value? .port = some v) : Says a .port v
  | logLevel {v : Setting} (h : a.value? .logLevel = some v) : Says a .logLevel v

/-- What each of the options gives, if anything. -/
def offers (a : Arguments) : Bindings SettingKey (Option Setting) :=
  flagSettings.map fun (k, f) => (k, a.value? f)

theorem keysDistinct_offers (a : Arguments) : a.offers.KeysDistinct := by
  show List.Pairwise _ [SettingKey.hubUrl, .port, .host, .hubTimeout, .logLevel]
  decide

theorem mem_given_offers : (k, v) ∈ a.offers.given ↔ a.Says k v := by
  rw [Bindings.mem_given]
  show (k, some v) ∈ [(SettingKey.hubUrl, a.value? .hub), (.port, a.value? .port),
    (.host, a.value? .host), (.hubTimeout, a.value? .timeout), (.logLevel, a.value? .logLevel)] ↔ _
  simp only [List.mem_cons, List.not_mem_nil, or_false, Prod.mk.injEq]
  constructor
  · rintro (⟨rfl, h⟩ | ⟨rfl, h⟩ | ⟨rfl, h⟩ | ⟨rfl, h⟩ | ⟨rfl, h⟩)
    · exact .hubUrl h.symm
    · exact .port h.symm
    · exact .host h.symm
    · exact .hubTimeout h.symm
    · exact .logLevel h.symm
  · intro h
    cases h with
    | hubUrl h => exact .inl ⟨rfl, h.symm⟩
    | port h => exact .inr (.inl ⟨rfl, h.symm⟩)
    | host h => exact .inr (.inr (.inl ⟨rfl, h.symm⟩))
    | hubTimeout h => exact .inr (.inr (.inr (.inl ⟨rfl, h.symm⟩)))
    | logLevel h => exact .inr (.inr (.inr (.inr ⟨rfl, h.symm⟩)))

end CommandLine.Arguments

/-! ## All layers -/

namespace Settings

open CommandLine (Arguments)

theorem applyFlags_eq (s : Settings) (a : Arguments) : s.applyFlags a = s.setAll a.offers.given := by
  rw [applyFlags, setAll, Bindings.given, Arguments.offers, List.filterMap_map, List.foldl_filterMap]
  congr 1
  funext s kf
  dsimp only [Function.comp]
  cases a.value? kf.2 <;> rfl

/-- The value of a setting with regard to options, the environment, the tree of a file and the
    defaults, of which the first that gives one prevails. -/
inductive Settled (a : Arguments) (env : Environment) (file : Entries) (k : SettingKey) :
    Setting → Prop
  /-- An option gives the value. -/
  | option {v : Setting} (h : a.Says k v) : Settled a env file k v
  /-- No option does, but the environment. -/
  | environment {v : Setting} (ha : ∀ v, ¬a.Says k v) (h : env.Says k v) : Settled a env file k v
  /-- Neither does, so that it is the value in the file or, without one, the default. -/
  | file {o : Option Setting} (ha : ∀ v, ¬a.Says k v) (he : ∀ v, ¬env.Says k v)
      (h : file.Gives k o) : Settled a env file k (o.getD k.default)

variable {a : Arguments} {env : Environment} {k : SettingKey} {o : Option Setting}

theorem isPlain_initial (env : Environment) : (initial env).overrides.IsPlain :=
  isPlain_setAll Entries.isPlain_nil _

theorem isShallow_initial (env : Environment) : (initial env).overrides.IsShallow :=
  isShallow_setAll Entries.isShallow_nil Entries.isPlain_nil fun kv hkv =>
    (Environment.mem_settings (k := kv.1).1 hkv).not_mapping

/-- Nothing but the environment has set a setting at first. -/
theorem gives_initial (h : ∀ v, ¬env.Says k v) : (initial env).overrides.Gives k none :=
  gives_setAll_of_not_mem Entries.isPlain_nil Entries.gives_nil fun v hv =>
    h v (Environment.mem_settings.1 hv)

/-- A plain tree is merged over what the environment has set, even if something in it has no end. -/
theorem load_initial (env : Environment) {file : FileTree} (h : file.entries.IsPlain) :
    (initial env).load env file = some (Settings.applyEnvironment
      ⟨(initial env).overrides.merge file.entries, file.marks, (initial env).loops || file.loops⟩
      env) := by
  rw [load, Entries.mergeEndless_eq (isShallow_initial env) h]
  split <;> rfl

/-- The tree of what has been loaded; without a file nothing is in it. -/
def Loaded.entries : Loaded → Entries
  | .tree file => file.entries
  | _ => []

/-- Loading has not stopped the program, and where the file has a mapping for a section, this is no
    mapping that is in another place too. -/
structure Loaded.IsUsable (l : Loaded) : Prop where
  returns : ∀ flaw, l ≠ .stops flaw
  unshared : ∀ (k : SettingKey) (mark : Option Mark) (inner : Entries),
    l.entries.named? k.sectionName = some (.mapping mark inner) → mark = none

theorem Loaded.IsUsable.isPlain {first : Nat} {files : Files} {path : Option Text}
    (h : (loadFrom first files path).IsUsable) : (loadFrom first files path).entries.IsPlain := by
  generalize hl : loadFrom first files path = l at h
  cases l with
  | tree file =>
    have distinct := hasDistinctKeys_of_loadFrom hl
    refine ⟨distinct.keys, fun k mark inner hs => ⟨h.unshared k mark inner hs, ?_⟩⟩
    cases distinct.of_find? hs with
    | mapping hk _ => exact hk
  | _ => exact Entries.isPlain_nil

end Settings

namespace Program

open CommandLine (Arguments)
open Settings (initial loadFrom Loaded)

variable {w : World} {a : Arguments} {k : SettingKey} {v : Setting} {o : Option Setting}

/-- After loading a file the environment has put in what it says, and the rest is as the file gives
    it. -/
theorem exists_settingsAfter (w : World) {l : Loaded} (hstop : ∀ flaw, l ≠ .stops flaw)
    (hp : l.entries.IsPlain) :
    ∃ s, settingsAfter w (initial w.environment) l = .ok s ∧ s.overrides.IsPlain ∧
      (∀ k v, w.environment.Says k v → s.overrides.Gives k (some v)) ∧
      ∀ k o, (∀ v, ¬w.environment.Says k v) → l.entries.Gives k o → s.overrides.Gives k o := by
  have mem {k : SettingKey} {v : Setting} (h : w.environment.Says k v) :=
    Environment.mem_settings.2 h
  have distinct := (Environment.keysDistinct_offers w.environment).given
  cases l with
  | stops flaw => exact absurd rfl (hstop flaw)
  | tree file =>
    have plain := (Settings.isPlain_initial w.environment).merge hp
    refine ⟨_, by rw [settingsAfter, Settings.load_initial _ hp]; rfl,
      Settings.isPlain_setAll plain _,
      fun k v h => Settings.gives_setAll plain distinct (mem h), fun k o he h => ?_⟩
    refine Settings.gives_setAll_of_not_mem plain ?_ fun v hv =>
      he v (Environment.mem_settings.1 hv)
    -- The file is merged over nothing here, as the environment is silent.
    have value : (o.map fun v => v.over none).or none = o := by
      cases o <;> simp
    exact value ▸ (Settings.gives_initial he).merge h hp
  | _ =>
    refine ⟨_, rfl, Settings.isPlain_initial _, fun k v h =>
      Settings.gives_setAll Entries.isPlain_nil distinct (mem h), fun k o he h => ?_⟩
    cases h with
    | absent => exact Settings.gives_initial he
    | within h => cases h

namespace Step

variable {α β : Type} (session : Session)

/-- A step after another one starts from where that has led to, unless it failed. -/
theorem run_bind (m : Step α) (f : α → Step β) :
    (m >>= f).run.run session =
      match m.run.run session with
      | (.ok a, session) => (f a).run.run session
      | (.error e, session) => (.error e, session) := by
  show (ExceptT.bindCont f (m.run.run session).1).run (m.run.run session).2 = _
  generalize m.run.run session = r
  obtain ⟨x, session⟩ := r
  cases x <;> rfl

theorem run_get : (get : Step Session).run.run session = (.ok session, session) := rfl

theorem run_modify (f : Session → Session) :
    (modify f : Step Unit).run.run session = (.ok (), f session) := rfl

theorem run_set (other : Session) :
    (set other : Step Unit).run.run session = (.ok (), other) := rfl

theorem run_log (w : World) (rs : List Logging.Record) :
    (log w rs).run.run session =
      (.ok (), { session with logging := rs.foldl (Logging.State.log w.stamp) session.logging }) :=
  rfl

theorem run_ofExcept {ε : Type} (failure : ε → Failure) (x : Except ε α) :
    (ofExcept failure x).run.run session =
      (match x with
        | .ok a => .ok a
        | .error e => .error (failure e), session) := by
  cases x <;> rfl

end Step

/-- Loading a file makes of the settings what comes of it, and logs. -/
theorem loadSettings_run (w : World) (a : Arguments) (session : Session) {s : Settings}
    (h : settingsAfter w session.settings
      (loadFrom session.settings.marks w.files a.configPath?) = .ok s) :
    ∃ logging, (loadSettings w a).run.run session =
      (.ok (), { session with settings := s, logging }) := by
  simp only [loadSettings, Step.run_bind, Step.run_get, Step.run_log, Step.run_ofExcept,
    Step.run_modify, h]
  cases a.configPath? with
  | none => exact ⟨_, rfl⟩
  | some path =>
    dsimp only
    split <;> exact ⟨_, rfl⟩

/-- Loading a file changes nothing but settings and logs, whether it succeeds or not. -/
theorem loadSettings_frame (w : World) (a : Arguments) (session : Session) :
    ∃ s logging, ((loadSettings w a).run.run session).2
      = { session with settings := s, logging } := by
  cases h : settingsAfter w session.settings
      (loadFrom session.settings.marks w.files a.configPath?) with
  | ok s =>
    obtain ⟨logging, hrun⟩ := loadSettings_run w a session h
    exact ⟨s, logging, by rw [hrun]⟩
  | error e =>
    simp only [loadSettings, Step.run_bind, Step.run_get, Step.run_log, Step.run_ofExcept, h]
    exact ⟨_, _, rfl⟩

/-- Setting up logging changes nothing else, whether it succeeds or not. -/
theorem setUpLogging_frame (session : Session) :
    ∃ logging, (setUpLogging.run.run session).2 = { session with logging } := by
  simp only [setUpLogging, Step.run_bind, Step.run_get, Step.textOf, Step.run_ofExcept,
    Step.run_set]
  cases (session.settings.value .logLevel).toText with
  | error e => exact ⟨_, rfl⟩
  | ok level =>
    dsimp only
    split <;> exact ⟨_, rfl⟩

/-- The settings that a command finds: those of a program just started, after the preparation. -/
def prepared (w : World) (a : Arguments) : Settings :=
  ((prepare w a).run.run (.start w (initial w.environment))).2.settings

theorem prepared_eq {s : Settings}
    (h : settingsAfter w (initial w.environment) (loadFrom 0 w.files a.configPath?) = .ok s) :
    prepared w a = s.applyFlags a := by
  -- A program just started has no marks, so those of the file are numbered from zero.
  have marks : (initial w.environment).marks = 0 := Settings.marks_setAll _ _
  obtain ⟨logging, hrun⟩ := loadSettings_run w a (.start w (initial w.environment))
    (by rw [Session.start, marks]; exact h)
  rw [prepared, prepare, Step.run_bind, hrun]
  dsimp only
  rw [Step.run_bind, Step.run_modify]
  obtain ⟨_, hframe⟩ := setUpLogging_frame { Session.start w (initial w.environment) with
    settings := s.applyFlags a, logging }
  rw [hframe]

/-- Whatever there is of command line, environment and file, each setting is read as the first of
    option, variable, file and default gives it. -/
theorem prepared_reads (w : World) (a : Arguments)
    (hfile : (loadFrom 0 w.files a.configPath?).IsUsable)
    (h : Settings.Settled a w.environment (loadFrom 0 w.files a.configPath?).entries k v)
    (otherwise : Setting) : (prepared w a).get k.name otherwise = v := by
  obtain ⟨s, hs, plain, said, given⟩ := exists_settingsAfter w hfile.returns hfile.isPlain
  have distinct := a.keysDistinct_offers.given
  rw [prepared_eq hs, Settings.applyFlags_eq]
  have plain' := Settings.isPlain_setAll plain a.offers.given
  cases h with
  | option h =>
    exact Settings.get_eq plain'
      (Settings.gives_setAll plain distinct (Arguments.mem_given_offers.2 h)) otherwise
  | environment ha h =>
    refine Settings.get_eq plain' (o := some v) ?_ otherwise
    exact Settings.gives_setAll_of_not_mem plain (said k v h) fun v hv =>
      ha v (Arguments.mem_given_offers.1 hv)
  | file ha he h =>
    refine Settings.get_eq plain' ?_ otherwise
    exact Settings.gives_setAll_of_not_mem plain (given k _ he h) fun v hv =>
      ha v (Arguments.mem_given_offers.1 hv)

deriving instance DecidableEq for FileTree

deriving instance DecidableEq for Loaded

/-- The four layers at once: although a file has a number for the section of the hub, an option
    settles the address of the hub; the port is the environment's, the host the file's and the rest
    as ever. -/
theorem four_layers_read :
    let files : Files := ⟨[], [], [([], .directory),
      (["config.yaml"], .file (Utf8.encode "hub: 5\nexporter: \x7bhost: a, port: 1\x7d"))]⟩
    let w : World := ⟨[("GRID_EXPORTER_PORT", " 9555 "), ("GRID_EXPORTER_HOST", "  ")], files,
      Hub.Server.ofRoutes [], .zero, ⟨"3.11.2", "linux", "x86_64"⟩, 80, fun _ => false,
      ⟨id, id, {}⟩, []⟩
    let a : Arguments := { values := [(.hub, .ofText "http://hub.test")] }
    let read (key : Text) : Setting := (prepared w a).get key (.scalar .null)
    read "hub.url" = .ofText "http://hub.test" ∧ read "exporter.port" = .scalar (.int 9555) ∧
      read "exporter.host" = .ofText "a" ∧ read "logging.level" = .ofText "INFO" := by
  intro files w a read
  have hload : loadFrom 0 w.files a.configPath? = .tree ⟨[(.text "hub", .scalar (.int 5)),
      (.text "exporter", .ofEntries [(.text "host", .ofText "a"), (.text "port", .scalar (.int 1))])],
      9, false⟩ := by
    decide +kernel
  have usable : (loadFrom 0 w.files a.configPath?).IsUsable := by
    rw [hload]
    exact ⟨nofun, fun k mark inner h => by cases k <;> cases h <;> rfl⟩
  have noOption : ∀ k ≠ SettingKey.hubUrl, ∀ v, ¬a.Says k v := by
    rintro k hk v (h | h | h | h | h)
    · exact hk rfl
    all_goals cases h
  have noVariable : ∀ k ≠ SettingKey.port, ∀ v, ¬w.environment.Says k v := by
    rintro k hk v (⟨h, ht⟩ | ⟨h, hx, hz⟩ | ⟨h, ht⟩ | ⟨h, hn, hz⟩ | ⟨h, ht⟩)
    case host => cases h; exact ht rfl
    case port => exact hk rfl
    all_goals cases h
  refine ⟨?_, ?_, ?_, ?_⟩
  · exact prepared_reads w a (k := .hubUrl) usable (.option (.hubUrl rfl)) _
  · exact prepared_reads w a (k := .port) usable
      (.environment (noOption _ (by decide)) (.port (t := " 9555 ") rfl rfl (by decide))) _
  · refine prepared_reads w a (k := .host) usable
      (.file (o := some (.ofText "a")) (noOption _ (by decide)) (noVariable _ (by decide)) ?_) _
    rw [hload]
    show Entries.Gives _ _ (Entries.named?
      [(.text "host", .ofText "a"), (.text "port", .scalar (.int 1))] "host")
    exact .within rfl
  · refine prepared_reads w a (k := .logLevel) usable
      (.file (o := none) (noOption _ (by decide)) (noVariable _ (by decide)) ?_) _
    rw [hload]
    exact .absent rfl

end Program

end GridGauge
