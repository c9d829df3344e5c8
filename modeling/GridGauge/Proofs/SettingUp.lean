import GridGauge.Logging
import GridGauge.Proofs.Opening

/-!
# Setting up logging anew

Logging may be set up any number of times, and each time asks for a level, for
a log file or none, and for a form of lines. Whatever has been asked for before
and whatever of it was refused, messages go to the terminal and to one file at
most (`isSingle_setUpAll`), and setting up once more puts them where it asks for
and nowhere else (`set_up_anew`).

A word that names a level asks for it, and any other word for the usual level
(`Asks`). There are two words, in any case of their letters, that are refused
instead (`NamesFormat`), and then the old targets are gone already and the level
is still the old one (`format_is_no_level`).
-/

namespace GridGauge.Logging

variable {word : Text} {level : Level}

/-! ## Levels -/

/-- The level that a word asks for: the one it names, and the usual one if it names none. -/
inductive Asks (word : Text) : Level → Prop
  | named {name : Text} {level : Level} :
      (name, level) ∈ levelNames → word.capitals = name → Asks word level
  | usual : (∀ n ∈ levelNames, word.capitals ≠ n.1) → Asks word usualLevel

/-- The word names the short format or the table of formats. -/
def NamesFormat (word : Text) : Prop := word.capitals = "BASIC_FORMAT" ∨ word.capitals = "_STYLES"

instance (word : Text) : Decidable (NamesFormat word) := inferInstanceAs (Decidable (_ ∨ _))

theorem asks_lookup (word : Text) : Asks word ((levelNames.lookup word.capitals).getD usualLevel) := by
  cases h : levelNames.lookup word.capitals with
  | none =>
    refine .usual fun n hn heq => ?_
    rw [List.lookup_eq_none_iff] at h
    have := h n hn
    rw [heq] at this
    simp at this
  | some level =>
    obtain ⟨front, back, hnames, -⟩ := List.lookup_eq_some_iff.1 h
    exact .named (hnames ▸ by simp) rfl

/-- A word is refused if it names a format, and otherwise it asks for a level. -/
theorem levelOfWord_spec (word : Text) :
    (NamesFormat word ∧ ∃ e, levelOfWord word = .error e) ∨
      (¬NamesFormat word ∧ ∃ level, levelOfWord word = .ok level ∧ Asks word level) := by
  unfold levelOfWord NamesFormat
  by_cases hformat : word.capitals = "BASIC_FORMAT"
  · exact .inl ⟨.inl hformat, .format, if_pos (beq_iff_eq.2 hformat)⟩
  · by_cases htable : word.capitals = "_STYLES"
    · refine .inl ⟨.inr htable, .formatTable, ?_⟩
      rw [if_neg (mt beq_iff_eq.1 hformat), if_pos (beq_iff_eq.2 htable)]
    · refine .inr ⟨not_or.2 ⟨hformat, htable⟩, _, ?_, asks_lookup word⟩
      rw [if_neg (mt beq_iff_eq.1 hformat), if_neg (mt beq_iff_eq.1 htable)]

/-! ## The log file -/

/-- The log file that a setting asks for can be kept, at the location given; there is none if it
    asks for none. -/
inductive KeepsLog (files : Files) : Setting → Option Location → Prop
  | none {file : Setting} : file.isGiven = false → KeepsLog files file none
  | some {path expanded : Text} : path ≠ [] → files.expandHome path = .ok expanded →
      files.TakesLog expanded → KeepsLog files (.ofText path) (some (files.locate expanded))

namespace State

variable {s : State} {file : Setting} {location : Option Location}

theorem filePath?_of_not_given (h : file.isGiven = false) : filePath? file = .ok none := by
  unfold filePath?
  rw [h]
  rfl

theorem filePath?_ofText {path : Text} (h : path ≠ []) :
    filePath? (.ofText path) = .ok (some path) := by
  cases path with
  | nil => exact absurd rfl h
  | cons c path => rfl

/-- A log file that can be kept is opened, and nothing else is touched. -/
theorem exists_openFile (h : KeepsLog s.files file location) :
    ∃ made, s.openFile file = .ok ({ s with files := made }, location) ∧
      ∀ l ∈ location, ∃ content, made.at? l = some (.file content) := by
  cases h with
  | none hfile =>
    refine ⟨s.files, ?_, nofun⟩
    rw [openFile, filePath?_of_not_given hfile]
    rfl
  | some hpath hexpand htakes =>
    obtain ⟨made, content, hopen, hat⟩ := Files.exists_openLog htakes
    refine ⟨made, ?_, fun l hl => ⟨content, (Option.mem_some_iff.1 hl) ▸ hat⟩⟩
    rw [openFile, filePath?_ofText hpath]
    simp only [bind, Except.bind, hexpand, Except.mapError, hopen]
    rfl

/-! ## One set-up after others -/

/-- Messages go nowhere, or to the terminal and one file at most. -/
def IsSingle (s : State) : Prop :=
  s.targets = [] ∨ ∃ form location, s.targets = targetsFor form location

theorem isSingle_setUp (h : s.IsSingle) (level : LevelRequest) (file : Setting) (form : Form) :
    (s.setUp level file form).1.IsSingle := by
  simp only [setUp]
  generalize (if form.format.isEmpty then { form with format := bareFormat } else form) = form
  cases s.openFile file with
  | error e => exact h
  | ok opened =>
    obtain ⟨s', location⟩ := opened
    by_cases hform : isFormat form.format = true
    · -- Whether there is a level or not, the targets are the new ones by then.
      simp only [hform, Bool.not_true, Bool.false_eq_true, if_false]
      refine .inr ⟨form, location, ?_⟩
      cases level with
      | word w =>
        simp only
        cases levelOfWord w <;> rfl
      | level l => rfl
      | unchanged => rfl
    · simp only [hform, Bool.not_false, if_true]
      exact .inl rfl

/-- What is asked for when logging is set up. -/
structure Request where
  level : LevelRequest
  file : Setting
  form : Form

/-- The state after logging has been set up for one request after the other, some of which may have
    been refused. -/
def setUpAll (s : State) (requests : List Request) : State :=
  requests.foldl (fun s r => (s.setUp r.level r.file r.form).1) s

/-- However often logging is set up, nothing adds up. -/
theorem isSingle_setUpAll (h : s.IsSingle) (requests : List Request) :
    (s.setUpAll requests).IsSingle := by
  induction requests generalizing s with
  | nil => exact h
  | cons r requests ih => exact ih (isSingle_setUp h r.level r.file r.form)

/-- Where the log file can be kept, only a word that names a format is refused. -/
theorem setUp_word (h : KeepsLog s.files file location) (word : Text) :
    ∃ made, (∀ l ∈ location, ∃ content, made.at? l = some (.file content)) ∧
      ∃ level refused, s.setUp (.word word) file usualForm
          = (⟨level, targetsFor usualForm location, s.terminal, made⟩, refused) ∧
        ((NamesFormat word ∧ refused ≠ none ∧ level = s.level) ∨
          (¬NamesFormat word ∧ refused = none ∧ Asks word level)) := by
  obtain ⟨made, hopen, hfile⟩ := exists_openFile h
  refine ⟨made, hfile, ?_⟩
  have hform : usualForm.format.isEmpty = false := rfl
  have hfields : isFormat usualForm.format = true := by decide
  unfold setUp
  simp only [hopen, hform, hfields, Bool.false_eq_true, if_false, Bool.not_true]
  rcases levelOfWord_spec word with ⟨hnames, e, he⟩ | ⟨hnames, level, hlevel, hasks⟩
  · rw [he]
    exact ⟨_, _, rfl, .inl ⟨hnames, nofun, rfl⟩⟩
  · rw [hlevel]
    exact ⟨_, _, rfl, .inr ⟨hnames, rfl, hasks⟩⟩

/-- However logging was set up before, setting it up for a word and a log file that can be kept puts
    messages to the terminal and to that file, if one is asked for, and nowhere else. The word is
    refused if it names a format, and then the level stays; otherwise the level is the one it asks
    for. -/
theorem set_up_anew (files : Files) (earlier : List Request) (word : Text)
    (h : KeepsLog ((initial files).setUpAll earlier).files file location) :
    let s := (initial files).setUpAll earlier
    s.IsSingle ∧ ∃ after refused, s.setUp (.word word) file usualForm = (after, refused) ∧
      after.targets = .terminal usualForm :: (location.map (Target.file · usualForm)).toList ∧
      (∀ l ∈ location, ∃ content, after.files.at? l = some (.file content)) ∧
      (refused = none ↔ ¬NamesFormat word) ∧ (refused = none → Asks word after.level) ∧
      (refused ≠ none → after.level = s.level) := by
  refine ⟨isSingle_setUpAll (.inl rfl) earlier, ?_⟩
  obtain ⟨made, hfile, level, refused, hsetUp, hlevel⟩ := setUp_word h word
  refine ⟨_, refused, hsetUp, rfl, hfile, ?_⟩
  obtain ⟨hnames, hrefused, hlevel⟩ | ⟨hnames, hrefused, hasks⟩ := hlevel
  · exact ⟨iff_of_false hrefused (not_not.2 hnames), fun h => absurd h hrefused, fun _ => hlevel⟩
  · exact ⟨iff_of_true hrefused hnames, fun _ => hasks, fun h => absurd hrefused h⟩

/-- After a word that was refused, and with another log file open before, logging is set up for a
    level and a file in a directory that is not there. -/
theorem exporter_log_kept :
    let files : Files := ⟨["srv"], "/home", [(["srv"], .directory)]⟩
    let earlier : List Request :=
      [⟨.word "basic_format", .ofText "old.log", usualForm⟩, ⟨.level 10, .scalar .null, usualForm⟩]
    let s := (initial files).setUpAll earlier
    let file : Setting := .ofText "logs/exporter.log"
    KeepsLog s.files file (some ["srv", "logs", "exporter.log"]) ∧
      ∃ after, s.setUp (.word "warn") file usualForm = (after, none) ∧
        after.targets = [.terminal usualForm, .file ["srv", "logs", "exporter.log"] usualForm] ∧
        Asks "warn" after.level := by
  intro files earlier s file
  have hfiles : s.files = ⟨["srv"], "/home", [(["srv"], .directory), (["srv", "old.log"], .file [])]⟩ :=
    rfl
  have htakes : s.files.TakesLog "logs/exporter.log" := by
    rw [hfiles]
    refine ⟨⟨by decide, by decide, by decide, fun front hf => ?_⟩, by decide, by decide,
      fun front hf hne => ?_, .inr ⟨by decide, fun front hf => ?_⟩⟩
    · replace hf : front <+: ["logs"] := hf
      simp only [List.prefix_cons_iff, List.prefix_nil] at hf
      obtain rfl | ⟨_, rfl, rfl⟩ := hf <;> exact nofun
    · replace hf : front <+: ["srv", "logs", "exporter.log"] := hf
      simp only [List.prefix_cons_iff, List.prefix_nil] at hf
      obtain rfl | ⟨_, rfl, rfl | ⟨_, rfl, rfl | ⟨_, rfl, rfl⟩⟩⟩ := hf
      · exact nofun
      · exact nofun
      · exact nofun
      · exact absurd rfl hne
    · replace hf : front <+: ["logs"] := hf
      simp only [List.prefix_cons_iff, List.prefix_nil] at hf
      obtain rfl | ⟨_, rfl, rfl⟩ := hf <;> decide
  have hkeeps : KeepsLog s.files file (some ["srv", "logs", "exporter.log"]) :=
    .some (by decide) rfl htakes
  obtain ⟨-, after, refused, hsetUp, htargets, -, hrefused, hasks, -⟩ :=
    set_up_anew files earlier "warn" hkeeps
  have hnone : refused = none := hrefused.2 (by decide)
  exact ⟨hkeeps, after, hnone ▸ hsetUp, htargets, hasks hnone⟩

/-- The word of the short format is no level, but is not taken for the usual one. -/
theorem format_is_no_level :
    let s := initial ⟨["home"], "/home", []⟩
    let after := s.setUp (.word "basic_format") (.scalar .null) usualForm
    Asks "basic_format" usualLevel ∧ after.2 = some (.level .format) ∧
      after.1.targets = [.terminal usualForm] ∧ after.1.level ≠ usualLevel := by
  refine ⟨.usual (by decide), by decide, by decide, by decide⟩

end State

end GridGauge.Logging
