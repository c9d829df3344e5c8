import GridGauge.Proofs.Paths

/-!
# Making directories

A directory that is to be made may be missing with others around it. All of
them can be made if the names that lead there are legal, start in a directory
and lead through no file (`IsPassable`). Then exactly those are made that were
not there (`exists_makeDirectory`, `MadeWay`).

The names are taken from the last one on, as the directories around are only
made when one of them is missing, so that the inductions are from the end.
-/

namespace GridGauge

namespace Files

variable {files made : Files} {l start : Location} {name : Text} {names front : List Text}
  {root path : Text}

/-! ## The way -/

/-- What there is after directories have been made for names to lead through, all that were not
    there. -/
structure MadeWay (files : Files) (start : Location) (names : List Text) (made : Files) : Prop where
  cwd : made.cwd = files.cwd
  file : ∀ l content, made.at? l = some (.file content) ↔ files.at? l = some (.file content)
  missing : ∀ l, made.at? l = none ↔
    files.at? l = none ∧ ∀ front, front <+: names → ¬l <+: follow start front

theorem MadeWay.trans {names' : List Text} {made' : Files} (h : MadeWay files start names made)
    (h' : MadeWay made start names' made') (hnames : names <+: names') :
    MadeWay files start names' made' := by
  refine ⟨h'.cwd.trans h.cwd, fun l content => (h'.file l content).trans (h.file l content),
    fun l => ?_⟩
  rw [h'.missing, h.missing, and_assoc]
  exact and_congr_right fun _ =>
    ⟨fun hl => hl.2, fun hl => ⟨fun front hf => hl front (hf.trans hnames), hl⟩⟩

/-- All along the way there are directories. -/
def IsWay (files : Files) (start : Location) (names : List Text) : Prop :=
  ∀ front, front <+: names → files.at? (follow start front) = some .directory

theorem madeWay_self (h : files.IsWay start names) : MadeWay files start names files := by
  refine ⟨rfl, fun _ _ => Iff.rfl, fun l => ⟨fun hl => ⟨hl, fun front hf hpre => ?_⟩, fun hl => hl.1⟩⟩
  exact at?_ne_none_of_prefix (h front hf) hpre hl

/-- Along the way there are directories then, where there was no file. -/
theorem MadeWay.directory (h : MadeWay files start names made)
    (hfile : ∀ content, files.at? (follow start front) ≠ some (.file content)) (hf : front <+: names) :
    made.at? (follow start front) = some .directory :=
  at?_eq_directory (fun hnone => ((h.missing _).1 hnone).2 front hf List.prefix_rfl)
    fun content hmade => hfile content ((h.file _ content).1 hmade)

/-- Where the names of a path behind a root start. -/
def startOf (files : Files) (root : Text) : Location := if root.isEmpty then files.cwd else []

theorem read_pathOf (hpath : IsPath root names) (hlegal : fault? (pathOf root names) = none) :
    files.read (pathOf root names) = (files.walk (files.startOf root) names).bind fun l =>
      match files.at? l with
      | some e => .ok e
      | none => .error .missing := by
  have hstart : (if isRooted (pathOf root names) then [] else files.cwd) = files.startOf root := by
    rw [isRooted_pathOf hpath, startOf]
    cases root <;> rfl
  rw [read, resolve, hlegal, hstart, namesOf_pathOf hpath]
  rfl

theorem IsWay.leads (h : files.IsWay start names) (hfit : ∀ n ∈ names, Fits n) :
    files.Leads start names := fun _ _ hn =>
  ⟨h _ ((List.prefix_append _ _).trans hn), hfit _ (hn.subset (List.mem_append_right _ List.mem_cons_self))⟩

theorem isWay_of_leads (h : files.Leads start names)
    (hlast : files.at? (follow start names) = some .directory) : files.IsWay start names := by
  rintro front ⟨rest, rfl⟩
  cases rest with
  | nil => rwa [List.append_nil] at hlast
  | cons name rest => exact (h front name ⟨rest, by simp⟩).1

theorem read_directory (hpath : IsPath root names) (hlegal : fault? (pathOf root names) = none)
    (hfit : ∀ n ∈ names, Fits n) (h : files.IsWay (files.startOf root) names) :
    files.read (pathOf root names) = .ok .directory := by
  rw [read_pathOf hpath hlegal, walk_eq_ok_iff.2 ⟨h.leads hfit, rfl⟩, Except.bind,
    h names List.prefix_rfl]

/-- Where the names around lead to nothing, no directory can be made yet. -/
theorem makeInside_of_missing (hlegal : fault? (pathOf root (names ++ [name])) = none)
    (h : files.walk (files.startOf root) names = .error .missing ∨
      files.walk (files.startOf root) names = .ok l ∧ files.at? l = none) :
    files.makeInside root (names ++ [name]) = .error (.path .missing) := by
  rw [startOf] at h
  rw [makeInside, hlegal]
  simp only [List.getLast?_concat, List.dropLast_concat]
  rcases h with hmissing | ⟨hok, hnone⟩
  · rw [hmissing]
  · simp only [hok, hnone]

/-- In a directory that is there a directory is made, unless there is one. -/
theorem makeInside_of_isWay (hlegal : fault? (pathOf root (names ++ [name])) = none)
    (hfit : ∀ n ∈ names ++ [name], Fits n) (h : files.IsWay (files.startOf root) names)
    (hfile : ∀ content,
      files.at? (follow (files.startOf root) (names ++ [name])) ≠ some (.file content)) :
    (files.at? (follow (files.startOf root) (names ++ [name])) = some .directory ∧
      files.makeInside root (names ++ [name]) = .error .taken) ∨
    (files.at? (follow (files.startOf root) (names ++ [name])) = none ∧
      files.makeInside root (names ++ [name])
        = .ok (files.put (follow (files.startOf root) (names ++ [name])) .directory)) := by
  have hwalk : files.walk (files.startOf root) names = .ok (follow (files.startOf root) names) :=
    walk_eq_ok_iff.2 ⟨h.leads fun n hn => hfit n (List.mem_append_left _ hn), rfl⟩
  have hname : Fits name := hfit name (List.mem_append_right _ List.mem_cons_self)
  have hlast := h names List.prefix_rfl
  rw [makeInside, hlegal]
  rw [startOf] at *
  rw [follow_concat, enter] at *
  simp only [List.getLast?_concat, List.dropLast_concat, hwalk, hlast, if_neg (Nat.not_lt.2 hname)]
  by_cases hup : (name == "..") = true
  · -- Two points lead back to where there is a directory already.
    rw [if_pos hup] at *
    refine .inl ⟨at?_eq_directory ?_ hfile, if_pos hup⟩
    exact at?_ne_none_of_prefix hlast (List.dropLast_prefix _)
  · rw [if_neg hup] at *
    rw [if_neg hup]
    cases hat : files.at? (inside (follow (if root.isEmpty then files.cwd else []) names) name) with
    | none => exact .inr ⟨rfl, rfl⟩
    | some e =>
      cases e with
      | directory => exact .inl ⟨rfl, rfl⟩
      | file content => exact absurd hat (hfile content)

/-- Directories can be made for the names behind a root: they are legal, and there is no file along
    their way. -/
structure IsPassable (files : Files) (root : Text) (names : List Text) : Prop where
  legal : fault? (pathOf root names) = none
  fits : ∀ n ∈ names, Fits n
  start : files.at? (files.startOf root) = some .directory
  file : ∀ front, front <+: names → ∀ content,
    files.at? (follow (files.startOf root) front) ≠ some (.file content)

theorem IsPassable.around (h : files.IsPassable root (names ++ [name])) :
    files.IsPassable root names where
  legal := fault?_pathOf_of_prefix h.legal (List.prefix_append names [name])
  fits n hn := h.fits n (List.mem_append_left _ hn)
  start := h.start
  file front hf := h.file front (hf.trans (List.prefix_append names [name]))

theorem MadeWay.startOf (h : MadeWay files start names made) (root : Text) :
    made.startOf root = files.startOf root := by
  rw [Files.startOf, Files.startOf, h.cwd]

/-- Making directories blocks no way and clears none. -/
theorem MadeWay.isPassable_iff (h : MadeWay files start names made)
    (hstart : files.at? (files.startOf root) = some .directory) {names' : List Text} :
    made.IsPassable root names' ↔ files.IsPassable root names' := by
  have hfile : ∀ front content, made.at? (follow (made.startOf root) front) = some (.file content) ↔
      files.at? (follow (files.startOf root) front) = some (.file content) := fun front content => by
    rw [h.startOf, h.file]
  have hstart' : made.at? (made.startOf root) = some .directory := by
    rw [h.startOf]
    refine at?_eq_directory (fun hnone => ?_) fun content hmade => ?_
    · exact at?_ne_none_of_prefix hstart List.prefix_rfl ((h.missing _).1 hnone).1
    · rw [h.file, hstart] at hmade
      cases hmade
  constructor
  · exact fun hp => ⟨hp.legal, hp.fits, hstart, fun front hf content hat =>
      hp.file front hf content ((hfile front content).2 hat)⟩
  · exact fun hp => ⟨hp.legal, hp.fits, hstart', fun front hf content hat =>
      hp.file front hf content ((hfile front content).1 hat)⟩

/-- Where there are directories all along the way around a name, one is there or is made for the
    name itself. -/
theorem makeInside_spec (hpath : IsPath root (names ++ [name]))
    (hp : files.IsPassable root (names ++ [name])) (h : files.IsWay (files.startOf root) names) :
    ∃ made, MadeWay files (files.startOf root) (names ++ [name]) made ∧
      (files.makeInside root (names ++ [name]) = .ok made ∨
        files.makeInside root (names ++ [name]) = .error .taken ∧
          files.orDirectory root (names ++ [name]) .taken = .ok made) := by
  rcases makeInside_of_isWay hp.legal hp.fits h (hp.file _ List.prefix_rfl) with
    ⟨hlast, htaken⟩ | ⟨hnone, hmade⟩
  · have hway : files.IsWay (files.startOf root) (names ++ [name]) := fun front hf => by
      rcases List.prefix_concat_iff.1 hf with rfl | hf
      · exact hlast
      · exact h front hf
    refine ⟨files, madeWay_self hway, .inr ⟨htaken, ?_⟩⟩
    simp only [orDirectory, read_directory hpath hp.legal hp.fits hway]
  · refine ⟨files.put _ .directory, ⟨rfl, fun l content => at?_put_eq_file_iff hnone, fun l => ?_⟩,
      .inl hmade⟩
    rw [at?_put_eq_none_iff hnone]
    refine and_congr_right fun hl => ⟨fun hout front hf => ?_, fun hout => hout _ List.prefix_rfl⟩
    rcases List.prefix_concat_iff.1 hf with rfl | hf
    · exact hout
    · exact fun hpre => at?_ne_none_of_prefix (h front hf) hpre hl

/-- Where directories can be made for names, those missing are made. -/
theorem exists_makeDirectory (hpath : IsPath root names) (hp : files.IsPassable root names) :
    ∃ made, files.makeDirectory root names.length names = .ok made ∧
      MadeWay files (files.startOf root) names made := by
  induction names using List.reverseRecOn with
  | nil =>
    have hway : files.IsWay (files.startOf root) [] := fun front hf => by
      rw [List.prefix_nil.1 hf]
      exact hp.start
    refine ⟨files, ?_, madeWay_self hway⟩
    rw [List.length_nil, makeDirectory, makeInside, hp.legal]
    simp only [List.getLast?_nil, orDirectory, read_directory hpath hp.legal hp.fits hway]
  | append_singleton names name ih =>
    have hp' := hp.around
    rw [List.length_append, List.length_singleton, makeDirectory]
    by_cases hway : files.IsWay (files.startOf root) names
    · obtain ⟨made, hmade, hok | ⟨htaken, hthere⟩⟩ := makeInside_spec hpath hp hway
      · exact ⟨made, by rw [hok], hmade⟩
      · exact ⟨made, by rw [htaken]; exact hthere, hmade⟩
    · -- Something is missing on the way, so that the directories around are made first.
      have hmissing : files.makeInside root (names ++ [name]) = .error (.path .missing) := by
        refine makeInside_of_missing hp.legal (l := follow (files.startOf root) names) ?_
        rcases walk_of_fits hp'.fits fun front n hn =>
          hp'.file front ((List.prefix_append front [n]).trans hn) with hok | hmissing
        · refine .inr ⟨hok, not_not.1 fun hne => hway (isWay_of_leads (walk_eq_ok_iff.1 hok).1 ?_)⟩
          exact at?_eq_directory hne (hp'.file names List.prefix_rfl)
        · exact .inl hmissing
      obtain ⟨around, haround, hmadeAround⟩ :=
        ih (hpath.of_subset (List.subset_append_left names [name])) hp'
      have hstart := hmadeAround.startOf root
      obtain ⟨made, hmade, hmake⟩ := makeInside_spec hpath ((hmadeAround.isPassable_iff hp.start).2 hp) (by
        rw [hstart]
        exact fun front hf => hmadeAround.directory (hp'.file front hf) hf)
      rw [hstart] at hmade
      refine ⟨made, ?_, hmadeAround.trans hmade (List.prefix_append names [name])⟩
      rw [hmissing]
      simp only [List.dropLast_concat, haround, bind, Except.bind]
      rcases hmake with hok | ⟨htaken, hthere⟩
      · rw [hok]
        rfl
      · rw [htaken]
        exact hthere

end Files

end GridGauge
