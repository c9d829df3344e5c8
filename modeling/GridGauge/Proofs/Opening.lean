import GridGauge.Proofs.Directories

/-!
# Opening a log file

A log file can be kept at a path if directories lead there or can be made to,
and there is a file at its location or room for one (`TakesLog`). That says
what is to be found along the path before anything is opened. There the file is
opened and made if need be (`exists_openLog`).

The directories are made along the path, but the file is looked for along its
location, in which no two points are left.
-/

namespace GridGauge

namespace Files

variable {files made : Files} {l start : Location} {name : Text} {names front : List Text}
  {root path : Text}

/-! ## The file itself -/

/-- The text is the name of a file or directory in another one. -/
structure IsName (name : Text) : Prop where
  step : IsStep name
  forward : name ≠ ".."
  fits : Fits name

instance (name : Text) : Decidable (IsName name) :=
  decidable_of_iff (IsStep name ∧ name ≠ ".." ∧ Fits name)
    ⟨fun h => ⟨h.1, h.2.1, h.2.2⟩, fun h => ⟨h.step, h.forward, h.fits⟩⟩

theorem follow_of_forward (h : ∀ n ∈ names, n ≠ "..") (start : Location) :
    follow start names = start ++ names := by
  induction names generalizing start with
  | nil => exact (List.append_nil start).symm
  | cons name names ih =>
    obtain ⟨hname, hnames⟩ := List.forall_mem_cons.1 h
    have hnext : enter start name = start ++ [name] := if_neg fun heq => hname (beq_iff_eq.1 heq)
    rw [follow_cons, ih hnames, hnext, List.append_assoc]
    rfl

theorem locate_eq (files : Files) (path : Text) :
    files.locate path = follow (files.startOf (rootOf path)) (namesOf path) := by
  rw [locate, startOf, isEmpty_rootOf]
  cases isRooted path <;> rfl

/-- A log file can be kept at a path. The directories around it are there or can be made, and at its
    location there is a file already, or there is nothing, not even after the directories have been
    made. -/
structure TakesLog (files : Files) (path : Text) : Prop where
  around : files.IsPassable (rootOf path) (namesOf path).dropLast
  legal : fault? (textOf (files.locate path)) = none
  names : ∀ name ∈ files.locate path, IsName name
  file : ∀ front, front <+: files.locate path → front ≠ files.locate path → ∀ content,
    files.at? front ≠ some (.file content)
  room : (∃ content, files.at? (files.locate path) = some (.file content)) ∨
    files.at? (files.locate path) = none ∧ ∀ front, front <+: (namesOf path).dropLast →
      ¬files.locate path <+: follow (files.startOf (rootOf path)) front

/-- A location is followed from the root. -/
theorem read_textOf_eq_walk (files : Files) (hlegal : fault? (textOf l) = none)
    (hsteps : ∀ n ∈ l, IsStep n) :
    files.read (textOf l) = (files.walk [] l).bind fun l =>
      match files.at? l with
      | some e => .ok e
      | none => .error .missing := by
  have hread : files.read (pathOf [slash] l) = (files.walk (files.startOf [slash]) l).bind _ :=
    read_pathOf (isPath_slash hsteps) hlegal
  exact hread

theorem prefix_and_ne_of_concat (h : front ++ [name] <+: l) : front <+: l ∧ front ≠ l := by
  refine ⟨(List.prefix_append front [name]).trans h, fun heq => ?_⟩
  have hlength := h.length_le
  rw [heq, List.length_append, List.length_singleton] at hlength
  omega

/-- What is read at a location that is told by names, if no file is in the way. -/
theorem read_textOf (files : Files) (hlegal : fault? (textOf l) = none) (hnames : ∀ n ∈ l, IsName n)
    (hfile : ∀ front, front <+: l → front ≠ l → ∀ content, files.at? front ≠ some (.file content)) :
    files.read (textOf l) = match files.at? l with
      | some e => .ok e
      | none => .error .missing := by
  have hfollow : follow [] l = l := by
    rw [follow_of_forward fun n hn => (hnames n hn).forward, List.nil_append]
  -- Along the location nothing is a file.
  have hway : ∀ front n, front ++ [n] <+: l → follow [] front = front ∧
      ∀ content, files.at? (follow [] front) ≠ some (.file content) := fun front n hn => by
    have hfront : follow [] front = front := by
      rw [follow_of_forward fun m hm => (hnames m (hn.subset (List.mem_append_left _ hm))).forward,
        List.nil_append]
    obtain ⟨hpre, hne⟩ := prefix_and_ne_of_concat hn
    rw [hfront]
    exact ⟨rfl, hfile front hpre hne⟩
  rw [read_textOf_eq_walk files hlegal fun n hn => (hnames n hn).step]
  cases hat : files.at? l with
  | none =>
    rcases walk_of_fits (fun n hn => (hnames n hn).fits) fun front n hn => (hway front n hn).2 with
      hok | hmissing
    · rw [hok, hfollow, Except.bind, hat]
    · rw [hmissing, Except.bind]
  | some e =>
    have hleads : files.Leads [] l := fun front n hn => by
      refine ⟨at?_eq_directory ?_ (hway front n hn).2, (hnames n ?_).fits⟩
      · rw [(hway front n hn).1]
        exact at?_ne_none_of_prefix hat (prefix_and_ne_of_concat hn).1
      · exact hn.subset (List.mem_append_right _ List.mem_cons_self)
    rw [walk_eq_ok_iff.2 ⟨hleads, hfollow⟩, Except.bind, hat]

/-- Where a log file can be kept, it is opened, and then there is a file. -/
theorem exists_openLog (h : files.TakesLog path) :
    ∃ made content, files.openLog path = .ok (made, files.locate path) ∧
      made.at? (files.locate path) = some (.file content) := by
  obtain ⟨around, haround, hmade⟩ :=
    exists_makeDirectory ((isPath_of_text path).of_subset (List.dropLast_subset _)) h.around
  have hlocate : around.locate path = files.locate path := by
    rw [locate_eq, locate_eq, hmade.startOf]
  have hread := read_textOf around h.legal h.names fun front hf hne content hfile =>
    h.file front hf hne content ((hmade.file _ content).1 hfile)
  rw [openLog, haround]
  simp only [bind, Except.bind, hlocate, hread]
  rcases h.room with ⟨content, hfile⟩ | ⟨hnone, hout⟩
  · have hat := (hmade.file _ content).2 hfile
    rw [hat]
    exact ⟨around, content, rfl, hat⟩
  · rw [(hmade.missing _).2 ⟨hnone, hout⟩]
    exact ⟨around.put (files.locate path) (.file []), [], rfl, at?_put _ _ _⟩

end Files

end GridGauge
