import GridGauge.Files
import GridGauge.Proofs.Exposition

/-!
# Where paths lead

A path is written as names with slashes between them, behind a root, and its
names can be told from the text again (`namesOf_pathOf`). Names lead somewhere
if each of them starts in a directory, and then they are followed to the end
(`walk_eq_ok_iff`); names that do not lead through a file can only fail for want
of a directory (`walk_of_fits`).

What there is at a location tells of the locations around it: around a file or
directory something is there (`at?_ne_none_of_prefix`).
-/

namespace GridGauge

namespace Text

variable {c : CodePoint}

theorem splitAtEach_of_not_mem {t : Text} (h : c ∉ t) : splitAtEach c t = [t] := by
  induction t with
  | nil => rfl
  | cons d t ih =>
    rw [List.mem_cons, not_or] at h
    rw [splitAtEach, if_neg (Ne.symm h.1), ih h.2]

/-- Texts without the separator, put together with it, are the parts between its occurrences. -/
theorem splitAtEach_join {ts : List Text} (hne : ts ≠ []) (h : ∀ t ∈ ts, c ∉ t) :
    splitAtEach c (join [c] ts) = ts := by
  induction ts with
  | nil => exact absurd rfl hne
  | cons t ts ih =>
    obtain ⟨ht, hts⟩ := List.forall_mem_cons.1 h
    cases ts with
    | nil => exact splitAtEach_of_not_mem ht
    | cons u ts =>
      rw [join, List.append_assoc, List.singleton_append, splitAtEach_append ht,
        ih (List.cons_ne_nil u ts) hts]
      exact List.cons_ne_nil u ts

theorem not_mem_of_mem_splitAtEach {t part : Text} (h : part ∈ splitAtEach c t) : c ∉ part := by
  induction t generalizing part with
  | nil =>
    rw [splitAtEach, List.mem_singleton] at h
    rw [h]
    exact List.not_mem_nil
  | cons d t ih =>
    rw [splitAtEach] at h
    split at h
    · rcases List.mem_cons.1 h with rfl | h
      · exact List.not_mem_nil
      · exact ih h
    · next hd =>
      split at h
      · next hs => exact absurd hs (splitAtEach_ne_nil c t)
      · next first parts hs =>
        rcases List.mem_cons.1 h with rfl | h
        · exact List.not_mem_cons_of_ne_of_not_mem (Ne.symm hd) (ih (hs ▸ List.mem_cons_self))
        · exact ih (hs ▸ List.mem_cons_of_mem _ h)

end Text

namespace Files

variable {files made : Files} {l start : Location} {name : Text} {names front : List Text}
  {root path : Text}

/-! ## Names in paths -/

/-- The text is one of the names of a path: there is no slash in it, and it does not stay where it
    is. -/
structure IsStep (name : Text) : Prop where
  unslashed : slash ∉ name
  moves : name ≠ [] ∧ name ≠ "."

instance (name : Text) : Decidable (IsStep name) :=
  decidable_of_iff (slash ∉ name ∧ name ≠ [] ∧ name ≠ ".") ⟨fun h => ⟨h.1, h.2⟩, fun h => ⟨h.1, h.2⟩⟩

theorem isStep_of_mem_namesOf (h : name ∈ namesOf path) : IsStep name := by
  obtain ⟨hmem, hmoves⟩ := List.mem_filter.1 h
  refine ⟨Text.not_mem_of_mem_splitAtEach hmem, ?_⟩
  simpa using hmoves

theorem namesOf_slash (t : Text) : namesOf (slash :: t) = namesOf t := by
  rw [namesOf, Text.splitAtEach, if_pos rfl]
  rfl

theorem namesOf_join (h : ∀ n ∈ names, IsStep n) : namesOf (Text.join [slash] names) = names := by
  cases names with
  | nil => rfl
  | cons name names =>
    rw [namesOf, Text.splitAtEach_join (List.cons_ne_nil name names) fun n hn => (h n hn).unslashed]
    refine List.filter_eq_self.2 fun n hn => ?_
    simpa using (h n hn).moves

theorem namesOf_slashes (h : ∀ c ∈ root, c = slash) (t : Text) : namesOf (root ++ t) = namesOf t := by
  induction root with
  | nil => rfl
  | cons c root ih =>
    obtain ⟨rfl, hroot⟩ := List.forall_mem_cons.1 h
    rw [List.cons_append, namesOf_slash, ih hroot]

theorem isRooted_cons (c : CodePoint) (t : Text) : isRooted (c :: t) = (slash == c) := by
  rw [isRooted, Text.startsWith, List.isPrefixOf, List.isPrefixOf, Bool.and_true]

theorem isEmpty_rootOf (path : Text) : (rootOf path).isEmpty = !isRooted path := by
  cases path with
  | nil => rfl
  | cons c t =>
    rw [isRooted_cons]
    unfold rootOf
    split <;> simp_all [slash]
    next hc => exact fun h => hc h.symm

/-- A root and names are parts of a path, so that they can be told from it. -/
structure IsPath (root : Text) (names : List Text) : Prop where
  root : ∀ c ∈ root, c = slash
  names : ∀ n ∈ names, IsStep n

theorem isPath_of_text (path : Text) : IsPath (rootOf path) (namesOf path) where
  root := by
    unfold rootOf
    split <;> simp
  names _ := isStep_of_mem_namesOf

theorem isPath_slash (h : ∀ n ∈ names, IsStep n) : IsPath [slash] names :=
  ⟨fun _ hc => List.mem_singleton.1 hc, h⟩

theorem IsPath.of_subset (h : IsPath root names) {names' : List Text} (hsub : names' ⊆ names) :
    IsPath root names' :=
  ⟨h.root, fun n hn => h.names n (hsub hn)⟩

theorem namesOf_pathOf (h : IsPath root names) : namesOf (pathOf root names) = names := by
  simp only [pathOf]
  split
  · next hempty =>
    have hnames := namesOf_slashes h.root (Text.join [slash] names)
    rw [List.isEmpty_iff.1 hempty, namesOf_join h.names] at hnames
    exact hnames
  · rw [namesOf_slashes h.root, namesOf_join h.names]

theorem isRooted_pathOf (h : IsPath root names) :
    isRooted (pathOf root names) = !root.isEmpty := by
  cases root with
  | cons c root =>
    rw [h.root c List.mem_cons_self]
    exact isRooted_cons _ _
  | nil =>
    cases names with
    | nil => rfl
    | cons name names =>
      obtain ⟨hname, hmoves⟩ := h.names name List.mem_cons_self
      cases name with
      | nil => exact absurd rfl hmoves.1
      | cons c name =>
        have hfirst : ∃ t, pathOf [] ((c :: name) :: names) = c :: t := by
          cases names <;> exact ⟨_, rfl⟩
        obtain ⟨t, ht⟩ := hfirst
        rw [ht, isRooted_cons, beq_eq_false_iff_ne.2]
        · rfl
        · exact fun hc => hname (hc ▸ List.mem_cons_self)

/-! ## Legal paths -/

theorem octetCount_append (t u : Text) : octetCount (t ++ u) = octetCount t + octetCount u := by
  simp only [octetCount, List.filter_append, List.length_append, Utf8.encode, List.flatMap_append]
  omega

theorem fault?_eq_none_iff : fault? path = none ↔
    (∀ c ∈ path, (Text.isSurrogate c && !standsForOctet c) = false) ∧ 0 ∉ path ∧
      octetCount path ≤ pathLimit := by
  rw [← SurrogateFault.find?_eq_none_iff (n := 0), fault?]
  cases SurrogateFault.find? standsForOctet 0 path with
  | some f => exact iff_of_false nofun nofun
  | none =>
    simp only [List.contains_iff_mem, true_and]
    by_cases hzero : 0 ∈ path
    · exact iff_of_false (by rw [if_pos hzero]; exact nofun) fun h => h.1 hzero
    · rw [if_neg hzero, and_iff_right hzero]
      by_cases hlong : pathLimit < octetCount path
      · exact iff_of_false (by rw [if_pos hlong]; exact nofun) (Nat.not_le.2 hlong)
      · exact iff_of_true (if_neg hlong) (Nat.le_of_not_lt hlong)

/-- Where a text is legal as a path, so is all that it begins with. -/
theorem fault?_eq_none_of_prefix {t : Text} (h : fault? path = none) (ht : t <+: path) :
    fault? t = none := by
  obtain ⟨hlone, hzero, hlong⟩ := fault?_eq_none_iff.1 h
  obtain ⟨u, rfl⟩ := ht
  rw [octetCount_append] at hlong
  refine fault?_eq_none_iff.2 ⟨fun c hc => hlone c (List.mem_append_left u hc),
    fun hc => hzero (List.mem_append_left u hc), by omega⟩

theorem join_prefix_join (c : CodePoint) (names rest : List Text) :
    Text.join [c] names <+: Text.join [c] (names ++ rest) := by
  induction names with
  | nil => exact List.nil_prefix
  | cons name names ih =>
    cases names with
    | nil =>
      cases rest with
      | nil => exact List.prefix_rfl
      | cons r rest =>
        rw [List.singleton_append, Text.join, Text.join, List.append_assoc]
        · exact List.prefix_append _ _
        · exact List.cons_ne_nil r rest
    | cons n names => exact (List.prefix_append_right_inj (name ++ [c])).2 ih

/-- The paths on the way of a legal path are legal. -/
theorem fault?_pathOf_of_prefix (h : fault? (pathOf root names) = none) (hf : front <+: names) :
    fault? (pathOf root front) = none := by
  obtain ⟨rest, rfl⟩ := hf
  have hpre : root ++ Text.join [slash] front <+: root ++ Text.join [slash] (front ++ rest) :=
    (List.prefix_append_right_inj root).2 (join_prefix_join slash front rest)
  simp only [pathOf] at h ⊢
  split
  · decide
  · next hne =>
    rw [if_neg] at h
    · exact fault?_eq_none_of_prefix h hpre
    · intro hempty
      rw [List.isEmpty_iff.1 hempty, List.prefix_nil] at hpre
      exact hne (List.isEmpty_iff.2 hpre)

/-! ## What there is -/

theorem at?_eq_none_iff : files.at? l = none ↔ l ≠ [] ∧ ∀ e ∈ files.entries, ¬l <+: e.1 := by
  have hfind : (∀ e ∈ files.entries, ¬l <+: e.1) → files.entries.find? l = none := fun h =>
    Option.map_eq_none_iff.2 (List.find?_eq_none.2 fun e he heq =>
      h e he (beq_iff_eq.1 heq ▸ List.prefix_rfl))
  have hany : (l.isEmpty || files.entries.any fun e => l.isPrefixOf e.1) = true
      ↔ ¬(l ≠ [] ∧ ∀ e ∈ files.entries, ¬l <+: e.1) := by
    simp [imp_iff_not_or]
  constructor
  · intro h
    rw [at?] at h
    split at h
    · cases h
    · split at h
      · cases h
      · next hnot => exact not_not.1 (mt hany.2 hnot)
  · intro h
    rw [at?, hfind h.2, if_neg fun hor => hany.1 hor h]

theorem at?_eq_file_iff {content : Bytes} :
    files.at? l = some (.file content) ↔ files.entries.find? l = some (.file content) := by
  rw [at?]
  split
  · next h => rw [h]
  · next h =>
    rw [h]
    split <;> exact iff_of_false nofun nofun

/-- Around what is there something is there. -/
theorem at?_ne_none_of_prefix {l' : Location} {e : FileEntry} (h : files.at? l = some e)
    (hl : l' <+: l) : files.at? l' ≠ none := by
  intro hnone
  obtain ⟨hne, hout⟩ := at?_eq_none_iff.1 hnone
  rw [at?_eq_none_iff.2 ⟨fun hempty => hne (List.prefix_nil.1 (hempty ▸ hl)),
    fun e he hpre => hout e he (hl.trans hpre)⟩] at h
  cases h

/-- There is nothing, a directory or a file. -/
theorem at?_eq_directory (h : files.at? l ≠ none)
    (hfile : ∀ content, files.at? l ≠ some (.file content)) : files.at? l = some .directory := by
  cases he : files.at? l with
  | none => exact absurd he h
  | some e =>
    cases e with
    | directory => rfl
    | file content => exact absurd he (hfile content)

theorem at?_put (files : Files) (l : Location) (e : FileEntry) : (files.put l e).at? l = some e := by
  rw [at?, put, Bindings.find?_put, if_pos (beq_self_eq_true l)]

/-- With a directory those around it are made. -/
theorem at?_put_eq_none_iff {l' : Location} (h : files.at? l = none) :
    (files.put l .directory).at? l' = none ↔ files.at? l' = none ∧ ¬l' <+: l := by
  have hnot : ¬Bindings.has files.entries l = true := by
    rw [Bindings.has_eq_isSome_find?]
    intro hsome
    obtain ⟨e, he⟩ := Option.isSome_iff_exists.1 hsome
    rw [at?, he] at h
    cases h
  rw [at?_eq_none_iff, at?_eq_none_iff, put, Bindings.put, if_neg hnot]
  simp only [List.forall_mem_append, List.forall_mem_singleton, and_assoc]

/-- Where a directory is made there was no file, and there is none. -/
theorem at?_put_eq_file_iff {l' : Location} {content : Bytes} (h : files.at? l = none) :
    (files.put l .directory).at? l' = some (.file content)
      ↔ files.at? l' = some (.file content) := by
  rw [at?_eq_file_iff, at?_eq_file_iff, put, Bindings.find?_put]
  split
  · next heq =>
    rw [← beq_iff_eq.1 heq, ← at?_eq_file_iff, h]
    exact iff_of_false nofun nofun
  · rfl

/-! ## Following names -/

/-- The location that a name leads to. -/
def enter (l : Location) (name : Text) : Location := if name == ".." then l.dropLast else inside l name

theorem follow_cons (start : Location) (name : Text) (names : List Text) :
    follow start (name :: names) = follow (enter start name) names := rfl

theorem follow_concat (start : Location) (names : List Text) (name : Text) :
    follow start (names ++ [name]) = enter (follow start names) name := by
  rw [follow, List.foldl_append]
  rfl

/-- The name is short enough. -/
def Fits (name : Text) : Prop := octetCount name ≤ nameLimit

instance (name : Text) : Decidable (Fits name) := inferInstanceAs (Decidable (_ ≤ _))

theorem walk_cons (hat : files.at? start = some .directory) (h : Fits name) (names : List Text) :
    files.walk start (name :: names) = files.walk (enter start name) names := by
  rw [walk, hat, enter]
  simp only [if_neg (Nat.not_lt.2 h)]
  split <;> rfl

theorem walk_cons_of_not_fits (hat : files.at? start = some .directory) (h : ¬Fits name)
    (names : List Text) : files.walk start (name :: names) = .error .tooLong := by
  have hup : ¬(name == "..") = true := fun heq => h (beq_iff_eq.1 heq ▸ by decide)
  rw [walk, hat]
  simp only [if_neg hup, if_pos (Nat.lt_of_not_le h)]

/-- Each of the names starts in a directory, and none is too long. -/
def Leads (files : Files) (start : Location) (names : List Text) : Prop :=
  ∀ front name, front ++ [name] <+: names →
    files.at? (follow start front) = some .directory ∧ Fits name

theorem leads_nil : files.Leads start [] := fun _ _ h => by simp at h

theorem leads_cons : files.Leads start (name :: names) ↔
    (files.at? start = some .directory ∧ Fits name) ∧ files.Leads (enter start name) names := by
  constructor
  · refine fun h => ⟨h [] name ⟨names, rfl⟩, fun front n hn => ?_⟩
    exact h (name :: front) n (List.cons_prefix_cons.2 ⟨rfl, hn⟩)
  · rintro ⟨hfirst, hrest⟩ front n hn
    cases front with
    | nil =>
      obtain rfl := (List.cons_prefix_cons.1 hn).1
      exact hfirst
    | cons m front =>
      obtain ⟨hm, hrest'⟩ := List.cons_prefix_cons.1 hn
      subst hm
      exact hrest front n hrest'

/-- Names are followed to the end if and only if they lead there. -/
theorem walk_eq_ok_iff :
    files.walk start names = .ok l ↔ files.Leads start names ∧ follow start names = l := by
  induction names generalizing start with
  | nil =>
    rw [walk, Except.ok.injEq]
    exact ⟨fun h => ⟨leads_nil, h⟩, fun h => h.2⟩
  | cons name names ih =>
    rw [leads_cons, follow_cons]
    by_cases hat : files.at? start = some .directory
    · by_cases hname : Fits name
      · rw [walk_cons hat hname, ih]
        exact and_congr_left fun _ => (and_iff_right ⟨hat, hname⟩).symm
      · rw [walk_cons_of_not_fits hat hname]
        exact iff_of_false nofun fun h => hname h.1.1.2
    · refine iff_of_false (fun h => ?_) fun h => hat h.1.1.1
      rw [walk] at h
      split at h <;> first | exact hat ‹_› | cases h

/-- Names that fit and lead through no file are followed to the end, or to where nothing is. -/
theorem walk_of_fits (hfit : ∀ n ∈ names, Fits n)
    (hfile : ∀ front name, front ++ [name] <+: names → ∀ content,
      files.at? (follow start front) ≠ some (.file content)) :
    files.walk start names = .ok (follow start names) ∨ files.walk start names = .error .missing := by
  induction names generalizing start with
  | nil => exact .inl rfl
  | cons name names ih =>
    obtain ⟨hname, hfit⟩ := List.forall_mem_cons.1 hfit
    cases hat : files.at? start with
    | none =>
      right
      rw [walk, hat]
    | some e =>
      cases e with
      | file content => exact absurd hat (hfile [] name ⟨names, rfl⟩ content)
      | directory =>
        rw [walk_cons hat hname, follow_cons]
        exact ih hfit fun front n hn => hfile (name :: front) n (List.cons_prefix_cons.2 ⟨rfl, hn⟩)

end Files

end GridGauge
