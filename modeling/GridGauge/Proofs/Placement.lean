import GridGauge.CommandLine
import GridGauge.Proofs.Attempts
import Mathlib.Data.List.Induction

/-!
# Where options stand

The options of settings may stand in front of a command and behind it. Each of
the two places is read by itself, but what is read behind the command is added
to what has been read in front of it. So an option that is given in front is
lost only to the same option given later, and it makes no difference on which
side of the command the options stand (`parse_placement`).

An option makes of the words read so far a step that depends on nothing but
its value (`Item.take`), and the options for reporting make steps that change
something else. A line is therefore accepted when each value is one for its
option, whatever is on which side, and what it comes to can be told from the
values in order (`parse_eq_ok_iff`).
-/

namespace GridGauge

namespace Bindings

variable {κ α : Type} [BEq κ]

theorem putAll_append (bs as as' : Bindings κ α) :
    bs.putAll (as ++ as') = (bs.putAll as).putAll as' := List.foldl_append

theorem putAll_concat (bs as : Bindings κ α) (b : κ × α) :
    bs.putAll (as ++ [b]) = (bs.putAll as).put b.1 b.2 := putAll_append bs as [b]

end Bindings

namespace CommandLine

/-! ## Options in writing -/

/-- An option of a setting with its value as it is written. -/
abbrev Given := Flag × Text

/-- An option that may stand behind a command. -/
inductive Item
  | setting (s : Given)
  | json
  | pretty
  deriving DecidableEq, Repr

namespace Item

/-- The arguments of an option, spelled in full. -/
def args : Item → List Text
  | setting (f, value) => [f.spelling, value]
  | json => ["--json"]
  | pretty => ["--pretty"]

/-- What the arguments of an option are. -/
def words : Item → List (Text × Word)
  | setting (f, value) => [(f.spelling, .switch (.flag f) none), (value, .plain)]
  | json => [("--json", .switch .json none)]
  | pretty => [("--pretty", .switch .pretty none)]

/-- The option of a setting, if it is one. -/
def setting? : Item → Option Given
  | setting s => some s
  | json | pretty => none

/-- May the option stand in a place? With the command that tells the version none may, and only
    one command has options for reporting. -/
def MayStand (p : Place) : Item → Prop
  | setting (_, value) => value.head? ≠ some hyphen ∧ p ≠ .behind .version
  | json | pretty => p = .behind .collect

end Item

/-- The arguments of several options. -/
def written (items : List Item) : List Text := items.flatMap Item.args

/-- The options of settings among others, in order. -/
def settingsOf (items : List Item) : List Given := items.filterMap Item.setting?

/-- The options for reporting among others, in order. -/
def reportsOf (items : List Item) : List Item := items.filter fun i => i.setting?.isNone

@[simp] theorem settingsOf_setting (s : Given) (items : List Item) :
    settingsOf (.setting s :: items) = s :: settingsOf items := rfl

/-- The value written last for an option, if there is one. -/
def lastWritten (f : Flag) (l : List Given) : Option Text :=
  ((l.filter fun s => s.1 = f).getLast?).map Prod.snd

/-- No value in a place has a hyphen in front. -/
theorem head_of_mayStand {p : Place} {items : List Item} (h : ∀ i ∈ items, i.MayStand p) :
    ∀ s ∈ settingsOf items, s.2.head? ≠ some hyphen := by
  intro s hs
  obtain ⟨i, hi, his⟩ := List.mem_filterMap.1 hs
  cases i with
  | setting s' =>
    cases his
    exact (h _ hi).1
  | json | pretty => cases his

/-! ## What the arguments are -/

theorem classify_spelling {p : Place} (hp : p ≠ .behind .version) (f : Flag) :
    classify p f.spelling = .ok (.switch (.flag f) none) := by
  have : ∀ p : Place, p ≠ .behind .version → classify p f.spelling
      = .ok (.switch (.flag f) none) := by
    rintro (_ | _ | _ | _ | _) hp
    case behind.version => exact absurd rfl hp
    all_goals cases f <;> rfl
  exact this p hp

/-- What has no hyphen in front is no option, whatever it is. -/
theorem classify_of_head {t : Text} (h : t.head? ≠ some hyphen) (p : Place) :
    classify p t = .ok .plain := by
  unfold classify
  split
  · exact absurd rfl h
  · rfl

theorem words_cons {t : Text} {w : Word} {p : Place} (h : classify p t = .ok w) (hne : t ≠ "--")
    (ts : List Text) : words p (t :: ts) = (words p ts).map ((t, w) :: ·) := by
  rw [words, if_neg (by simpa using hne), h]
  cases words p ts <;> rfl

theorem ne_separator_of_head {t : Text} (h : t.head? ≠ some hyphen) : t ≠ "--" := by
  rintro rfl
  exact h rfl

/-- An option in its place is known for what it is. -/
theorem words_item {p : Place} {i : Item} (h : i.MayStand p) (rest : List Text) :
    words p (i.args ++ rest) = (words p rest).map (i.words ++ ·) := by
  cases i with
  | setting s =>
    obtain ⟨f, value⟩ := s
    obtain ⟨hvalue, hp⟩ := h
    have hspelling : f.spelling ≠ "--" := by cases f <;> decide
    rw [Item.args, List.cons_append, List.singleton_append,
      words_cons (classify_spelling hp f) hspelling,
      words_cons (classify_of_head hvalue p) (ne_separator_of_head hvalue)]
    cases words p rest <;> rfl
  | json | pretty =>
    cases h
    exact words_cons rfl (by decide) rest

theorem words_written {p : Place} {items : List Item} (h : ∀ i ∈ items, i.MayStand p)
    (rest : List Text) :
    words p (written items ++ rest) = (words p rest).map (items.flatMap Item.words ++ ·) := by
  induction items with
  | nil => cases h : words p rest <;> simp [written, h, Except.map]
  | cons i items ih =>
    obtain ⟨hi, hitems⟩ := List.forall_mem_cons.1 h
    rw [written, List.flatMap_cons, List.append_assoc, words_item hi, ← written, ih hitems]
    cases words p rest <;> simp [Except.map]

/-- To know what the arguments are leaves them as they are. -/
theorem map_fst_words {p : Place} {ts : List Text} {ws : List (Text × Word)}
    (h : words p ts = .ok ws) : ws.map Prod.fst = ts := by
  induction ts generalizing ws with
  | nil => cases h; rfl
  | cons t ts ih =>
    rw [words] at h
    split at h
    · cases h
      simp [List.map_map, Function.comp_def]
    · cases hw : classify p t with
      | error e => rw [hw] at h; cases h
      | ok w =>
        cases hws : words p ts with
        | error e => rw [hw, hws] at h; cases h
        | ok ws' =>
          rw [hw, hws] at h
          cases h
          rw [List.map_cons, ih hws]

/-- In front of the command nothing is amiss with an option that stands behind it. -/
theorem exists_words_front {items : List Item}
    (h : ∀ s ∈ settingsOf items, s.2.head? ≠ some hyphen) :
    ∃ ws, words .front (written items) = .ok ws := by
  induction items with
  | nil => exact ⟨[], rfl⟩
  | cons i items ih =>
    rw [written, List.flatMap_cons, ← written]
    cases i with
    | setting s =>
      rw [settingsOf_setting, List.forall_mem_cons] at h
      obtain ⟨ws, hws⟩ := ih h.2
      have hi : (Item.setting s).MayStand .front := ⟨h.1, nofun⟩
      exact ⟨_, by rw [words_item hi, hws]; rfl⟩
    | json | pretty =>
      obtain ⟨ws, hws⟩ := ih h
      exact ⟨_, by rw [Item.args, List.singleton_append, words_cons rfl (by decide), hws]; rfl⟩

/-! ## Steps -/

/-- What has been read with one more option. -/
def Item.take (g : Progress) : Item → Except UsageError Progress
  | setting (f, value) => (valueOf f value).map (g.give f)
  | json => .ok { g with arguments := { g.arguments with json := true } }
  | pretty => .ok { g with arguments := { g.arguments with pretty := true } }

theorem scan_item {p : Place} (i : Item) (ws : List (Text × Word)) (g : Progress) :
    scan p (i.words ++ ws) g =
      match i.take g with
      | .ok g => scan p ws g
      | .error e => .error (.usage p e) := by
  cases i with
  | setting s =>
    obtain ⟨f, value⟩ := s
    rw [Item.words, Item.take, List.cons_append, List.singleton_append, scan]
    cases valueOf f value <;> rfl
  | json | pretty => rfl

/-- Options are read one after the other, up to the first value that is none for its option. -/
theorem scan_items {p : Place} (items : List Item) (ws : List (Text × Word)) (g : Progress) :
    scan p (items.flatMap Item.words ++ ws) g =
      match items.foldlM Item.take g with
      | .ok g => scan p ws g
      | .error e => .error (.usage p e) := by
  induction items generalizing g with
  | nil => rfl
  | cons i items ih =>
    rw [List.flatMap_cons, List.append_assoc, scan_item, List.foldlM_cons]
    cases i.take g with
    | error e => rfl
    | ok g => exact ih g

/-- The options of settings with the values that are written for them, if each is one. -/
def valuesOf (l : List Given) : Except UsageError (Bindings Flag Setting) :=
  l.mapM fun s => (valueOf s.1 s.2).map (s.1, ·)

/-- What has been read with options of these values, and with those for reporting among `items`. -/
def Progress.with (g : Progress) (items : List Item) (values : Bindings Flag Setting) : Progress :=
  { g with
    arguments :=
      { g.arguments with
        values := g.arguments.values.putAll values
        json := g.arguments.json || items.contains .json
        pretty := g.arguments.pretty || items.contains .pretty } }

theorem valuesOf_cons (s : Given) (l : List Given) :
    valuesOf (s :: l) = (do
      let v ← valueOf s.1 s.2
      let vs ← valuesOf l
      return (s.1, v) :: vs) := by
  rw [valuesOf, List.mapM_cons, ← valuesOf]
  cases valueOf s.1 s.2 <;> rfl

/-- Only the order among the options of settings matters, and those for reporting never fail. -/
theorem foldlM_take (items : List Item) (g : Progress) :
    items.foldlM Item.take g = (valuesOf (settingsOf items)).map (g.with items) := by
  induction items generalizing g with
  | nil =>
    obtain ⟨⟨command, values, json, pretty⟩, leftOver⟩ := g
    simp [settingsOf, valuesOf, Progress.with, Bindings.putAll, Except.map, pure, Except.pure]
  | cons i items ih =>
    rw [List.foldlM_cons]
    cases i with
    | setting s =>
      rw [settingsOf_setting, valuesOf_cons, Item.take]
      cases valueOf s.1 s.2 with
      | error e => rfl
      | ok v =>
        refine (ih _).trans ?_
        cases valuesOf (settingsOf items) with
        | error e => rfl
        | ok vs =>
          simp [Except.map, Progress.with, Progress.give, Bindings.putAll, bind, Except.bind, pure,
            Except.pure]
    | json | pretty =>
      refine (ih _).trans ?_
      change _ = (valuesOf (settingsOf items)).map _
      cases valuesOf (settingsOf items) with
      | error e => rfl
      | ok vs => simp [Except.map, Progress.with]

/-! ## The values -/

theorem valuesOf_append (l l' : List Given) :
    valuesOf (l ++ l') = (do return (← valuesOf l) ++ (← valuesOf l')) := by
  rw [valuesOf, List.mapM_append]
  rfl

/-- There are values if each text is one for its option. -/
theorem exists_valuesOf_iff {l : List Given} :
    (∃ vs, valuesOf l = .ok vs) ↔ ∀ s ∈ l, ∃ v, valueOf s.1 s.2 = .ok v := by
  rw [valuesOf, exists_mapM_eq_ok_iff]
  exact forall₂_congr fun s _ => exists_map_eq_ok_iff

theorem lastWritten_concat (f : Flag) (l : List Given) (s : Given) :
    lastWritten f (l ++ [s]) = if s.1 = f then some s.2 else lastWritten f l := by
  rw [lastWritten, List.filter_append]
  by_cases h : s.1 = f <;> simp [h, lastWritten]

/-- Of an option that is given repeatedly the last value counts. -/
theorem find?_putAll_valuesOf {l : List Given} {vs : Bindings Flag Setting}
    (h : valuesOf l = .ok vs) (f : Flag) :
    (Bindings.putAll [] vs).find? f
      = (lastWritten f l).bind fun value => (valueOf f value).toOption := by
  induction l using List.reverseRecOn generalizing vs with
  | nil => cases h; rfl
  | append_singleton l s ih =>
    rw [valuesOf_append, valuesOf_cons] at h
    obtain ⟨vs', hl, h⟩ := exists_of_bind_eq_ok h
    obtain ⟨last, hlast, h⟩ := exists_of_bind_eq_ok h
    obtain ⟨v, hv, hlast⟩ := exists_of_bind_eq_ok hlast
    cases hlast
    have hvs : vs = vs' ++ [(s.1, v)] := by cases h; rfl
    rw [hvs, Bindings.putAll_concat, Bindings.find?_put, lastWritten_concat, ih hl]
    by_cases hs : s.1 = f
    · subst hs
      simp [hv, Except.toOption]
    · simp [hs]

/-! ## Whole lines -/

/-- What is read of a command line with options on both sides of a command. -/
def argumentsOf (c : Command) (values : Bindings Flag Setting) (post : List Item) : Arguments :=
  ⟨some c, Bindings.putAll [] values, post.contains .json, post.contains .pretty⟩

theorem settingsOf_map (l : List Given) : settingsOf (l.map .setting) = l := by
  rw [settingsOf, List.filterMap_map]
  exact List.filterMap_some

theorem ofName?_name (c : Command) : Command.ofName? c.name = some c := by
  cases c <;> rfl

section
variable {c : Command} {pre : List Given} {post : List Item}

/-- In front of the command the options there are read, and the rest is left. -/
theorem readAt_front (hpre : ∀ s ∈ pre, s.2.head? ≠ some hyphen)
    (hpost : ∀ s ∈ settingsOf post, s.2.head? ≠ some hyphen) :
    readAt .front (written (pre.map .setting) ++ c.name :: written post) {} =
      match valuesOf pre with
      | .ok vs => .ok (Progress.with {} (pre.map .setting) vs, c.name :: written post)
      | .error e => .error (.usage .front e) := by
  have hplace : ∀ i ∈ pre.map Item.setting, i.MayStand .front :=
    List.forall_mem_map.2 fun s hs => ⟨hpre s hs, nofun⟩
  have hname : c.name.head? ≠ some hyphen := by cases c <;> decide
  obtain ⟨ws, hws⟩ := exists_words_front hpost
  rw [readAt, words_written hplace,
    words_cons (classify_of_head hname _) (ne_separator_of_head hname), hws]
  show scan .front ((pre.map Item.setting).flatMap Item.words ++ (c.name, .plain) :: ws) {} = _
  rw [scan_items, foldlM_take, settingsOf_map]
  cases valuesOf pre with
  | error e => rfl
  | ok vs =>
    show Except.ok (_, c.name :: ws.map Prod.fst) = _
    rw [map_fst_words hws]

/-- Behind the command all that may stand there is read. -/
theorem readCommand_written (hpost : ∀ i ∈ post, i.MayStand (.behind c)) (g : Progress) :
    readCommand (c.name :: written post) g =
      match valuesOf (settingsOf post) with
      | .ok vs =>
        .ok ({ g with arguments := { g.arguments with command := some c } }.with post vs)
      | .error e => .error (.usage (.behind c) e) := by
  have hname : (c.name == ("--" : Text)) = false := by cases c <;> rfl
  have hwords := words_written hpost []
  rw [List.append_nil] at hwords
  rw [readCommand, hname, ofName?_name]
  show (readAt (.behind c) (written post) _).map Prod.fst = _
  rw [readAt, hwords]
  show (scan (.behind c) (post.flatMap Item.words ++ []) _).map Prod.fst = _
  rw [scan_items, foldlM_take]
  cases valuesOf (settingsOf post) <;> rfl

/-- A line is accepted when each value is one for its option, and then it does not matter where
    the options of settings stand. -/
theorem parse_eq_ok_iff (hpre : ∀ s ∈ pre, s.2.head? ≠ some hyphen)
    (hpost : ∀ i ∈ post, i.MayStand (.behind c)) {a : Arguments} :
    parse (written (pre.map .setting) ++ c.name :: written post) = .ok a ↔
      ∃ vs, valuesOf (pre ++ settingsOf post) = .ok vs ∧ a = argumentsOf c vs post := by
  rw [parse, readAt_front hpre (head_of_mayStand hpost), valuesOf_append]
  cases valuesOf pre with
  | error e => exact ⟨nofun, nofun⟩
  | ok vs =>
    show (do
      let g ← readCommand (c.name :: written post) _
      if g.leftOver.isEmpty then return g.arguments else throw _) = _ ↔ _
    rw [readCommand_written hpost]
    cases valuesOf (settingsOf post) with
    | error e => exact ⟨nofun, nofun⟩
    | ok vs' =>
      have hread : Progress.with
          { Progress.with {} (pre.map .setting) vs with
            arguments := { (Progress.with {} (pre.map .setting) vs).arguments with
              command := some c } } post vs' = ⟨argumentsOf c (vs ++ vs') post, []⟩ := by
        simp [Progress.with, argumentsOf, Bindings.putAll_append]
      dsimp only [bind, Except.bind]
      rw [hread]
      constructor
      · rintro h
        cases h
        exact ⟨_, rfl, rfl⟩
      · rintro ⟨_, h, rfl⟩
        cases h
        rfl

theorem settingsOf_reportsOf (items : List Item) : settingsOf (reportsOf items) = [] := by
  rw [settingsOf, List.filterMap_eq_nil_iff]
  intro i hi
  exact Option.isNone_iff_eq_none.1 (List.mem_filter.1 hi).2

theorem contains_reportsOf {i : Item} (hi : i.setting?.isNone) (items : List Item) :
    (reportsOf items).contains i = items.contains i := by
  rw [Bool.eq_iff_iff, List.contains_iff_mem, List.contains_iff_mem, reportsOf, List.mem_filter]
  exact and_iff_left hi

theorem argumentsOf_reportsOf (c : Command) (values : Bindings Flag Setting) (items : List Item) :
    argumentsOf c values (reportsOf items) = argumentsOf c values items := by
  rw [argumentsOf, argumentsOf, contains_reportsOf rfl, contains_reportsOf rfl]

end

/-- It makes no difference on which side of a command the options of settings stand. With them in
    front and behind, or all in front, a line is accepted when each value is one for its option; and
    then both lines ask for the same: the command, for each option the value that is written last,
    and the report that the options behind the command ask for. -/
theorem parse_placement (c : Command) (pre : List Given) (post : List Item)
    (hpre : ∀ s ∈ pre, s.2.head? ≠ some hyphen) (hpost : ∀ i ∈ post, i.MayStand (.behind c)) :
    let apart := parse (written (pre.map .setting) ++ c.name :: written post)
    let inFront := parse
      (written ((pre ++ settingsOf post).map .setting) ++ c.name :: written (reportsOf post))
    ((∃ a, apart = .ok a) ↔ ∀ s ∈ pre ++ settingsOf post, ∃ v, valueOf s.1 s.2 = .ok v) ∧
    ((∃ a, apart = .ok a) ↔ ∃ a, inFront = .ok a) ∧
    ∀ a, apart = .ok a → inFront = .ok a ∧ a.toRun = c ∧
      (∀ f, a.value? f = (lastWritten f (pre ++ settingsOf post)).bind fun value =>
        (valueOf f value).toOption) ∧
      (a.json = true ↔ .json ∈ post) ∧ (a.pretty = true ↔ .pretty ∈ post) := by
  intro apart inFront
  have hmoved : ∀ s ∈ pre ++ settingsOf post, s.2.head? ≠ some hyphen :=
    List.forall_mem_append.2 ⟨hpre, head_of_mayStand hpost⟩
  have hreports : ∀ i ∈ reportsOf post, i.MayStand (.behind c) := fun i hi =>
    hpost i (List.mem_filter.1 hi).1
  have hapart : ∀ {a}, apart = .ok a ↔ _ := parse_eq_ok_iff hpre hpost
  have hfront : ∀ {a}, inFront = .ok a ↔ _ := parse_eq_ok_iff hmoved hreports
  simp only [settingsOf_reportsOf, List.append_nil, argumentsOf_reportsOf] at hfront
  refine ⟨?_, ?_, fun a ha => ?_⟩
  · rw [← exists_valuesOf_iff]
    exact ⟨fun ⟨_, ha⟩ => let ⟨vs, hvs, _⟩ := hapart.1 ha; ⟨vs, hvs⟩,
      fun ⟨vs, hvs⟩ => ⟨_, hapart.2 ⟨vs, hvs, rfl⟩⟩⟩
  · exact exists_congr fun a => hapart.trans hfront.symm
  · refine ⟨hfront.2 (hapart.1 ha), ?_⟩
    obtain ⟨vs, hvs, rfl⟩ := hapart.1 ha
    exact ⟨rfl, find?_putAll_valuesOf hvs, List.contains_iff_mem, List.contains_iff_mem⟩

/-- The port is given on both sides of the command: the one behind counts, and so it does when it is
    moved in front. -/
theorem port_moved_in_front :
    let front : List Text := ["--hub", "http://early:4444", "--port", "9100"]
    let port : List Text := ["--port", " 9_200 "]
    let command : List Text := ["collect", "--json"]
    ∃ a, parse (front ++ command ++ port) = .ok a ∧ parse (front ++ port ++ command) = .ok a ∧
      a.toRun = .collect ∧ a.value? .port = some (.scalar (.int 9200)) ∧
      a.value? .hub = some (.ofText "http://early:4444") ∧ a.value? .host = none ∧
      a.json = true ∧ a.pretty = false := by
  intro front port command
  have hplace := parse_placement .collect [(.hub, "http://early:4444"), (.port, "9100")]
    [.json, .setting (.port, " 9_200 ")] (by decide)
    (List.forall_mem_cons.2 ⟨rfl, List.forall_mem_singleton.2 ⟨by decide, nofun⟩⟩)
  obtain ⟨a, ha⟩ := hplace.1.2 (by
    intro s hs
    simp only [settingsOf, List.filterMap_cons, Item.setting?, List.filterMap_nil, List.cons_append,
      List.nil_append, List.mem_cons, List.not_mem_nil, or_false] at hs
    rcases hs with rfl | rfl | rfl
    · exact ⟨_, rfl⟩
    · exact ⟨.scalar (.int 9100), rfl⟩
    · exact ⟨.scalar (.int 9200), rfl⟩)
  obtain ⟨hmoved, hrun, hvalues, hjson, hpretty⟩ := hplace.2.2 a ha
  refine ⟨a, ha, hmoved, hrun, hvalues .port, hvalues .hub, hvalues .host, hjson.2 (by decide), ?_⟩
  exact Bool.eq_false_iff.2 fun h => absurd (hpretty.1 h) (by decide)

end CommandLine

end GridGauge
