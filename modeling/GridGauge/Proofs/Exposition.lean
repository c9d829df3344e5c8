import GridGauge.Proofs.Exactness
import GridGauge.Proofs.Layouts
import GridGauge.Proofs.Overlap

/-!
# Two views of a cycle

The metrics of a cycle are published as lines of text, with the values as
floating-point numbers, and as members of a JSON object, with the values as
integers. Whoever reads the lines (`Exposition.read?`) finds for each gauge
that was observed what it means, its type and one number without labels, in
the order of the gauges and nothing else, and as long as no value has more than
53 bits these numbers are the integers of the other page.
-/

namespace GridGauge

open Hub Scrape

/-! ## Lines -/

namespace Text

variable {c : CodePoint} {a b : Text}

theorem splitAtEach_append (h : c ∉ a) : splitAtEach c (a ++ c :: b) = a :: splitAtEach c b := by
  induction a with
  | nil => rw [List.nil_append, splitAtEach, if_pos rfl]
  | cons d a ih =>
    rw [List.mem_cons, not_or] at h
    rw [List.cons_append, splitAtEach, if_neg (Ne.symm h.1), ih h.2]

/-- Lines that are each ended are split into themselves, with nothing behind the last. -/
theorem splitAtEach_lines {ls : List Text} (h : ∀ l ∈ ls, c ∉ l) :
    splitAtEach c (ls.flatMap (· ++ [c])) = ls ++ [[]] := by
  induction ls with
  | nil => rfl
  | cons l ls ih =>
    obtain ⟨hl, hls⟩ := List.forall_mem_cons.1 h
    rw [List.flatMap_cons, List.append_assoc, List.singleton_append, splitAtEach_append hl, ih hls]
    rfl

end Text

namespace Exposition

/-- What a line of a text exposition says. -/
inductive Line
  /-- What the metric of this name means. -/
  | help (name meaning : Text)
  /-- Of which type the metric of this name is. -/
  | type (name kind : Text)
  /-- The value of the metric of this name, without labels. -/
  | sample (name : Text) (value : ℚ)

/-- May the character stand in the name of a metric? -/
def isNameCharacter (c : CodePoint) : Bool :=
  Text.isDecimalDigit c || Text.isLowerLetter c || Text.isUpperLetter c || c == 0x5F || c == 0x3A

/-- The name in front of the first blank, and the text behind that. Labels are not part of a
    name. -/
def name? (t : Text) : Option (Text × Text) :=
  match Text.breakAt 0x20 t with
  | (name, some rest) =>
    if !name.isEmpty && name.all isNameCharacter then some (name, rest) else none
  | (_, none) => none

/-- The text behind `start`, if it begins so. -/
def behind? (start t : Text) : Option Text :=
  if Text.startsWith t start then some (t.drop start.length) else none

/-- What a line says. -/
def Line.ofText? (t : Text) : Option Line :=
  match behind? "# HELP " t, behind? "# TYPE " t with
  | some rest, _ => (name? rest).map fun (name, meaning) => .help name meaning
  | none, some rest => (name? rest).map fun (name, kind) => .type name kind
  | none, none => (name? t).bind fun (name, value) =>
    (Decimal.ofText? value).map fun d => .sample name d.value

/-- What a text says, all lines of which are ended. -/
def read? (t : Text) : Option (List Line) :=
  let parts := Text.splitAtEach 0x0A t
  if parts.getLast? = some [] then parts.dropLast.mapM Line.ofText? else none

/-- The name and the meaning that a line announces. -/
def Line.announcement? : Line → Option (Text × Text)
  | .help name meaning => some (name, meaning)
  | _ => none

/-- The name and the value that a line gives. -/
def Line.sample? : Line → Option (Text × ℚ)
  | .sample name value => some (name, value)
  | _ => none

/-- What is to be said of a gauge with a value. -/
def Line.ofGauge (g : Gauge) (n : Nat) : List Line :=
  [.help g.name g.help, .type g.name "gauge", .sample g.name n]

/-! ### The lines of a gauge -/

variable {n : Nat}

/-- The lines of a gauge, not yet ended. -/
def lineTexts (g : Gauge) (x : Binary64) : List Text :=
  ["# HELP " ++ g.name ++ " " ++ g.help, "# TYPE " ++ g.name ++ " gauge",
    g.name ++ " " ++ valueLayout.number x]

theorem lines_eq (g : Gauge) (x : Binary64) :
    lines g x = (lineTexts g x).flatMap (· ++ [0x0A]) := by
  have htype : (("\n# TYPE " : String) : Text) = [0x0A] ++ Text.ofString "# TYPE " := rfl
  have hgauge : ((" gauge\n" : String) : Text) = Text.ofString " gauge" ++ [0x0A] := rfl
  have hbreak : (("\n" : String) : Text) = [0x0A] := rfl
  simp only [lines, lineTexts, htype, hgauge, hbreak, List.flatMap_cons, List.flatMap_nil,
    List.append_assoc, List.append_nil]

/-- A natural number of at most 53 bits is read again from its floating-point number. -/
theorem value_of_number (layout : Layout) (h : n < Binary64.exactBound) :
    ∃ d, Decimal.ofText? (layout.number (.ofNat n)) = some d ∧ d.value = n := by
  have hfinite := Binary64.magnitude_ofNat_lt h
  have hnumber : layout.number (.ofNat n) = layout.decimal (Binary64.ofNat n).shortest := by
    have hnan : (Binary64.ofNat n).isNaN = false := by
      simpa [Binary64.isNaN] using Nat.le_of_lt hfinite
    have hinfinite : (Binary64.ofNat n).isInfinite = false := by
      simpa [Binary64.isInfinite] using Nat.ne_of_lt hfinite
    simp only [Layout.number, hnan, hinfinite]
    rfl
  obtain ⟨d, hd, hvalue⟩ := layout.value_of_decimal (Binary64.ofNat n).shortest
  obtain ⟨e, he, hdigits⟩ := Binary64.shortest_ofNat h
  refine ⟨d, by rw [hnumber, hd], ?_⟩
  have hdigits' : (Binary64.ofNat n).shortest.digits * 10 ^ e = n := hdigits
  rw [hvalue, Decimal.value, he, zpow_natCast]
  exact_mod_cast hdigits'

example : valueLayout.number (.ofNat 9007199254740990) = "9.00719925474099e+15" := by
  decide +kernel

theorem behind?_append (start t : Text) : behind? start (start ++ t) = some t := by
  rw [behind?, Text.startsWith, if_pos (List.isPrefixOf_iff_prefix.2 (List.prefix_append start t)),
    List.drop_left]

theorem name?_append {name : Text} (h : (!name.isEmpty && name.all isNameCharacter) = true)
    (rest : Text) : name? (name ++ 0x20 :: rest) = some (name, rest) := by
  have hblank : (0x20 : CodePoint) ∉ name := fun hmem => by
    have hall := List.all_eq_true.1 (Bool.and_eq_true_iff.1 h).2 _ hmem
    cases hall
  rw [name?, Text.breakAt_append hblank]
  exact if_pos h

theorem isName_gauge (g : Gauge) : (!g.name.isEmpty && g.name.all isNameCharacter) = true := by
  cases g <;> decide

/-- The lines of a gauge say what they should. -/
theorem mapM_lineTexts (g : Gauge) (h : n < Binary64.exactBound) :
    (lineTexts g (.ofNat n)).mapM Line.ofText? = some (Line.ofGauge g n) := by
  have hhelp : Line.ofText? ("# HELP " ++ g.name ++ " " ++ g.help) = some (.help g.name g.help) := by
    rw [List.append_assoc, List.append_assoc, Line.ofText?, behind?_append]
    simp only
    rw [show (" " : Text) ++ g.help = 0x20 :: g.help from rfl, name?_append (isName_gauge g)]
    rfl
  have htype : Line.ofText? ("# TYPE " ++ g.name ++ " gauge") = some (.type g.name "gauge") := by
    have hother : behind? "# HELP " ("# TYPE " ++ (g.name ++ " gauge")) = none := rfl
    rw [List.append_assoc, Line.ofText?, behind?_append, hother]
    simp only
    rw [show (" gauge" : Text) = 0x20 :: "gauge" from rfl, name?_append (isName_gauge g)]
    rfl
  obtain ⟨d, hd, hvalue⟩ := value_of_number valueLayout h
  have hsample : Line.ofText? (g.name ++ " " ++ valueLayout.number (.ofNat n))
      = some (.sample g.name n) := by
    have hother : behind? "# HELP " (g.name ++ (" " ++ valueLayout.number (.ofNat n))) = none := by
      cases g <;> rfl
    have hother' : behind? "# TYPE " (g.name ++ (" " ++ valueLayout.number (.ofNat n))) = none := by
      cases g <;> rfl
    rw [List.append_assoc, Line.ofText?, hother, hother']
    simp only
    rw [show (" " : Text) ++ valueLayout.number (.ofNat n)
        = 0x20 :: valueLayout.number (.ofNat n) from rfl, name?_append (isName_gauge g)]
    simp only [Option.bind_some, hd, Option.map_some, hvalue]
  rw [lineTexts, List.mapM_cons, hhelp, List.mapM_cons, htype, List.mapM_cons, hsample]
  rfl

/-- None of the lines of a gauge is broken. -/
theorem not_mem_lineTexts (g : Gauge) (h : n < Binary64.exactBound) :
    ∀ l ∈ lineTexts g (.ofNat n), (0x0A : CodePoint) ∉ l := by
  obtain ⟨d, hd, -⟩ := value_of_number valueLayout h
  have hnumber : (0x0A : CodePoint) ∉ valueLayout.number (.ofNat n) := fun hmem => by
    cases Decimal.isCharacter_of_ofText? hd _ hmem
  have hname : (0x0A : CodePoint) ∉ g.name := by cases g <;> decide
  have hhelp : (0x0A : CodePoint) ∉ g.help := by cases g <;> decide +kernel
  have htexts : (0x0A : CodePoint) ∉ Text.ofString "# HELP " ∧
      (0x0A : CodePoint) ∉ Text.ofString " " ∧ (0x0A : CodePoint) ∉ Text.ofString "# TYPE " ∧
        (0x0A : CodePoint) ∉ Text.ofString " gauge" := by decide
  simp only [lineTexts, List.forall_mem_cons, List.mem_append, not_or]
  exact ⟨⟨⟨⟨htexts.1, hname⟩, htexts.2.1⟩, hhelp⟩, ⟨⟨htexts.2.2.1, hname⟩, htexts.2.2.2⟩,
    ⟨⟨hname, htexts.2.1⟩, hnumber⟩, List.forall_mem_nil _⟩

/-! ### The lines of all gauges -/

theorem mapM_eq_map {α β : Type} {f : α → Option β} {g : α → β} {l : List α}
    (h : ∀ x ∈ l, f x = some (g x)) : l.mapM f = some (l.map g) := by
  induction l with
  | nil => rfl
  | cons x l ih =>
    obtain ⟨hx, hl⟩ := List.forall_mem_cons.1 h
    rw [List.mapM_cons, hx, ih hl]
    rfl

theorem mapM_flatMap {α β γ : Type} {f : β → Option γ} {g : α → List β} {k : α → List γ}
    {l : List α} (h : ∀ x ∈ l, (g x).mapM f = some (k x)) :
    (l.flatMap g).mapM f = some (l.flatMap k) := by
  induction l with
  | nil => rfl
  | cons x l ih =>
    obtain ⟨hx, hl⟩ := List.forall_mem_cons.1 h
    rw [List.flatMap_cons, List.mapM_append, hx, ih hl]
    rfl

/-- The exposition of observations of at most 53 bits says of each gauge what was observed. -/
theorem read_ofObservations {o : Observations Nat}
    (h : ∀ row ∈ o.toList, row.2 < Binary64.exactBound) :
    ∃ t, ofObservations o = some t ∧
      read? t = some (o.toList.flatMap fun row => Line.ofGauge row.1 row.2) := by
  let texts := o.toList.flatMap fun row => lineTexts row.1 (.ofNat row.2)
  have hlines : ofObservations o
      = some (o.toList.map fun row => lines row.1 (.ofNat row.2)).flatten := by
    rw [ofObservations, mapM_eq_map fun row hrow => by rw [Binary64.ofInt?_ofNat (h row hrow)]; rfl]
    rfl
  refine ⟨_, hlines, ?_⟩
  -- The text is one of lines that are each ended, and none of them is broken by what it says.
  have htexts : (o.toList.map fun row => lines row.1 (.ofNat row.2)).flatten
      = texts.flatMap (· ++ [0x0A]) := by
    simp only [texts, lines_eq, List.flatMap_assoc]
    rfl
  have hsplit : Text.splitAtEach 0x0A (texts.flatMap (· ++ [0x0A])) = texts ++ [[]] := by
    refine Text.splitAtEach_lines fun l hl => ?_
    obtain ⟨row, hrow, hl⟩ := List.mem_flatMap.1 hl
    exact not_mem_lineTexts row.1 (h row hrow) l hl
  rw [htexts, read?, hsplit]
  simp only [List.getLast?_concat, if_true, List.dropLast_concat]
  exact mapM_flatMap fun row hrow => mapM_lineTexts row.1 (h row hrow)

/-! ### What the lines announce and give -/

variable {rows : List (Gauge × Nat)}

theorem announcements_lines :
    (rows.flatMap fun row => Line.ofGauge row.1 row.2).filterMap Line.announcement?
      = rows.map fun row => (row.1.name, row.1.help) := by
  rw [List.filterMap_flatMap, List.map_eq_flatMap]
  rfl

theorem samples_lines :
    (rows.flatMap fun row => Line.ofGauge row.1 row.2).filterMap Line.sample?
      = rows.map fun row => (row.1.name, (row.2 : ℚ)) := by
  rw [List.filterMap_flatMap, List.map_eq_flatMap]
  rfl

/-- The gauges observed are announced, in the same order. -/
theorem sublist_announced (o : Observations Nat) :
    (o.toList.map fun row => (row.1.name, row.1.help)).Sublist announced := by
  have hobserved : o.toList.map Prod.fst = Gauge.all.filter fun g => (o g).isSome := by
    rw [Observations.toList, List.map_filterMap, ← List.filterMap_eq_filter]
    congr 1
    funext g
    cases h : o g <;> simp [Option.guard, h]
  have hmap : (o.toList.map fun row => (row.1.name, row.1.help))
      = (o.toList.map Prod.fst).map fun g => (g.name, g.help) := by
    rw [List.map_map]
    rfl
  rw [hmap, hobserved]
  exact List.filter_sublist.map _

end Exposition

/-! ## Both pages -/

namespace Service

/-- The members of the object that a report in JSON has under `"metrics"`. -/
def shownMetrics? : Json → Option (List (Text × Json))
  | .object ms =>
    match Bindings.find? ms "metrics" with
    | some (.object counts) => some counts
    | _ => none
  | _ => none

theorem shownMetrics?_report (r : Report) :
    shownMetrics? r.toJson = some (r.metrics.map fun (k, n) => (k, .int n)) := rfl

theorem cyclePage?_of_route {a : Service} {r : Request} {page : Page}
    (h : a.route r.method r.pathAndQuery.1 = .page page) (hpage : page = .metrics ∨ page = .status) :
    a.cyclePage? r = some page := by
  rw [cyclePage?, h]
  rcases hpage with rfl | rfl <;> rfl

/-- For the same replies of the hub both pages show the same, as long as no value has more than 53
    bits. The metrics are answered with success, in lines that say of each gauge observed, in the
    order of the gauges and as it was announced, what it means, that it is a gauge, and one number
    without labels; of others they say nothing. The other page is that of a JSON value, which has
    under `"metrics"` the same names with the same numbers as integers. -/
theorem pages_agree (a : Service) (origin : Text) (s : Settings) (server : Server)
    (now now' : Binary64) (r r' : Request) {plan : Plan}
    (hr : a.route r.method r.pathAndQuery.1 = .page .metrics)
    (hr' : a.route r'.method r'.pathAndQuery.1 = .page .status)
    (hplan : Plan.ofSettings a.fetcher s = .ok plan)
    (hsmall : ∀ row ∈ (plan.run server).observations.toList, row.2 < 2 ^ 53) :
    let rows := (plan.run server).observations.toList
    ∃ (t : Text) (ls : List Exposition.Line) (v : Json),
      (a.handle origin s server now r).answer = ⟨200, some metricsType, none, t⟩ ∧
      Exposition.read? t = some ls ∧
      ls = (rows.flatMap fun (g, n) => [.help g.name g.help, .type g.name "gauge", .sample g.name n]) ∧
      (ls.filterMap Exposition.Line.announcement?).Sublist Exposition.announced ∧
      (a.handle origin s server now' r').answer = jsonPage v ∧
      shownMetrics? v = some (rows.map fun (g, n) => (g.name, .int n)) ∧
      ls.filterMap Exposition.Line.sample? = rows.map fun (g, n) => (g.name, (n : ℚ)) := by
  intro rows
  have hmetrics : (a.handle origin s server now r).answer
      = metricsPage (plan.run server).observations := by
    rw [handle_cycle (cyclePage?_of_route hr (.inl rfl)), serveCycle, hplan]
    rfl
  have hstatus : (a.handle origin s server now' r').answer
      = jsonPage ((plan.run server).report now').toJson := by
    rw [handle_cycle (cyclePage?_of_route hr' (.inr rfl)), serveCycle, hplan]
    rfl
  obtain ⟨t, ht, hread⟩ := Exposition.read_ofObservations hsmall
  refine ⟨t, rows.flatMap fun row => Exposition.Line.ofGauge row.1 row.2, _, ?_, hread, rfl, ?_,
    hstatus, ?_, Exposition.samples_lines⟩
  · rw [hmetrics, metricsPage, ht]
  · rw [Exposition.announcements_lines]
    exact Exposition.sublist_announced _
  · rw [shownMetrics?_report, Report.metrics, List.map_map]
    rfl

/-- The pages agree on a node with room for two sessions less than `2 ^ 53`, which the metrics give
    with an exponent and without the zero at the end. -/
theorem large_count_agreed :
    let a : Service := ⟨"http://hub.test:4444", ⟨"http://hub.test:4444", .zero⟩, "/metrics",
      [.literal "/metrics"]⟩
    let server := Server.ofRoutes [("/status", .answer 200
      (Utf8.encode "\x7b\"value\": \x7b\"nodes\": [\x7b\"maxSessions\": 9007199254740990\x7d]\x7d\x7d"))]
    let answer (path : Text) : Answer :=
      (a.handle "http://testserver" (.initial []) server .zero ⟨"GET", path⟩).answer
    let rows : List (Gauge × Nat) := [(.accessible, 1), (.deserializationError, 0), (.ready, 0),
      (.numNodes, 1), (.maxSessions, 9007199254740990), (.numSessions, 0)]
    ∃ ls v, Exposition.read? (answer "/metrics").body = some ls ∧
      ls.filterMap Exposition.Line.sample? = (rows.map fun (g, n) => (g.name, (n : ℚ))) ∧
      answer "/status" = jsonPage v ∧
      shownMetrics? v = some (rows.map fun (g, n) => (g.name, .int n)) := by
  intro a server answer rows
  let plan : Plan := ⟨a.fetcher, "/status", "/se/grid/newsessionqueue/queue"⟩
  have hrows : (plan.run server).observations.toList = rows := by decide +kernel
  have hsmall : ∀ row ∈ (plan.run server).observations.toList, row.2 < 2 ^ 53 := by
    rw [hrows]
    decide
  obtain ⟨t, ls, v, hmetrics, hread, -, -, hstatus, hshown, hsamples⟩ :=
    pages_agree a "http://testserver" (.initial []) server .zero .zero ⟨"GET", "/metrics"⟩
      ⟨"GET", "/status"⟩ (by decide +kernel) (by decide +kernel) rfl hsmall
  rw [hrows] at hshown hsamples
  refine ⟨ls, v, ?_, hsamples, hstatus, hshown⟩
  simp only [answer, hmetrics, hread]

end Service

end GridGauge
