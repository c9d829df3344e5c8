import GridGauge.Proofs.Observing

/-!
# Which failures are reported

The errors of a cycle are those of its branches that say anything. A branch
whose request has not ended in a document has an error, and that of a failure
to reach the hub or to decode its reply always says something, as does that of
an address which cannot be read or has no server. What else breaks off a
request is reported in its own words, and if it has none then nothing is
reported of the branch at all (`failed_branches_reported`), though the reason
of a fault of the network would be its name in that case.
-/

namespace GridGauge

open Hub

theorem Url.Error.message_ne_nil (e : Url.Error) : e.message ≠ [] := by
  cases e <;> exact List.cons_ne_nil _ _

namespace Hub

/-- Only what breaks off a request without a word has no message. -/
theorem FetchError.message_eq_nil_iff {e : FetchError} :
    e.message = [] ↔ ∃ kind, e = .mishap kind [] := by
  refine ⟨fun h => ?_, fun ⟨kind, h⟩ => h ▸ rfl⟩
  cases e with
  | transport url reason status => exact absurd h (List.cons_ne_nil _ _)
  | badUrl e => exact absurd h e.message_ne_nil
  | noServer path => exact absurd h (List.cons_ne_nil _ _)
  | mishap kind message => exact ⟨kind, h ▸ rfl⟩

end Hub

namespace Scrape

namespace Outcome

variable {α : Type} (url : Text) (decode : Body → Except DecodeError α)
  (r : Except FetchError Bytes)

/-- A branch has no error if it has come to a document. -/
theorem error?_ofFetch_eq_none_iff :
    (ofFetch url decode r).error? = none ↔
      ∃ bytes d, r = .ok bytes ∧ decode (.bytes bytes) = .ok d := by
  cases r with
  | ok bytes => cases hd : decode (.bytes bytes) <;> simp [ofFetch, error?, hd]
  | error e => cases e <;> simp [ofFetch, error?]

/-- A branch has an error that says nothing if it was broken off without a word. -/
theorem error?_ofFetch_eq_nil_iff :
    (ofFetch url decode r).error? = some [] ↔ ∃ kind, r = .error (.mishap kind []) := by
  cases r with
  | ok bytes =>
    have spoken (e : DecodeError) : Text.ofString "decode error: " ++ e.message ≠ [] :=
      List.cons_ne_nil _ _
    cases hd : decode (.bytes bytes) with
    | ok d => simp [ofFetch, error?, hd]
    | error e => simp [ofFetch, error?, hd, spoken]
  | error e =>
    have spoken : (ofFetch url decode (.error e)).error? = some e.message := by cases e <;> rfl
    simp only [spoken, Option.some.injEq, FetchError.message_eq_nil_iff, Except.error.injEq]

end Outcome

/-- The request ends in a body in which `decode` finds a document. -/
inductive Ending.Holds {α : Type} (decode : Body → Except DecodeError α) : Ending → Prop
  | document {bytes : Bytes} {d : α} : decode (.bytes bytes) = .ok d → Holds decode (.body bytes)

/-- The request for a path is broken off by something that says nothing. -/
def BreaksSilently (f : Fetcher) (server : Server) (path : Text) : Prop :=
  ∃ u kind, Url.ofText (f.urlFor path) = .ok u ∧ server u.requestPath = .mishap kind []

variable {f : Fetcher} {server : Server} {path : Text}

theorem Ending.of_eq_body_iff {bytes : Bytes} :
    Ending.of f server path = .body bytes ↔ (f.fetch server path).1 = .ok bytes := by
  have h := f.fetched server path
  generalize (f.fetch server path).1 = result at h ⊢
  cases h with
  | unreadable hu => simp [Ending.of, hu]
  | network hu hr | mishap hu hr => simp [Ending.of, hu, hr]
  | noServer hu hr ha => simp [Ending.of, hu, hr, ha]
  | refused hu hr ha hs | body hu hr ha hs => simp [Ending.of, hu, hr, ha, hs]

theorem breaksSilently_iff :
    BreaksSilently f server path ↔ ∃ kind, (f.fetch server path).1 = .error (.mishap kind []) := by
  simp only [Fetcher.fetch_eq_iff]
  constructor
  · rintro ⟨u, kind, hu, hr⟩
    exact ⟨kind, .mishap hu hr⟩
  · rintro ⟨kind, h⟩
    cases h with
    | mishap hu hr => exact ⟨_, kind, hu, hr⟩

theorem Ending.holds_of_iff {α : Type} {decode : Body → Except DecodeError α} :
    (Ending.of f server path).Holds decode ↔
      ∃ bytes d, (f.fetch server path).1 = .ok bytes ∧ decode (.bytes bytes) = .ok d := by
  constructor
  · intro h
    generalize he : Ending.of f server path = ending at h
    cases h with
    | document hd => exact ⟨_, _, Ending.of_eq_body_iff.1 he, hd⟩
  · rintro ⟨bytes, d, hf, hd⟩
    exact Ending.of_eq_body_iff.2 hf ▸ .document hd

/-- A branch has an error that says something unless its request has ended in a document or was
    broken off without a word. -/
theorem exists_error_text_iff {α : Type} (decode : Body → Except DecodeError α) (url : Text) :
    (∃ t, (Outcome.ofFetch url decode (f.fetch server path).1).error? = some t ∧ t ≠ []) ↔
      ¬(Ending.of f server path).Holds decode ∧ ¬BreaksSilently f server path := by
  rw [Ending.holds_of_iff, breaksSilently_iff, ← Outcome.error?_ofFetch_eq_none_iff url,
    ← Outcome.error?_ofFetch_eq_nil_iff url decode]
  cases (Outcome.ofFetch url decode (f.fetch server path).1).error? <;> simp

theorem mem_errorOf_iff {b : Branch} {error : Option Text} {name t : Text} :
    (name, t) ∈ Cycle.errorOf b error ↔ name = b.name ∧ error = some t ∧ t ≠ [] := by
  rw [Cycle.errorOf, Option.mem_toList, Option.map_eq_some_iff]
  constructor
  · rintro ⟨t, ht, ⟨⟩⟩
    obtain ⟨he, hne⟩ := Option.filter_eq_some_iff.1 ht
    exact ⟨rfl, he, by simpa using hne⟩
  · rintro ⟨rfl, he, hne⟩
    exact ⟨t, Option.filter_eq_some_iff.2 ⟨he, by simpa using hne⟩, rfl⟩

theorem sublist_errorOf (b : Branch) (error : Option Text) :
    ((Cycle.errorOf b error).map Prod.fst).Sublist [b.name] := by
  rw [Cycle.errorOf]
  cases error.filter (!List.isEmpty ·) <;> simp

/-- The errors of a report are those of the branches that have one which says something. -/
theorem mem_errors_iff {c : Cycle} {name t : Text} :
    (name, t) ∈ c.errors ↔ name = Branch.status.name ∧ c.status.error? = some t ∧ t ≠ [] ∨
      name = Branch.queue.name ∧ c.queue.error? = some t ∧ t ≠ [] := by
  simp only [Cycle.errors, List.mem_append, mem_errorOf_iff]

/-- Whatever the replies, each branch is reported at most once, in the words of an error that says
    something. A branch is reported exactly if its request has not ended in a document, unless it
    was broken off without a word: then the branch has failed and nothing is reported of it. -/
theorem failed_branches_reported (p : Plan) (forStatus forQueue : Server) (now : Binary64) :
    let report := (p.runAgainst forStatus forQueue).report now
    (report.errors.map Prod.fst).Sublist [Branch.status.name, Branch.queue.name] ∧
    (∀ e ∈ report.errors, e.2 ≠ []) ∧
    ((∃ t, (Branch.status.name, t) ∈ report.errors) ↔
      ¬(Ending.of p.fetcher forStatus p.statusPath).Holds Status.decode ∧
        ¬BreaksSilently p.fetcher forStatus p.statusPath) ∧
    ((∃ t, (Branch.queue.name, t) ∈ report.errors) ↔
      ¬(Ending.of p.fetcher forQueue p.queuePath).Holds Queue.decode ∧
        ¬BreaksSilently p.fetcher forQueue p.queuePath) := by
  have hne : Branch.status.name ≠ Branch.queue.name := by decide
  refine ⟨?_, fun e he => ?_, ?_, ?_⟩
  · rw [Cycle.report, Cycle.errors, List.map_append]
    exact (sublist_errorOf .status _).append (sublist_errorOf .queue _)
  · obtain ⟨-, -, he⟩ | ⟨-, -, he⟩ := mem_errors_iff.1 he <;> exact he
  · rw [← exists_error_text_iff _ (p.fetcher.urlFor p.statusPath)]
    refine exists_congr fun t => mem_errors_iff.trans ?_
    simp only [hne, true_and, false_and, or_false]
    rfl
  · rw [← exists_error_text_iff _ (p.fetcher.urlFor p.queuePath)]
    refine exists_congr fun t => mem_errors_iff.trans ?_
    simp only [hne.symm, true_and, false_and, false_or]
    rfl

/-- Of a hub that fails to give its status and cannot be reached for its queue both are reported,
    the latter by the name of the fault. -/
theorem refusal_and_fault_reported :
    let p : Plan := ⟨⟨"http://hub.test:4444", .zero⟩, "/status", "/queue"⟩
    let server : Server := Server.ofRoutes
      [("/status", .answer 500 []), ("/queue", .network .connectError [])]
    let report := (p.runAgainst server server).report .zero
    let refusal : Text := "GET http://hub.test:4444/status failed: HTTP 500"
    let fault : Text := "GET http://hub.test:4444/queue failed: ConnectError"
    report.errors = [(Branch.status.name, refusal), (Branch.queue.name, fault)] ∧
      (∀ e ∈ report.errors, e.2 ≠ []) ∧
      ¬(Ending.of p.fetcher server p.statusPath).Holds Status.decode ∧
      ¬(Ending.of p.fetcher server p.queuePath).Holds Queue.decode := by
  intro p server report refusal fault
  have herrors : report.errors = [(Branch.status.name, refusal), (Branch.queue.name, fault)] := by
    decide +kernel
  obtain ⟨-, hwords, hstatus, hqueue⟩ := failed_branches_reported p server server .zero
  refine ⟨herrors, hwords, (hstatus.1 ⟨refusal, ?_⟩).1, (hqueue.1 ⟨fault, ?_⟩).1⟩
  · exact herrors ▸ List.mem_cons_self
  · exact herrors ▸ List.mem_cons_of_mem _ List.mem_cons_self

/-- An exception without a message breaks off the request for the status, and the report is as if
    nothing had failed. -/
theorem silent_break_unreported :
    let p : Plan := ⟨⟨"http://hub.test:4444", .zero⟩, "/status", "/queue"⟩
    let server : Server := Server.ofRoutes [("/status", .mishap .runtime []),
      ("/queue", .answer 200 (Utf8.encode "\x7b\"value\": []\x7d"))]
    ((p.runAgainst server server).report .zero).errors = [] ∧
      ¬(Ending.of p.fetcher server p.statusPath).Holds Status.decode := by
  intro p server
  refine ⟨by decide +kernel, ?_⟩
  have broken : (p.fetcher.fetch server p.statusPath).1 = .error (.mishap .runtime []) := by
    decide +kernel
  rw [Ending.holds_of_iff, broken]
  rintro ⟨_, _, ⟨⟩, _⟩

end Scrape

end GridGauge
