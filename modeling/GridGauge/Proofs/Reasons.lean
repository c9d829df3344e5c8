import GridGauge.Proofs.Digits
import GridGauge.Proofs.Legible

/-!
# What reasons quote

The reasons of errors are made of words, numbers and names, in which there are
no brackets, of paths, whose brackets are around numbers, and of what they
quote: an address, what the network says, or a timestamp of the hub that is
none (`Outcome.quoted`). A quoted text is escaped, but brackets need no escape.

So a reason asks for a style only if what it quotes does
(`Outcome.isTagless_error`).
-/

namespace GridGauge

open Text Terminal

namespace Text

@[simp] theorem bracket_mem_ofString {s : String} : 0x5B ∈ ofString s ↔ '[' ∈ s.toList := by
  rw [ofString, List.mem_map]
  constructor
  · rintro ⟨c, hc, h⟩
    obtain rfl : c = '[' := Char.ext (UInt32.toNat.inj h)
    exact hc
  · exact fun h => ⟨'[', h, rfl⟩

/-- No tag begins with a digit. -/
theorem startsTag_of_isDecimalDigit {c : CodePoint} (h : isDecimalDigit c = true) :
    startsTag c = false := by
  obtain ⟨hfirst, hlast⟩ := isDecimalDigit_iff.1 h
  have : ∀ c ≤ 57, 48 ≤ c → startsTag c = false := by decide
  exact this c hlast hfirst

@[simp] theorem bracket_notMem_ofNat (n : Nat) : 0x5B ∉ ofNat n := fun h =>
  absurd (isDecimalDigit_of_mem_ofNat h) (by decide)

@[simp] theorem bracket_notMem_ofInt (n : Int) : 0x5B ∉ ofInt n := by
  cases n <;> simp [ofInt]

@[simp] theorem bracket_notMem_ofHex (width n : Nat) : 0x5B ∉ ofHex width n := fun h =>
  forall_mem_ofHex (p := (· ≠ 0x5B)) (by decide) width n _ h rfl

/-! ## Quoted texts -/

namespace Quoted

variable {m c : CodePoint} {t : Text}

@[simp] theorem bracket_notMem_numbered (c : CodePoint) : 0x5B ∉ numbered c := by
  unfold numbered
  split
  · simp [backslash]
  · split <;> simp [backslash]

/-- Only a bracket is escaped as a bracket. -/
theorem bracket_notMem_escape (hc : c ≠ 0x5B) : 0x5B ∉ escape m c := by
  unfold escape
  repeat' split
  all_goals simp [backslash, hc.symm]

/-- A code point is escaped as itself or behind a backslash. -/
theorem startsTag_of_head?_escape (hc : startsTag c = false) :
    ∀ d ∈ (escape m c).head?, startsTag d = false := by
  unfold escape numbered
  repeat' split
  all_goals
    intro d hd
    cases hd
    first | exact hc | decide

theorem escape_ne_nil (m c : CodePoint) : escape m c ≠ [] := by
  unfold escape numbered
  repeat' split
  all_goals exact List.cons_ne_nil _ _

/-- To escape a text makes no tags in it, nor does the mark behind it. -/
theorem isTagless_escapes (hm : m = quotation ∨ m = apostrophe) (h : IsTagless t) :
    IsTagless (t.flatMap (escape m) ++ [m]) := by
  have hmark : startsTag m = false := by rcases hm with rfl | rfl <;> decide
  have hbracket : escape m 0x5B = [0x5B] := by rcases hm with rfl | rfl <;> decide
  induction t with
  | nil => exact isTagless_cons.2 ⟨nofun, .nil⟩
  | cons c t ih =>
    obtain ⟨hhead, htail⟩ := isTagless_cons.1 h
    rw [List.flatMap_cons, List.append_assoc]
    by_cases hc : c = 0x5B
    · subst hc
      rw [hbracket, List.singleton_append]
      refine isTagless_cons.2 ⟨fun d hd _ => ?_, ih htail⟩
      -- What comes next begins as the next character does, or with a backslash.
      cases t with
      | nil =>
        cases hd
        exact hmark
      | cons e t =>
        rw [List.flatMap_cons, List.append_assoc,
          List.head?_append_of_ne_nil _ (escape_ne_nil m e)] at hd
        exact startsTag_of_head?_escape (hhead e rfl rfl) d hd
    · have hnone := bracket_notMem_escape (m := m) hc
      exact IsTagless.append (isTagless_of_not_mem hnone) (ih htail) fun hlast =>
        hnone (List.mem_of_getLast? hlast)

/-- A text has no tags between its marks if it has none without them. -/
theorem isTagless_encode (h : IsTagless t) : IsTagless (encode t) := by
  have hm : mark t = quotation ∨ mark t = apostrophe := by
    unfold mark
    split <;> simp
  refine isTagless_cons.2 ⟨fun d _ hbracket => ?_, isTagless_escapes hm h⟩
  rcases hm with hm | hm <;> rw [hm] at hbracket <;> cases hbracket

end Quoted

end Text

/-! ## Errors of bodies -/

@[simp] theorem Scheme.bracket_notMem_name (s : Scheme) : 0x5B ∉ s.name := by
  rcases s with _ | ⟨_ | _⟩ | ⟨_ | _⟩ <;> decide

@[simp] theorem FaultReason.bracket_notMem_message (r : FaultReason) : 0x5B ∉ r.message := by
  cases r <;> simp [message]

@[simp] theorem EncodingFault.bracket_notMem_message (f : EncodingFault) : 0x5B ∉ f.message := by
  simp only [EncodingFault.message]
  split <;> simp

namespace Json

@[simp] theorem Flaw.bracket_notMem_message (f : Flaw) : 0x5B ∉ f.message := by
  cases f <;> simp [message]

@[simp] theorem Error.bracket_notMem_message (e : Error) : 0x5B ∉ e.message := by
  rcases e with _ | _ | ⟨_ | _⟩ | _ <;> simp [message, Place.message, tooManyDigitsMessage]

@[simp] theorem Kind.bracket_notMem_name (k : Kind) : 0x5B ∉ k.name := by
  cases k <;> simp [name]

end Json

namespace Hub

/-- What an error of a body quotes of it. -/
def DecodeError.quoted : DecodeError → List Text
  | .mismatch _ ⟨_, .timestamp t⟩ => [t]
  | _ => []

theorem Reason.isTagless_message {r : Reason} (h : ∀ t, r = .timestamp t → IsTagless t) :
    IsTagless r.message := by
  cases r with
  | timestamp t =>
    exact IsTagless.append (isTagless_of_not_mem (by decide)) (Quoted.isTagless_encode (h t rfl))
      (by decide)
  | kind expected got =>
    refine isTagless_of_not_mem ?_
    cases expected <;> simp [message, Expected.name]
  | negative n => exact isTagless_of_not_mem (by simp [message])

/-- The brackets in a path are around numbers, unless there are some in its names. -/
theorem Step.isTagless_text {step : Step} (h : ∀ name, step = .key name → 0x5B ∉ name) :
    IsTagless step.text ∧ step.text.getLast? ≠ some 0x5B := by
  cases step with
  | key name =>
    have hnone : 0x5B ∉ (Step.key name).text := by simp [text, h name rfl]
    exact ⟨isTagless_of_not_mem hnone, fun hlast => hnone (List.mem_of_getLast? hlast)⟩
  | index i =>
    obtain ⟨c, digits, hdigits⟩ := List.exists_cons_of_ne_nil (ofNat_ne_nil i)
    have hc : isDecimalDigit c = true :=
      isDecimalDigit_of_mem_ofNat (n := i) (by rw [hdigits]; exact List.mem_cons_self)
    have hnone : 0x5B ∉ ofNat i ++ ("]" : Text) := by simp
    refine ⟨?_, fun hlast => ?_⟩
    · rw [text, List.append_assoc]
      refine isTagless_cons.2 ⟨fun d hd _ => ?_, isTagless_of_not_mem hnone⟩
      rw [hdigits] at hd
      cases hd
      exact startsTag_of_isDecimalDigit hc
    · rw [text, List.getLast?_append] at hlast
      cases hlast

theorem Path.isTagless_text {root : Text} {p : Path} (hroot : 0x5B ∉ root)
    (hp : ∀ name, .key name ∈ p → 0x5B ∉ name) : IsTagless (p.text root) := by
  refine IsTagless.append (isTagless_of_not_mem hroot) ?_ fun hlast =>
    hroot (List.mem_of_getLast? hlast)
  induction p with
  | nil => exact .nil
  | cons step p ih =>
    have hstep := Step.isTagless_text fun name hname => hp name (hname ▸ List.mem_cons_self)
    rw [List.flatMap_cons]
    exact IsTagless.append hstep.1 (ih fun name hname => hp name (List.mem_cons_of_mem _ hname))
      hstep.2

theorem DecodeError.isTagless_message {e : DecodeError} (hpath : IsTagless e.path)
    (h : ∀ t ∈ e.quoted, IsTagless t) : IsTagless e.message := by
  have hreason : IsTagless e.reason := by
    cases e with
    | malformed e => exact isTagless_of_not_mem (by simp [reason])
    | notObject got => exact isTagless_of_not_mem (by simp [reason])
    | mismatch root m =>
      obtain ⟨path, r⟩ := m
      exact Reason.isTagless_message fun t ht => h t (by subst ht; exact List.mem_singleton_self t)
  rw [message]
  split
  · exact hreason
  · rw [List.append_assoc]
    refine hpath.append_of_head (IsTagless.append (isTagless_of_not_mem (by decide)) hreason ?_) ?_
    · decide
    · rintro d hd
      cases hd
      decide

/-- Whatever the body, its error has no tags if there are no brackets in the names of the schema and
    the error quotes no tags. -/
theorem Decoder.Follows.isTagless_message {α : Type} {d : Decoder α} {s : Schema}
    (h : d.Follows s) (hs : ∀ name ∈ s.names, 0x5B ∉ name) {b : Body} {e : DecodeError}
    (he : b.decode d = .error e) (hq : ∀ t ∈ e.quoted, IsTagless t) : IsTagless e.message := by
  refine DecodeError.isTagless_message ?_ hq
  rcases Body.error_cases he with hpath | ⟨v, m, hm, rfl⟩
  · rw [hpath]
    exact .nil
  · exact Path.isTagless_text (by decide) fun name hname =>
      hs name (((h v).fault hm).mem_names hname)

theorem Status.isTagless_message (b : Body) (e : DecodeError) (he : Status.decode b = .error e)
    (hq : ∀ t ∈ e.quoted, IsTagless t) : IsTagless e.message :=
  Status.decoder_follows.isTagless_message (by decide) he hq

theorem Queue.isTagless_message (b : Body) (e : DecodeError) (he : Queue.decode b = .error e)
    (hq : ∀ t ∈ e.quoted, IsTagless t) : IsTagless e.message :=
  Queue.decoder_follows.isTagless_message (by decide) he hq

end Hub

/-! ## Errors of fetches -/

/-- What an error of an address quotes of it. -/
def Url.Error.quoted : Url.Error → List Text
  | .port t | .version4 t | .version6 t | .name t => [t]
  | _ => []

theorem Url.Error.isTagless_message {e : Url.Error} (h : ∀ t ∈ e.quoted, IsTagless t) :
    IsTagless e.message := by
  have behind (words t : Text) (hw : 0x5B ∉ words) (ht : IsTagless t) :
      IsTagless (words ++ Quoted.encode t) :=
    IsTagless.append (isTagless_of_not_mem hw) (Quoted.isTagless_encode ht) fun hlast =>
      hw (List.mem_of_getLast? hlast)
  cases e with
  | port t | version4 t | version6 t | name t =>
    exact behind _ t (by decide) (h t (List.mem_singleton_self t))
  | control c position =>
    have hc : IsTagless [c] := isTagless_cons.2 ⟨nofun, .nil⟩
    have hplace : 0x5B ∉ (" at position " : Text) ++ ofNat position ++ ("." : Text) := by simp
    have hwhole := (behind "Invalid non-printable ASCII character in URL, " [c] (by decide)
      hc).append_of_head (isTagless_of_not_mem hplace) fun d hd => by cases hd; decide
    simpa only [message, List.append_assoc] using hwhole
  | surrogate c => exact isTagless_of_not_mem (by simp [message, SurrogateFault.message])
  | tooLong | path | relativeSlashes | relativeColon =>
    exact isTagless_of_not_mem (by simp [message])

namespace Hub

/-- What an error of a fetch quotes: an address or a part of one, or what is said of what broke off
    the request. -/
def FetchError.quoted : FetchError → List Text
  | .transport url reason _ => [url, reason]
  | .badUrl e => e.quoted
  | .noServer path => [path]
  | .mishap _ message => [message]

theorem FetchError.isTagless_message {e : FetchError} (h : ∀ t ∈ e.quoted, IsTagless t) :
    IsTagless e.message := by
  cases e with
  | transport url reason status =>
    obtain ⟨hurl, hreason, _⟩ := List.forall_mem_cons.1 h |>.imp_right List.forall_mem_cons.1
    have hwords : IsTagless ((" failed: " : Text) ++ reason) :=
      IsTagless.append (isTagless_of_not_mem (by decide)) hreason (by decide)
    rw [message, List.append_assoc, List.append_assoc]
    refine IsTagless.append (isTagless_of_not_mem (by decide)) ?_ (by decide)
    refine hurl.append_of_head hwords fun d hd => ?_
    cases hd
    decide
  | badUrl e => exact Url.Error.isTagless_message h
  | noServer path =>
    exact IsTagless.append (isTagless_of_not_mem (by decide))
      (Quoted.isTagless_encode (h path (List.mem_singleton_self path))) (by decide)
  | mishap kind message => exact h message (List.mem_singleton_self message)

end Hub

/-! ## Errors of branches -/

namespace Scrape

open Hub

variable {α : Type}

/-- What the reason of a branch's error quotes from outside. -/
def Outcome.quoted : Outcome α → List Text
  | .unreachable e | .broken e => e.quoted
  | .undecodable _ e => e.quoted
  | .document _ => []

/-- The reason of an error has no tags if what it quotes has none. -/
theorem Outcome.isTagless_error {decode : Body → Except DecodeError α}
    (hdecode : ∀ b e, decode b = .error e → (∀ t ∈ e.quoted, IsTagless t) → IsTagless e.message)
    (url : Text) (r : Except FetchError Bytes)
    (h : ∀ t ∈ (Outcome.ofFetch url decode r).quoted, IsTagless t) {t : Text}
    (ht : (Outcome.ofFetch url decode r).error? = some t) : IsTagless t := by
  cases r with
  | error e =>
    cases e <;> cases ht <;> exact FetchError.isTagless_message h
  | ok body =>
    rw [ofFetch] at h ht
    cases hd : decode (.bytes body) with
    | ok d =>
      rw [hd] at ht
      cases ht
    | error e =>
      rw [hd] at h ht
      cases ht
      exact IsTagless.append (isTagless_of_not_mem (by decide)) (hdecode _ e hd h) (by decide)

/-- Each error stands under the name of its branch, and has no tags if what it quotes has none. -/
theorem Plan.isTagless_errors {p : Plan} {server : Server}
    (hstatus : ∀ t ∈ (p.run server).status.quoted, IsTagless t)
    (hqueue : ∀ t ∈ (p.run server).queue.quoted, IsTagless t) :
    ∀ e ∈ (p.run server).errors, ∃ b : Branch, e.1 = b.name ∧ IsTagless e.2 := by
  have under {b : Branch} {error : Option Text} (ht : ∀ t, error = some t → IsTagless t) :
      ∀ e ∈ Cycle.errorOf b error, ∃ b : Branch, e.1 = b.name ∧ IsTagless e.2 := by
    intro e he
    obtain ⟨t, hfilter, rfl⟩ := Option.map_eq_some_iff.1 (Option.mem_toList.1 he)
    exact ⟨b, rfl, ht t (Option.filter_eq_some_iff.1 hfilter).1⟩
  intro e he
  rcases List.mem_append.1 he with he | he
  · exact under (fun t ht => Outcome.isTagless_error Status.isTagless_message
      (p.fetcher.urlFor p.statusPath) (p.fetcher.fetch server p.statusPath).1 hstatus ht) e he
  · exact under (fun t ht => Outcome.isTagless_error Queue.isTagless_message
      (p.fetcher.urlFor p.queuePath) (p.fetcher.fetch server p.queuePath).1 hqueue ht) e he

end Scrape

end GridGauge
