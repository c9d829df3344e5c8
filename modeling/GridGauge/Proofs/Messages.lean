import GridGauge.Hub.Fetch
import GridGauge.Proofs.Documents

/-!
# What messages are written with

A text can be written in UTF-8 unless half of a surrogate pair stands in it
alone. A document can bring such halves in, by 16-bit escapes, and so can an
address. The messages of errors do not hand them on: what they quote they
escape, as no surrogate is printable, and apart from that they are made of
words, numbers and names of fields. So their characters are scalar values, as
Unicode calls the code points that are no surrogates (`IsScalar`).
-/

namespace GridGauge

namespace Text

/-- The text is without halves of surrogate pairs. -/
def IsWhole (t : Text) : Prop := ∀ c ∈ t, isSurrogate c = false

instance (t : Text) : Decidable t.IsWhole := by
  unfold IsWhole
  infer_instance

theorem isSurrogate_of_isValidChar {c : Nat} (h : c.isValidChar) : isSurrogate c = false := by
  have hout : ¬(0xD800 ≤ c ∧ c ≤ 0xDFFF) := by
    rcases h with h | ⟨h, _⟩ <;> omega
  simpa [isSurrogate] using hout

@[simp] theorem isWhole_ofString (s : String) : IsWhole (ofString s) := by
  intro c hc
  obtain ⟨d, _, rfl⟩ := List.mem_map.1 hc
  exact isSurrogate_of_isValidChar d.valid

theorem IsWhole.mono {s t : Text} (ht : t.IsWhole) (h : s ⊆ t) : s.IsWhole := fun c hc => ht c (h hc)

@[simp] theorem isWhole_nil : IsWhole [] := nofun

@[simp] theorem isWhole_cons {c : CodePoint} {t : Text} :
    IsWhole (c :: t) ↔ isSurrogate c = false ∧ t.IsWhole := List.forall_mem_cons

@[simp] theorem isWhole_append {s t : Text} : IsWhole (s ++ t) ↔ s.IsWhole ∧ t.IsWhole :=
  List.forall_mem_append

theorem isWhole_repeated {c : CodePoint} (hc : isSurrogate c = false) (n : Nat) :
    IsWhole (repeated n c) := fun d hd => by
  rw [List.eq_of_mem_replicate hd]
  exact hc

theorem isWhole_join {separator : Text} (hseparator : separator.IsWhole) {ts : List Text}
    (h : ∀ t ∈ ts, t.IsWhole) : (join separator ts).IsWhole := by
  induction ts with
  | nil => exact isWhole_nil
  | cons t ts ih =>
    rw [List.forall_mem_cons] at h
    cases ts with
    | nil => exact h.1
    | cons u ts => exact isWhole_append.2 ⟨isWhole_append.2 ⟨h.1, hseparator⟩, ih h.2⟩

/-- The parts of a text are in it. -/
theorem subset_of_mem_splitAtEach {c : CodePoint} {t part : Text} (h : part ∈ splitAtEach c t) :
    part ⊆ t := by
  induction t generalizing part with
  | nil =>
    rw [List.mem_singleton.1 h]
    exact List.Subset.refl _
  | cons d t ih =>
    rw [splitAtEach] at h
    split at h
    · rcases List.mem_cons.1 h with rfl | h
      · exact List.nil_subset _
      · exact List.subset_cons_of_subset d (ih h)
    · split at h
      · next hnil => exact absurd hnil (splitAtEach_ne_nil c t)
      · next first parts hparts =>
        rw [hparts] at ih
        rcases List.mem_cons.1 h with rfl | h
        · exact List.cons_subset_cons d (ih List.mem_cons_self)
        · exact List.subset_cons_of_subset d (ih (List.mem_cons_of_mem _ h))

/-! ## Scalar values -/

/-- The text is made of scalar values: no halves of surrogate pairs, and nothing past the last code
    point. -/
def IsScalar (t : Text) : Prop := ∀ c ∈ t, c.isValidChar

instance (t : Text) : Decidable t.IsScalar := by
  unfold IsScalar
  infer_instance

theorem IsScalar.isWhole {t : Text} (h : t.IsScalar) : t.IsWhole := fun c hc =>
  isSurrogate_of_isValidChar (h c hc)

@[simp] theorem isScalar_nil : IsScalar [] := nofun

@[simp] theorem isScalar_cons {c : CodePoint} {t : Text} :
    IsScalar (c :: t) ↔ c.isValidChar ∧ t.IsScalar := List.forall_mem_cons

@[simp] theorem isScalar_append {s t : Text} : IsScalar (s ++ t) ↔ s.IsScalar ∧ t.IsScalar :=
  List.forall_mem_append

@[simp] theorem isScalar_ofString (s : String) : IsScalar (ofString s) := by
  intro c hc
  obtain ⟨d, _, rfl⟩ := List.mem_map.1 hc
  exact d.valid

@[simp] theorem isScalar_ofNat (n : Nat) : IsScalar (ofNat n) := by
  intro c hc
  obtain ⟨d, _, rfl⟩ := List.mem_map.1 hc
  exact d.valid

@[simp] theorem isScalar_ofInt (n : Int) : IsScalar (ofInt n) := by
  cases n with
  | ofNat n => exact isScalar_ofNat n
  | negSucc n => exact isScalar_cons.2 ⟨by decide, isScalar_ofNat (n + 1)⟩

/-- What is so of all sixteen digits is so of all characters of a number. -/
theorem forall_mem_digitsFrom {p : CodePoint → Prop} (hp : ∀ d < 16, p (digit d)) {fuel n : Nat}
    {acc : Text} (h : ∀ c ∈ acc, p c) : ∀ c ∈ digitsFrom 16 fuel n acc, p c := by
  induction fuel generalizing n acc with
  | zero => exact h
  | succ fuel ih =>
    rw [digitsFrom]
    split
    · next hn => exact List.forall_mem_cons.2 ⟨hp n hn, h⟩
    · exact ih (List.forall_mem_cons.2 ⟨hp _ (Nat.mod_lt n (by decide)), h⟩)

theorem forall_mem_ofHex {p : CodePoint → Prop} (hp : ∀ d < 16, p (digit d)) (width n : Nat) :
    ∀ c ∈ ofHex width n, p c := by
  rw [ofHex, List.forall_mem_append]
  refine ⟨fun c hc => ?_, forall_mem_digitsFrom hp nofun⟩
  rw [List.eq_of_mem_replicate hc]
  exact hp 0 (by decide)

@[simp] theorem isScalar_ofHex (width n : Nat) : IsScalar (ofHex width n) :=
  forall_mem_ofHex (by decide) width n

/-! ## Quoted texts -/

/-- All surrogates are in one of the runs of what is not printable. -/
theorem isValidChar_of_isPrintable {c : Nat} (h : isPrintable c = true) : c.isValidChar := by
  rw [isPrintable] at h
  split at h
  · next hc => exact .inl (Nat.lt_trans hc (by decide))
  · have hrun : ∃ r ∈ hiddenRuns, r.1 ≤ 0xD800 ∧ 0xDFFF ≤ r.2 := by decide +kernel
    obtain ⟨⟨first, last⟩, hr, hfirst, hlast⟩ := hrun
    rw [Bool.and_eq_true, decide_eq_true_eq, Bool.not_eq_true', List.any_eq_false] at h
    have hout : first ≤ c → last < c := by simpa using h.2 (first, last) hr
    rcases Nat.lt_or_ge c 0xD800 with hlow | hhigh
    · exact .inl hlow
    · exact .inr ⟨Nat.lt_of_le_of_lt hlast (hout (Nat.le_trans hfirst hhigh)),
        Nat.lt_succ_of_le h.1⟩

namespace Quoted

@[simp] theorem isScalar_numbered (c : CodePoint) : IsScalar (numbered c) := by
  rw [numbered]
  split
  · exact isScalar_cons.2 ⟨by decide, isScalar_cons.2 ⟨by decide, isScalar_ofHex _ _⟩⟩
  · split <;>
      exact isScalar_cons.2 ⟨by decide, isScalar_cons.2 ⟨by decide, isScalar_ofHex _ _⟩⟩

theorem isValidChar_mark (t : Text) : (mark t).isValidChar := by
  rw [mark]
  split <;> decide

/-- An escape is made of scalar values, whatever it stands for. -/
theorem isScalar_escape {m : CodePoint} (hm : m.isValidChar) (c : CodePoint) :
    IsScalar (escape m c) := by
  rw [escape]
  split
  · next h =>
    rw [Bool.or_eq_true, beq_iff_eq, beq_iff_eq] at h
    rcases h with rfl | rfl
    · exact isScalar_cons.2 ⟨by decide, isScalar_cons.2 ⟨hm, isScalar_nil⟩⟩
    · decide
  · split
    · decide
    · split
      · decide
      · split
        · decide
        · split
          · next h => exact isScalar_cons.2 ⟨isValidChar_of_isPrintable h, isScalar_nil⟩
          · exact isScalar_numbered c

@[simp] theorem isScalar_encode (t : Text) : IsScalar (encode t) := by
  have hm := isValidChar_mark t
  rw [encode, List.cons_append, isScalar_cons, isScalar_append]
  refine ⟨hm, fun c hc => ?_, isScalar_cons.2 ⟨hm, isScalar_nil⟩⟩
  obtain ⟨d, _, hd⟩ := List.mem_flatMap.1 hc
  exact isScalar_escape hm d c hd

end Quoted

end Text

open Text

/-! ## Errors of bodies -/

@[simp] theorem Scheme.isScalar_name (s : Scheme) : s.name.IsScalar := by
  rcases s with _ | ⟨_ | _⟩ | ⟨_ | _⟩ <;> exact isScalar_ofString _

@[simp] theorem FaultReason.isScalar_message (r : FaultReason) : r.message.IsScalar := by
  cases r <;> exact isScalar_ofString _

@[simp] theorem EncodingFault.isScalar_message (f : EncodingFault) : f.message.IsScalar := by
  simp only [EncodingFault.message, isScalar_append]
  split <;> simp

namespace Json

@[simp] theorem Flaw.isScalar_message (f : Flaw) : f.message.IsScalar := by
  cases f <;> exact isScalar_ofString _

@[simp] theorem Place.isScalar_message (p : Place) : p.message.IsScalar := by
  simp [Place.message]

@[simp] theorem Error.isScalar_message (e : Error) : e.message.IsScalar := by
  rcases e with _ | _ | ⟨_ | _⟩ | _ <;> simp [Error.message, tooManyDigitsMessage]

@[simp] theorem Kind.isScalar_name (k : Kind) : k.name.IsScalar := by
  cases k <;> exact isScalar_ofString _

end Json

namespace Hub

@[simp] theorem Expected.isScalar_name (e : Expected) : e.name.IsScalar := by
  cases e <;> exact isScalar_ofString _

/-- What is quoted of a value is escaped. -/
@[simp] theorem Reason.isScalar_message (r : Reason) : r.message.IsScalar := by
  cases r <;> simp [Reason.message]

/-- A path is made of scalar values if the names in it are. -/
theorem Path.isScalar_text {root : Text} {p : Path} (hroot : root.IsScalar)
    (hp : ∀ name, .key name ∈ p → name.IsScalar) : (p.text root).IsScalar := by
  rw [Path.text, isScalar_append]
  refine ⟨hroot, fun c hc => ?_⟩
  obtain ⟨step, hstep, hc⟩ := List.mem_flatMap.1 hc
  have hwhole : step.text.IsScalar := by
    cases step with
    | key name => exact isScalar_cons.2 ⟨by decide, hp name hstep⟩
    | index i => simp [Step.text]
  exact hwhole c hc

theorem DecodeError.isScalar_message {e : DecodeError} (hpath : e.path.IsScalar) :
    e.message.IsScalar := by
  have hreason : e.reason.IsScalar := by
    cases e <;> simp [DecodeError.reason]
  rw [DecodeError.message]
  split
  · exact hreason
  · simp [hpath, hreason]

theorem Body.path_of_json_error {b : Body} {e : DecodeError} (h : b.json = .error e) :
    e.path = [] := by
  cases b with
  | bytes bs =>
    rw [Body.json] at h
    cases hj : Json.ofBytes bs <;> rw [hj] at h <;> cases h
    rfl
  | text t =>
    rw [Body.json] at h
    cases hj : Json.ofText t <;> rw [hj] at h <;> cases h
    rfl

/-- An error of a body is one of the whole body, or a mismatch in the document's value. -/
theorem Body.error_cases {α : Type} {d : Decoder α} {b : Body} {e : DecodeError}
    (he : b.decode d = .error e) :
    e.path = [] ∨ ∃ v m, d v = .error m ∧ e = .mismatch documentRoot m := by
  cases hb : b.json with
  | error e' =>
    rw [Body.decode_of_malformed hb] at he
    cases he
    exact .inl (Body.path_of_json_error hb)
  | ok v =>
    rw [Body.decode, hb] at he
    cases v with
    | object o =>
      change d.run documentRoot ((Bindings.find? o documentRoot).getD .null) = .error e at he
      generalize (Bindings.find? o documentRoot).getD .null = w at he
      rw [Decoder.run] at he
      cases hd : d w with
      | ok a => rw [hd] at he; cases he
      | error m =>
        rw [hd] at he
        cases he
        exact .inr ⟨w, m, hd, rfl⟩
    | _ =>
      cases he
      exact .inl rfl

/-- Whatever the body, the message of its error is made of scalar values if the names in the schema
    are. -/
theorem Decoder.Follows.isScalar_message {α : Type} {d : Decoder α} {s : Schema} (h : d.Follows s)
    (hs : ∀ name ∈ s.names, name.IsScalar) {b : Body} {e : DecodeError}
    (he : b.decode d = .error e) : e.message.IsScalar := by
  refine DecodeError.isScalar_message ?_
  rcases Body.error_cases he with hpath | ⟨v, m, hm, rfl⟩
  · rw [hpath]
    exact isScalar_nil
  · exact Path.isScalar_text (by decide) fun name hname =>
      hs name (((h v).fault hm).mem_names hname)

theorem Status.isScalar_message (b : Body) (e : DecodeError) (he : Status.decode b = .error e) :
    e.message.IsScalar := Status.decoder_follows.isScalar_message (by decide) he

theorem Queue.isScalar_message (b : Body) (e : DecodeError) (he : Queue.decode b = .error e) :
    e.message.IsScalar := Queue.decoder_follows.isScalar_message (by decide) he

end Hub

/-! ## Errors of addresses -/

theorem SurrogateFault.isScalar_message (f : SurrogateFault) : f.message.IsScalar := by
  simp only [SurrogateFault.message, isScalar_append]
  split <;> simp

theorem Url.Error.isScalar_message (e : Url.Error) : e.message.IsScalar := by
  cases e with
  | surrogate c => exact SurrogateFault.isScalar_message _
  | _ => simp [Url.Error.message]

end GridGauge
