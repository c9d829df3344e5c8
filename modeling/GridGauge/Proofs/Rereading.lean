import GridGauge.Proofs.Escapes
import GridGauge.Proofs.Numerals

/-!
# Values are read as they are written

The text of a JSON value is read as the value under every style whose commas
and colons are what they are called, with no more than blanks behind them
(`ofText_toText`). What can be read again is an inductive notion
(`IsRestorable`): numbers are finite, integers within the limit of digits, texts
made of scalar values, no key of an object occurs twice, and containers are not
nested too deep.

The proof goes along the value (`value_write`). In a container each item is read
with all that follows it, which never goes on with a number, as it begins with a
comma, a blank or a closing bracket (`EndsNumber`).
-/

namespace GridGauge.Json

/-- The value can be read from its writing, with no more than `depth` containers around each
    other. -/
inductive IsRestorable : (depth : Nat) → Json → Prop
  | null {depth : Nat} : IsRestorable depth .null
  | bool {depth : Nat} (b : Bool) : IsRestorable depth (.bool b)
  | int {depth : Nat} {n : Int} : n.natAbs < Nat.pow 10 digitLimit → IsRestorable depth (.int n)
  | float {depth : Nat} {x : Binary64} : x.isFinite = true → IsRestorable depth (.float x)
  | string {depth : Nat} {t : Text} : t.IsScalar → IsRestorable depth (.string t)
  | array {depth : Nat} {vs : List Json} : (∀ v ∈ vs, IsRestorable depth v) →
      IsRestorable (depth + 1) (.array vs)
  | object {depth : Nat} {ms : List (Text × Json)} : (ms.map Prod.fst).Nodup →
      (∀ m ∈ ms, m.1.IsScalar) → (∀ m ∈ ms, IsRestorable depth m.2) →
      IsRestorable (depth + 1) (.object ms)

/-- The comma and the colon are what they are called, with blanks behind. -/
structure Style.IsReadable (s : Style) : Prop where
  comma : ∃ blanks, s.comma = 0x2C :: blanks ∧ ∀ c ∈ blanks, Reader.isSpace c = true
  colon : ∃ blanks, s.colon = 0x3A :: blanks ∧ ∀ c ∈ blanks, Reader.isSpace c = true

theorem Style.isReadable_spaced : spaced.IsReadable :=
  ⟨⟨[32], rfl, by decide⟩, [32], rfl, by decide⟩

theorem Style.isReadable_indented : indented.IsReadable :=
  ⟨⟨[], rfl, by decide⟩, [32], rfl, by decide⟩

variable {s : Style} {level : Nat}

theorem Style.isSpace_of_mem_lineBreak {c : CodePoint} (hc : c ∈ s.lineBreak level) :
    Reader.isSpace c = true := by
  rw [lineBreak] at hc
  split at hc
  · cases hc
  · rcases List.mem_cons.1 hc with rfl | hc
    · rfl
    · rw [List.eq_of_mem_replicate hc]
      rfl

namespace Reader

variable {blanks t rest : Text} {most depth : Nat}

/-! ## Blanks -/

theorem skipSpace_blanks (h : ∀ c ∈ blanks, isSpace c = true) (t : Text) :
    skipSpace (blanks ++ t) = skipSpace t := List.dropWhile_append_of_pos h

theorem skipSpace_cons {c : CodePoint} (hc : isSpace c = false) (t : Text) :
    skipSpace (c :: t) = c :: t := List.dropWhile_cons_of_neg (by simp [hc])

theorem eq_of_isSpace {c : CodePoint} (h : isSpace c = true) :
    c = 32 ∨ c = 9 ∨ c = 10 ∨ c = 13 := by
  simpa [isSpace, or_assoc] using h

/-- Blanks end a number, and so does what ends one behind blanks. -/
theorem EndsNumber.blanks_append (hblanks : ∀ c ∈ blanks, isSpace c = true)
    (ht : EndsNumber t) : EndsNumber (blanks ++ t) := by
  cases blanks with
  | nil => exact ht
  | cons c blanks =>
    rintro _ ⟨⟩
    rcases eq_of_isSpace (hblanks c List.mem_cons_self) with rfl | rfl | rfl | rfl <;> decide

/-- A comma, a closing bracket or a closing brace ends a number. -/
theorem endsNumber_cons {c : CodePoint} (hc : c = 0x2C ∨ c = 0x5D ∨ c = 0x7D) (t : Text) :
    EndsNumber (c :: t) := by
  rintro _ ⟨⟩
  rcases hc with rfl | rfl | rfl <;> decide

/-! ## What a value begins with -/

/-- No value begins with a blank, a closing bracket or a byte order mark. -/
theorem value_head {v : Json} (h : value most depth t = .ok (v, rest)) :
    ∃ c u, t = c :: u ∧ isSpace c = false ∧ c ≠ 0x5D ∧ c ≠ byteOrderMark := by
  cases t with
  | nil => cases depth <;> cases h
  | cons c u =>
    refine ⟨c, u, rfl, Bool.eq_false_iff.2 fun hc => ?_, ?_, ?_⟩
    · rcases eq_of_isSpace hc with rfl | rfl | rfl | rfl <;> cases depth <;> cases h
    · rintro rfl
      cases depth <;> cases h
    · rintro rfl
      cases depth <;> cases h

/-- What is read as a value that is no container is read as a value. -/
theorem value_of_scalar {v : Json} (h : scalar t = .ok (v, rest)) :
    value most depth t = .ok (v, rest) := by
  cases t with
  | nil => cases h
  | cons c u =>
    by_cases hbracket : c = 0x5B
    · subst hbracket
      cases h
    · by_cases hbrace : c = 0x7B
      · subst hbrace
        cases h
      · have bracket (u' : Text) : c :: u ≠ 0x5B :: u' := fun heq => hbracket (List.cons.inj heq).1
        have brace (u' : Text) : c :: u ≠ 0x7B :: u' := fun heq => hbrace (List.cons.inj heq).1
        cases depth with
        | zero => rwa [value.eq_3 _ _ bracket brace]
        | succ depth => rwa [value.eq_6 _ _ _ bracket brace]

/-! ## What is behind a comma -/

/-- Texts behind the first of a container, each behind its comma. -/
def writeMore (s : Style) (level : Nat) (ts : List Text) : Text :=
  ts.flatMap fun t => s.comma ++ (s.lineBreak level ++ t)

theorem writeItems_eq (vs : List Json) :
    writeItems s level vs = writeMore s level (vs.map (write s level)) := by
  induction vs with
  | nil => rfl
  | cons v vs ih =>
    rw [writeItems, ih]
    simp [writeMore]

/-- A member with its key. -/
def writeMember (s : Style) (level : Nat) (m : Text × Json) : Text :=
  writeString s.ascii m.1 ++ (s.colon ++ write s level m.2)

theorem writeMembers_eq (ms : List (Text × Json)) :
    writeMembers s level ms = writeMore s level (ms.map (writeMember s level)) := by
  induction ms with
  | nil => rfl
  | cons m ms ih =>
    rw [writeMembers, ih]
    simp [writeMore, writeMember]

theorem skipSpace_lineBreak (level : Nat) (t : Text) :
    Reader.skipSpace (s.lineBreak level ++ t) = Reader.skipSpace t :=
  skipSpace_blanks (fun _ => Style.isSpace_of_mem_lineBreak) t

/-- Behind the comma of a text there are blanks, and then the text. -/
theorem writeMore_cons (hs : s.IsReadable) (level : Nat) (t : Text) (ts : List Text) (rest : Text) :
    ∃ behind, writeMore s level (t :: ts) ++ rest = 0x2C :: behind ∧
      Reader.skipSpace behind = Reader.skipSpace (t ++ (writeMore s level ts ++ rest)) := by
  obtain ⟨blanks, hcomma, hblanks⟩ := hs.comma
  refine ⟨blanks ++ (s.lineBreak level ++ (t ++ (writeMore s level ts ++ rest))), ?_, ?_⟩
  · simp [writeMore, hcomma]
  · rw [skipSpace_blanks hblanks, skipSpace_lineBreak]

/-- A number ends in front of a comma, and in front of the end of the container. -/
theorem endsNumber_writeMore (hs : s.IsReadable) (level : Nat) (ts : List Text) (level' : Nat)
    {close : CodePoint} (hclose : close = 0x5D ∨ close = 0x7D) (rest : Text) :
    EndsNumber (writeMore s level ts ++ (s.lineBreak level' ++ close :: rest)) := by
  cases ts with
  | nil =>
    show EndsNumber (s.lineBreak level' ++ close :: rest)
    exact EndsNumber.blanks_append (fun _ => Style.isSpace_of_mem_lineBreak)
      (endsNumber_cons (.inr hclose) rest)
  | cons t ts =>
    obtain ⟨behind, hopen, -⟩ := writeMore_cons hs level t ts (s.lineBreak level' ++ close :: rest)
    rw [hopen]
    exact endsNumber_cons (.inl rfl) behind

/-- No text is longer than all texts together. -/
theorem length_le_writeMore_of_mem (level : Nat) {t : Text} {ts : List Text} (h : t ∈ ts) :
    t.length ≤ (writeMore s level ts).length := by
  obtain ⟨before, behind, rfl⟩ := List.append_of_mem h
  simp only [writeMore, List.flatMap_append, List.flatMap_cons, List.length_append]
  omega

/-- There are no more texts than characters, as each has its comma. -/
theorem length_le_writeMore (hs : s.IsReadable) (level : Nat) (ts : List Text) :
    ts.length ≤ (writeMore s level ts).length := by
  obtain ⟨blanks, hcomma, -⟩ := hs.comma
  induction ts with
  | nil => exact Nat.zero_le _
  | cons t ts ih =>
    simp only [writeMore, List.flatMap_cons, hcomma, List.length_append, List.length_cons] at ih ⊢
    omega

/-! ## Items and members -/

/-- The text of a value is read as the value and what follows. -/
def Reads (most depth : Nat) (s : Style) (level : Nat) (v : Json) : Prop :=
  ∀ rest, EndsNumber rest → value most depth (write s level v ++ rest) = .ok (v, rest)

/-- A value does not begin with a blank. -/
theorem Reads.skipSpace {v : Json} (h : Reads most depth s level v) (hrest : EndsNumber rest) :
    Reader.skipSpace (write s level v ++ rest) = write s level v ++ rest := by
  obtain ⟨c, u, hu, hc, -⟩ := value_head (h rest hrest)
  rw [hu, skipSpace_cons hc]

/-- An array with a value in front is not empty. -/
theorem Reads.array {v : Json} (h : Reads most depth s level v) (hrest : EndsNumber rest) :
    Reader.array most (value most depth) (s.lineBreak level ++ (write s level v ++ rest))
      = items (value most depth) most [] (write s level v ++ rest) := by
  obtain ⟨c, u, hu, -, hbracket, -⟩ := value_head (h rest hrest)
  rw [Reader.array, skipSpace_lineBreak, h.skipSpace hrest, hu]
  split
  · next heq => exact absurd (List.cons.inj heq).1 hbracket
  · rfl

/-- Items are read one after the other up to the bracket. -/
theorem items_write (hs : s.IsReadable) {level' : Nat} (rest : Text) {v : Json} {vs : List Json}
    (hread : ∀ u ∈ v :: vs, Reads most depth s level u) {fuel : Nat} (hfuel : vs.length < fuel)
    (before : List Json) :
    items (value most depth) fuel before (write s level v
        ++ (writeMore s level (vs.map (write s level)) ++ (s.lineBreak level' ++ 0x5D :: rest)))
      = .ok (.array (before.reverse ++ v :: vs), rest) := by
  have hends (vs : List Json) : EndsNumber
      (writeMore s level (vs.map (write s level)) ++ (s.lineBreak level' ++ 0x5D :: rest)) :=
    endsNumber_writeMore hs level _ level' (.inl rfl) rest
  induction vs generalizing v fuel before with
  | nil =>
    obtain ⟨fuel, rfl⟩ := Nat.exists_eq_add_one_of_ne_zero (Nat.ne_of_gt hfuel)
    have hv := hread v List.mem_cons_self _ (hends [])
    have hclose : Reader.skipSpace (writeMore s level [] ++ (s.lineBreak level' ++ 0x5D :: rest))
        = 0x5D :: rest := (skipSpace_lineBreak level' _).trans (skipSpace_cons rfl rest)
    rw [items, hv]
    simp only [List.map_nil, hclose, List.reverse_cons]
  | cons u vs ih =>
    obtain ⟨fuel, rfl⟩ := Nat.exists_eq_add_one_of_ne_zero (Nat.ne_of_gt (Nat.zero_lt_of_lt hfuel))
    have hv := hread v List.mem_cons_self _ (hends (u :: vs))
    have hu := hread u (List.mem_cons_of_mem v List.mem_cons_self)
    obtain ⟨behind, hopen, hbehind⟩ := writeMore_cons hs level (write s level u)
      (vs.map (write s level)) (s.lineBreak level' ++ 0x5D :: rest)
    rw [hu.skipSpace (hends vs)] at hbehind
    rw [items, hv]
    simp only [List.map_cons, hopen, skipSpace_cons (c := 0x2C) rfl, hbehind]
    rw [ih (fun w hw => hread w (List.mem_cons_of_mem v hw)) (Nat.lt_of_succ_lt_succ hfuel),
      List.reverse_cons, List.append_assoc]
    rfl

/-- A key that is not bound yet takes the last place. -/
theorem put_of_nodup {before ms : Members} {m : Text × Json}
    (h : ((before ++ m :: ms).map Prod.fst).Nodup) : before.put m.1 m.2 = before ++ [m] := by
  have hbound : Bindings.has before m.1 = false := by
    rw [Bindings.has, List.any_eq_false]
    intro n hn heq
    rw [List.map_append, List.nodup_append] at h
    exact h.2.2 n.1 (List.mem_map_of_mem hn) m.1 List.mem_cons_self (beq_iff_eq.1 heq)
  rw [Bindings.put, hbound, if_neg Bool.false_ne_true]

/-- A member is read with its key, be it the last or not. -/
theorem members_member (hs : s.IsReadable) {m : Text × Json} (hkey : m.1.IsScalar)
    (hv : Reads most depth s level m.2) (hrest : EndsNumber rest) (fuel : Nat) (before : Members) :
    (∀ behind, Reader.skipSpace rest = 0x7D :: behind →
      members (value most depth) (fuel + 1) before (writeMember s level m ++ rest)
        = .ok (.object (before.put m.1 m.2), behind)) ∧
    ∀ behind, Reader.skipSpace rest = 0x2C :: behind →
      members (value most depth) (fuel + 1) before (writeMember s level m ++ rest)
        = members (value most depth) fuel (before.put m.1 m.2) (Reader.skipSpace behind) := by
  obtain ⟨blanks, hcolon, hblanks⟩ := hs.colon
  obtain ⟨behind, hopen, hstring⟩ :=
    string_writeString s.ascii hkey (s.colon ++ (write s level m.2 ++ rest))
  have hmember : writeMember s level m ++ rest = 0x22 :: behind := by
    rw [← hopen, writeMember, List.append_assoc, List.append_assoc]
  constructor <;> intro next hnext
  all_goals
    rw [hmember, members, hstring]
    simp only [hcolon, List.cons_append, skipSpace_cons (c := 0x3A) rfl, skipSpace_blanks hblanks,
      hv.skipSpace hrest, hv rest hrest, hnext]

/-- A member begins with the mark of its key. -/
theorem skipSpace_writeMember (m : Text × Json) (rest : Text) :
    Reader.skipSpace (writeMember s level m ++ rest) = writeMember s level m ++ rest := by
  rw [writeMember, writeString, List.append_assoc, List.append_assoc, List.append_assoc]
  exact skipSpace_cons rfl _

/-- Members are read one after the other up to the brace. -/
theorem members_write (hs : s.IsReadable) {level' : Nat} (rest : Text) {m : Text × Json}
    {ms : List (Text × Json)}
    (hread : ∀ n ∈ m :: ms, n.1.IsScalar ∧ Reads most depth s level n.2) {fuel : Nat}
    (hfuel : ms.length < fuel) (before : Members)
    (hkeys : ((before ++ m :: ms).map Prod.fst).Nodup) :
    members (value most depth) fuel before (writeMember s level m
        ++ (writeMore s level (ms.map (writeMember s level))
          ++ (s.lineBreak level' ++ 0x7D :: rest)))
      = .ok (.object (before ++ m :: ms), rest) := by
  have hends (ms : List (Text × Json)) : EndsNumber
      (writeMore s level (ms.map (writeMember s level)) ++ (s.lineBreak level' ++ 0x7D :: rest)) :=
    endsNumber_writeMore hs level _ level' (.inr rfl) rest
  induction ms generalizing m fuel before with
  | nil =>
    obtain ⟨fuel, rfl⟩ := Nat.exists_eq_add_one_of_ne_zero (Nat.ne_of_gt hfuel)
    obtain ⟨hkey, hv⟩ := hread m List.mem_cons_self
    have hclose : Reader.skipSpace (writeMore s level [] ++ (s.lineBreak level' ++ 0x7D :: rest))
        = 0x7D :: rest := (skipSpace_lineBreak level' _).trans (skipSpace_cons rfl rest)
    rw [(members_member hs hkey hv (hends []) fuel before).1 rest hclose,
      put_of_nodup hkeys]
  | cons n ms ih =>
    obtain ⟨fuel, rfl⟩ := Nat.exists_eq_add_one_of_ne_zero (Nat.ne_of_gt (Nat.zero_lt_of_lt hfuel))
    obtain ⟨hkey, hv⟩ := hread m List.mem_cons_self
    -- What is behind the comma is the next member, without the blanks in front of it.
    obtain ⟨behind, hopen, hbehind⟩ := writeMore_cons hs level (writeMember s level n)
      (ms.map (writeMember s level)) (s.lineBreak level' ++ 0x7D :: rest)
    have hnext : Reader.skipSpace (writeMore s level ((n :: ms).map (writeMember s level))
        ++ (s.lineBreak level' ++ 0x7D :: rest)) = 0x2C :: behind := by
      rw [List.map_cons, hopen, skipSpace_cons rfl]
    rw [(members_member hs hkey hv (hends (n :: ms)) fuel before).2 behind hnext,
      put_of_nodup hkeys, hbehind, skipSpace_writeMember]
    rw [List.append_cons before m (n :: ms)] at hkeys ⊢
    exact ih (fun u hu => hread u (List.mem_cons_of_mem m hu)) (Nat.lt_of_succ_lt_succ hfuel) _
      hkeys

end Reader

/-! ## Values -/

open Reader

/-- A value that can be read again is read from its writing, whatever follows it that does not go on
    with a number. -/
theorem value_write (hs : s.IsReadable) {depth : Nat} {v : Json} (hv : IsRestorable depth v)
    {most : Nat} (hmost : (write s level v).length ≤ most) : Reads most depth s level v := by
  induction hv generalizing level with
  | null => exact fun rest _ => value_of_scalar rfl
  | bool b => cases b <;> exact fun rest _ => value_of_scalar rfl
  | int hn => exact fun rest hrest => value_of_scalar (scalar_ofInt hn hrest)
  | float hx =>
    intro rest hrest
    refine value_of_scalar ?_
    rw [write, writeFloat, if_pos hx]
    exact scalar_number s.layout hx hrest
  | string ht =>
    intro rest hrest
    obtain ⟨behind, hopen, hstring⟩ := string_writeString s.ascii ht rest
    refine value_of_scalar ?_
    rw [write, hopen, scalar, hstring]
    rfl
  | @array depth vs hvs ih =>
    intro rest hrest
    cases vs with
    | nil => rfl
    | cons v vs =>
      -- An item is shorter than the array, and there are fewer than the array has characters.
      simp only [write, writeItems_eq, List.length_append] at hmost
      have hread : ∀ u ∈ v :: vs, Reads most depth s (level + 1) u := by
        intro u hu
        refine ih u hu ?_
        rcases List.mem_cons.1 hu with rfl | hu
        · omega
        · have := length_le_writeMore_of_mem (s := s) (level + 1)
            (List.mem_map_of_mem (f := write s (level + 1)) hu)
          omega
      have hfuel : vs.length < most := by
        have hlength := length_le_writeMore hs (level + 1) (vs.map (write s (level + 1)))
        have hopen : (Text.ofString "[").length = 1 := rfl
        rw [List.length_map] at hlength
        omega
      have hends := endsNumber_writeMore hs (level + 1) (vs.map (write s (level + 1))) level
        (.inl rfl) rest
      have htext : write s level (.array (v :: vs)) ++ rest
          = 0x5B :: (s.lineBreak (level + 1) ++ (write s (level + 1) v
            ++ (writeMore s (level + 1) (vs.map (write s (level + 1)))
              ++ (s.lineBreak level ++ 0x5D :: rest)))) := by
        simp [write, writeItems_eq, Text.ofString]
      rw [htext, value, (hread v List.mem_cons_self).array hends]
      exact items_write hs rest hread hfuel []
  | @object depth ms hkeys hscalar hms ih =>
    intro rest hrest
    cases ms with
    | nil => rfl
    | cons m ms =>
      simp only [write, writeMembers_eq, List.length_append] at hmost
      have hread : ∀ n ∈ m :: ms, n.1.IsScalar ∧ Reads most depth s (level + 1) n.2 := by
        intro n hn
        refine ⟨hscalar n hn, ih n hn ?_⟩
        rcases List.mem_cons.1 hn with rfl | hn
        · omega
        · have := length_le_writeMore_of_mem (s := s) (level + 1)
            (List.mem_map_of_mem (f := writeMember s (level + 1)) hn)
          simp only [writeMember, List.length_append] at this
          omega
      have hfuel : ms.length < most := by
        have hlength := length_le_writeMore hs (level + 1) (ms.map (writeMember s (level + 1)))
        have hopen : (Text.ofString "\x7b").length = 1 := rfl
        rw [List.length_map] at hlength
        omega
      have htext : write s level (.object (m :: ms)) ++ rest
          = 0x7B :: (s.lineBreak (level + 1) ++ (writeMember s (level + 1) m
            ++ (writeMore s (level + 1) (ms.map (writeMember s (level + 1)))
              ++ (s.lineBreak level ++ 0x7D :: rest)))) := by
        simp [write, writeMembers_eq, writeMember, Text.ofString]
      rw [htext, value, Reader.object, skipSpace_lineBreak, skipSpace_writeMember]
      exact members_write hs rest hread hfuel [] hkeys

/-- A value that can be read again is read from its text, with blanks behind or none. -/
theorem ofText_toText (hs : s.IsReadable) {v : Json} (hv : IsRestorable depthLimit v)
    {blanks : Text} (hblanks : ∀ c ∈ blanks, isSpace c = true) :
    ofText (v.toText s ++ blanks) = .ok v := by
  have hends : EndsNumber blanks := by
    rw [← List.append_nil blanks]
    exact EndsNumber.blanks_append hblanks nofun
  have hlength : (write s 0 v).length ≤ (write s 0 v ++ blanks).length + 1 := by
    rw [List.length_append]
    omega
  have hread := value_write hs hv hlength blanks hends
  have hskip := (value_write hs hv hlength).skipSpace hends
  obtain ⟨c, u, hu, -, -, hmark⟩ := value_head hread
  have hrest : Reader.skipSpace blanks = [] := List.dropWhile_eq_nil_iff.2 hblanks
  have hhead : ¬(toText s v ++ blanks).head? = some byteOrderMark := by
    rw [toText, hu]
    exact fun h => hmark (Option.some.inj h)
  rw [ofText, if_neg hhead, toText, ofUnmarkedText, hskip, hread]
  simp only [hrest]

end GridGauge.Json
