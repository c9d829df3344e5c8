import GridGauge.Json.Writer
import GridGauge.Proofs.Digits
import GridGauge.Proofs.Messages

/-!
# JSON in ASCII

A layout that escapes everything beyond ASCII writes ASCII, whatever the value
is and whatever its texts are made of (`isAscii_toText`). So a report in such a
layout can be printed even if there are halves of surrogate pairs in its texts.
-/

namespace GridGauge

namespace Text

/-- The text is made of ASCII. -/
def IsAscii (t : Text) : Prop := ∀ c ∈ t, c < 0x80

instance (t : Text) : Decidable t.IsAscii := by
  rw [IsAscii]
  infer_instance

variable {s t : Text} {c : CodePoint}

theorem IsAscii.isWhole (h : t.IsAscii) : t.IsWhole := fun c hc => by
  have hlow : ∀ n : Nat, n < 0x80 → ¬0xD800 ≤ n := by omega
  simp [isSurrogate, hlow c (h c hc)]

@[simp] theorem isAscii_nil : IsAscii [] := nofun

@[simp] theorem isAscii_cons : IsAscii (c :: t) ↔ c < 0x80 ∧ t.IsAscii := List.forall_mem_cons

@[simp] theorem isAscii_append : IsAscii (s ++ t) ↔ s.IsAscii ∧ t.IsAscii :=
  List.forall_mem_append

theorem IsAscii.mono (ht : t.IsAscii) (h : s ⊆ t) : s.IsAscii := fun c hc => ht c (h hc)

theorem isAscii_repeated (hc : c < 0x80) (n : Nat) : IsAscii (repeated n c) := fun d hd => by
  rw [List.eq_of_mem_replicate hd]
  exact hc

@[simp] theorem isAscii_ofNat (n : Nat) : IsAscii (ofNat n) := fun c hc => by
  exact Nat.lt_of_le_of_lt (isDecimalDigit_iff.1 (isDecimalDigit_of_mem_ofNat hc)).2 (by decide)

@[simp] theorem isAscii_ofInt (n : Int) : IsAscii (ofInt n) := by
  cases n with
  | ofNat n => exact isAscii_ofNat n
  | negSucc n => exact isAscii_cons.2 ⟨by decide, isAscii_ofNat (n + 1)⟩

@[simp] theorem isAscii_ofHex (width n : Nat) : IsAscii (ofHex width n) :=
  forall_mem_ofHex (by decide) width n

end Text

open Text

/-! ## Numbers -/

namespace Layout

theorem isAscii_positional {digits : Text} (h : digits.IsAscii) (places : Int) :
    (positional digits places).IsAscii := by
  have hzeros (n : Nat) : (repeated n 48).IsAscii := isAscii_repeated (by decide) n
  have hpoint : ((".0" : Text)).IsAscii := by decide
  have hpoint' : (("." : Text)).IsAscii := by decide
  have hzero : (("0." : Text)).IsAscii := by decide
  rw [positional]
  split
  · exact isAscii_append.2 ⟨isAscii_append.2 ⟨hzero, hzeros _⟩, h⟩
  · split
    · exact isAscii_append.2 ⟨isAscii_append.2 ⟨h, hzeros _⟩, hpoint⟩
    · exact isAscii_append.2 ⟨isAscii_append.2 ⟨h.mono (List.take_subset _ _), hpoint'⟩,
        h.mono (List.drop_subset _ _)⟩

theorem isAscii_scientific (layout : Layout) {digits : Text} (h : digits.IsAscii) (power : Int) :
    (layout.scientific digits power).IsAscii := by
  have hfigures (n : Nat) : (ofNatPadded layout.figures n).IsAscii :=
    isAscii_append.2 ⟨isAscii_repeated (by decide) _, isAscii_ofNat n⟩
  refine isAscii_append.2 ⟨isAscii_append.2 ⟨?_, ?_⟩, hfigures _⟩
  · split
    · simpa [and_left_comm] using h
    · exact h
  · split <;> decide

theorem isAscii_number (layout : Layout) (x : Binary64) : (layout.number x).IsAscii := by
  have hdecimal (d : Decimal) : (layout.decimal d).IsAscii := by
    unfold decimal
    dsimp only
    split
    · decide
    · split
      · exact isAscii_positional (isAscii_ofNat _) _
      · exact layout.isAscii_scientific (isAscii_ofNat _) _
  have hsign : Text.IsAscii (if x.negative then "-" else "") := by split <;> decide
  rw [number]
  dsimp only
  split
  · decide
  · split
    · exact isAscii_append.2 ⟨hsign, by decide⟩
    · exact isAscii_append.2 ⟨hsign, hdecimal _⟩

end Layout

/-! ## Values -/

namespace Json

/-- The layout has nothing beyond ASCII, and escapes whatever is. -/
structure Style.IsAscii (s : Style) : Prop where
  ascii : s.ascii = true
  comma : s.comma.IsAscii
  colon : s.colon.IsAscii

theorem Style.isAscii_spaced : spaced.IsAscii := ⟨rfl, by decide, by decide⟩

theorem Style.isAscii_indented : indented.IsAscii := ⟨rfl, by decide, by decide⟩

theorem isAscii_unitEscape (u : Nat) : (unitEscape u).IsAscii :=
  isAscii_append.2 ⟨by decide, isAscii_ofHex 4 u⟩

theorem isAscii_writeCodePoint (c : CodePoint) : (writeCodePoint true c).IsAscii := by
  unfold writeCodePoint
  split
  any_goals decide
  split
  · exact isAscii_unitEscape c
  · split
    · next hlow =>
      have hc : c < 0x7F := by simpa using hlow
      exact isAscii_cons.2 ⟨Nat.lt_trans hc (by decide), isAscii_nil⟩
    · split
      · exact isAscii_unitEscape c
      · exact isAscii_append.2 ⟨isAscii_unitEscape _, isAscii_unitEscape _⟩

theorem isAscii_writeString (t : Text) : (writeString true t).IsAscii := by
  refine isAscii_append.2 ⟨isAscii_append.2 ⟨by decide, fun c hc => ?_⟩, by decide⟩
  obtain ⟨d, -, hc⟩ := List.mem_flatMap.1 hc
  exact isAscii_writeCodePoint d c hc

variable {s : Style}

theorem isAscii_writeFloat (x : Binary64) : (writeFloat s x).IsAscii := by
  rw [writeFloat]
  split
  · exact s.layout.isAscii_number x
  · repeat' split
    all_goals decide

theorem Style.isAscii_lineBreak (level : Nat) : (s.lineBreak level).IsAscii := by
  rw [lineBreak]
  split
  · exact isAscii_nil
  · exact isAscii_cons.2 ⟨by decide, isAscii_repeated (by decide) _⟩

mutual

theorem isAscii_write (hs : s.IsAscii) (level : Nat) : (v : Json) → (write s level v).IsAscii
  | .null => by rw [write]; decide
  | .bool true => by rw [write]; decide
  | .bool false => by rw [write]; decide
  | .int n => isAscii_ofInt n
  | .float x => isAscii_writeFloat x
  | .string t => by
    rw [write, hs.ascii]
    exact isAscii_writeString t
  | .array [] => by rw [write]; decide
  | .array (v :: vs) => by
    have hbracket : (("[" : Text)).IsAscii := by decide
    have hbracket' : (("]" : Text)).IsAscii := by decide
    simp only [write, isAscii_append]
    exact ⟨⟨⟨⟨⟨hbracket, s.isAscii_lineBreak _⟩, isAscii_write hs _ v⟩,
      isAscii_writeItems hs _ vs⟩, s.isAscii_lineBreak _⟩, hbracket'⟩
  | .object [] => by rw [write]; decide
  | .object ((k, v) :: ms) => by
    have hbrace : (("\x7b" : Text)).IsAscii := by decide
    have hbrace' : (("\x7d" : Text)).IsAscii := by decide
    simp only [write, isAscii_append, hs.ascii]
    exact ⟨⟨⟨⟨⟨⟨⟨hbrace, s.isAscii_lineBreak _⟩, isAscii_writeString k⟩, hs.colon⟩,
      isAscii_write hs _ v⟩, isAscii_writeMembers hs _ ms⟩, s.isAscii_lineBreak _⟩, hbrace'⟩

theorem isAscii_writeItems (hs : s.IsAscii) (level : Nat) :
    (vs : List Json) → (writeItems s level vs).IsAscii
  | [] => isAscii_nil
  | v :: vs => by
    simp only [writeItems, isAscii_append]
    exact ⟨⟨⟨hs.comma, s.isAscii_lineBreak _⟩, isAscii_write hs _ v⟩, isAscii_writeItems hs _ vs⟩

theorem isAscii_writeMembers (hs : s.IsAscii) (level : Nat) :
    (ms : List (Text × Json)) → (writeMembers s level ms).IsAscii
  | [] => isAscii_nil
  | (k, v) :: ms => by
    simp only [writeMembers, isAscii_append, hs.ascii]
    exact ⟨⟨⟨⟨⟨hs.comma, s.isAscii_lineBreak _⟩, isAscii_writeString k⟩, hs.colon⟩,
      isAscii_write hs _ v⟩, isAscii_writeMembers hs _ ms⟩

end

/-- What is written is ASCII, whatever it is written for. -/
theorem isAscii_toText (hs : s.IsAscii) (v : Json) : (toText s v).IsAscii := isAscii_write hs 0 v

end Json

end GridGauge
