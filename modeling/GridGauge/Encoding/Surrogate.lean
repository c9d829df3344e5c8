import GridGauge.Text.Quoted

/-!
# Surrogates in texts

Surrogates have no place in UTF-8, so a text with surrogates in it cannot be
written. What is said of it names the first stretch of surrogates.
-/

namespace GridGauge

/-- Surrogates one after the other that cannot be written. -/
structure SurrogateFault where
  /-- The position of the first. -/
  first : Nat
  /-- The position of the last. -/
  last : Nat
  /-- The first itself. -/
  c : CodePoint
  deriving DecidableEq, Repr

namespace SurrogateFault

/-- The fault in words: a single surrogate is shown, several are only located. -/
def message (f : SurrogateFault) : Text :=
  let place : Text :=
    if f.first = f.last then
      "character '" ++ Text.Quoted.numbered f.c ++ "' in position " ++ Text.ofNat f.first
    else "characters in position " ++ Text.ofNat f.first ++ "-" ++ Text.ofNat f.last
  "'utf-8' codec can't encode " ++ place ++ ": surrogates not allowed"

/-- The first fault of a text at a position, where some surrogates are `spared`: a stretch of them
    may stand before, but not in the middle. -/
def find? (spared : CodePoint → Bool) : (position : Nat) → Text → Option SurrogateFault
  | _, [] => none
  | n, c :: rest =>
    if Text.isSurrogate c && !spared c then
      some ⟨n, n + (rest.takeWhile Text.isSurrogate).length, c⟩
    else find? spared (n + 1) rest

theorem find?_eq_none_iff {spared : CodePoint → Bool} {n : Nat} {t : Text} :
    find? spared n t = none ↔ ∀ c ∈ t, (Text.isSurrogate c && !spared c) = false := by
  induction t generalizing n with
  | nil => exact iff_of_true rfl nofun
  | cons c t ih =>
    rw [find?, List.forall_mem_cons, ← @ih (n + 1)]
    split
    · next hc => exact ⟨nofun, fun h => absurd (h.1.symm.trans hc) Bool.false_ne_true⟩
    · next hc => exact (and_iff_right (Bool.eq_false_iff.2 hc)).symm

end SurrogateFault

end GridGauge
