import GridGauge.Proofs.Keys
import GridGauge.Settings.Endless

/-!
# Merging, key by key

A tree that is laid over another one is gone through entry by entry. As long
as no key comes twice, what a key leads to afterwards depends on what it leads
to in the two trees and on nothing else (`Entries.find?_merge`).

Trees without an end are merged by a bounded recursion. Where it stays above
its bound it does the same (`Entries.mergeWithin_eq`).
-/

namespace GridGauge

namespace Bindings

variable {κ α : Type} [BEq κ]

theorem find?_eq_none {bs : Bindings κ α} {key : κ} (h : ∀ b ∈ bs, (b.1 == key) = false) :
    bs.find? key = none := by
  rw [find?, Option.map_eq_none_iff, List.find?_eq_none]
  exact fun b hb => by simp [h b hb]

/-- Keys that are the same have the same value. -/
theorem find?_congr [PartialEquivBEq κ] (bs : Bindings κ α) {key other : κ}
    (h : (key == other) = true) : bs.find? key = bs.find? other := by
  rw [find?, find?]
  congr 2
  funext b
  rw [Bool.eq_iff_iff]
  exact ⟨fun hb => PartialEquivBEq.trans hb h,
    fun hb => PartialEquivBEq.trans hb (PartialEquivBEq.symm h)⟩

end Bindings

/-! ## Trees can be compared -/

mutual

/-- Settings are compared part by part. -/
def Setting.decEq : (a b : Setting) → Decidable (a = b)
  | .scalar s, .scalar t => decidable_of_iff (s = t) (by rw [Setting.scalar.injEq])
  | .again m b, .again n c => decidable_of_iff (m = n ∧ b = c) (by rw [Setting.again.injEq])
  | .sequence m xs, .sequence n ys =>
    have := Setting.decEqItems xs ys
    decidable_of_iff (m = n ∧ xs = ys) (by rw [Setting.sequence.injEq])
  | .mapping m es, .mapping n fs =>
    have := Entries.decEq es fs
    decidable_of_iff (m = n ∧ es = fs) (by rw [Setting.mapping.injEq])
  | .pair j v, .pair k w =>
    have := Setting.decEq j k
    have := Setting.decEq v w
    decidable_of_iff (j = k ∧ v = w) (by rw [Setting.pair.injEq])
  | .set xs, .set ys => decidable_of_iff (xs = ys) (by rw [Setting.set.injEq])
  | .scalar _, .again _ _ | .scalar _, .sequence _ _ | .scalar _, .mapping _ _
  | .scalar _, .pair _ _ | .scalar _, .set _
  | .again _ _, .scalar _ | .again _ _, .sequence _ _ | .again _ _, .mapping _ _
  | .again _ _, .pair _ _ | .again _ _, .set _
  | .sequence _ _, .scalar _ | .sequence _ _, .again _ _ | .sequence _ _, .mapping _ _
  | .sequence _ _, .pair _ _ | .sequence _ _, .set _
  | .mapping _ _, .scalar _ | .mapping _ _, .again _ _ | .mapping _ _, .sequence _ _
  | .mapping _ _, .pair _ _ | .mapping _ _, .set _
  | .pair _ _, .scalar _ | .pair _ _, .again _ _ | .pair _ _, .sequence _ _
  | .pair _ _, .mapping _ _ | .pair _ _, .set _
  | .set _, .scalar _ | .set _, .again _ _ | .set _, .sequence _ _
  | .set _, .mapping _ _ | .set _, .pair _ _ => isFalse nofun

/-- Items are compared one by one. -/
def Setting.decEqItems : (xs ys : List Setting) → Decidable (xs = ys)
  | [], [] => isTrue rfl
  | [], _ :: _ | _ :: _, [] => isFalse nofun
  | x :: xs, y :: ys =>
    have := Setting.decEq x y
    have := Setting.decEqItems xs ys
    decidable_of_iff (x = y ∧ xs = ys) (by rw [List.cons.injEq])

/-- Entries are compared one by one. -/
def Entries.decEq : (es fs : List (Scalar × Setting)) → Decidable (es = fs)
  | [], [] => isTrue rfl
  | [], _ :: _ | _ :: _, [] => isFalse nofun
  | (k, v) :: es, (l, w) :: fs =>
    have := Setting.decEq v w
    have := Entries.decEq es fs
    decidable_of_iff ((k = l ∧ v = w) ∧ es = fs) (by rw [List.cons.injEq, Prod.mk.injEq])

end

instance : DecidableEq Setting := Setting.decEq

/-! ## Merging -/

namespace Setting

/-- Over nothing a setting is what it is. -/
@[simp] theorem over_none (v : Setting) : v.over none = v := by
  cases v <;> rfl

/-- A setting stays as it is unless it is a mapping over another one. -/
theorem over_eq_self {v : Setting} {w : Option Setting}
    (h : ∀ l lower u upper, w = some (.mapping l lower) → v ≠ .mapping u upper) :
    v.over w = v := by
  cases v with
  | mapping u upper =>
    cases w with
    | none => rfl
    | some w =>
      cases w with
      | mapping l lower => exact absurd rfl (h l lower u upper rfl)
      | _ => rfl
  | _ => rfl

theorem mapping_over_mapping (mark mark' : Option Mark) (upper lower : Entries) :
    (mapping mark upper).over (some (.mapping mark' lower)) = .ofEntries (lower.merge upper) := rfl

end Setting

namespace Entries

variable {lower upper : Entries}

theorem merge_cons (e : Scalar × Setting) :
    lower.merge (e :: upper) = Entries.merge (lower.put e.1 (e.2.over (lower.find? e.1))) upper :=
  rfl

theorem keysDistinct_merge (hl : lower.KeysDistinct) : (lower.merge upper).KeysDistinct := by
  induction upper generalizing lower with
  | nil => exact hl
  | cons e upper ih => exact ih (hl.put _ _)

/-- Over the entry of a key that does not come again, the rest changes other keys. -/
theorem find?_put_of_distinct {e e' : Scalar × Setting} (hu : Bindings.KeysDistinct (e :: upper))
    (he' : e' ∈ upper) (v : Setting) : (lower.put e.1 v).find? e'.1 = lower.find? e'.1 := by
  rw [Bindings.find?_put, (Bindings.keysDistinct_cons.1 hu).1 e' he', if_neg Bool.false_ne_true]

/-- Behind the entry of a key the key does not come again. -/
theorem find?_tail {e : Scalar × Setting} {key : Scalar} (hu : Bindings.KeysDistinct (e :: upper))
    (hkey : (e.1 == key) = true) : upper.find? key = none :=
  Bindings.find?_eq_none fun b hb => Bool.eq_false_iff.2 fun hb' => by
    have hsame := PartialEquivBEq.trans hkey (PartialEquivBEq.symm hb')
    rw [(Bindings.keysDistinct_cons.1 hu).1 b hb] at hsame
    cases hsame

/-- What a key leads to in a merged tree. -/
theorem find?_merge (hu : upper.KeysDistinct) (key : Scalar) :
    (lower.merge upper).find? key =
      ((upper.find? key).map fun v => v.over (lower.find? key)).or (lower.find? key) := by
  induction upper generalizing lower with
  | nil => rfl
  | cons e upper ih =>
    rw [merge_cons, ih (Bindings.keysDistinct_cons.1 hu).2, Bindings.find?_cons, Bindings.find?_put]
    by_cases h : (e.1 == key) = true
    · -- The key does not come again, so that nothing overrides what has just been put.
      rw [if_pos h, if_pos h, find?_tail hu h, Bindings.find?_congr lower h]
      rfl
    · rw [if_neg h, if_neg h]

/-- The tree `lower` with one entry merged in, as it is done with a bound. -/
def mergeEntryWithin (depth : Nat) (lower : Entries) (k : Scalar) (v : Setting) : Option Entries :=
  match lower.find? k, v with
  | some (.mapping l inner), .mapping u outer =>
    (mergeWithin depth (opened l inner) (opened u outer)).map fun es => lower.put k (.ofEntries es)
  | _, _ => some (lower.put k v)

theorem mergeWithin_succ (depth : Nat) (lower upper : Entries) :
    mergeWithin (depth + 1) lower upper =
      upper.foldlM (fun out e => mergeEntryWithin depth out e.1 e.2) lower := rfl

theorem mergeEntryWithin_eq {depth : Nat} {k : Scalar} {v : Setting}
    (h : ∀ l inner u outer, lower.find? k = some (.mapping l inner) → v = .mapping u outer →
      mergeWithin depth (opened l inner) (opened u outer) = some (Entries.merge inner outer)) :
    mergeEntryWithin depth lower k v = some (lower.put k (v.over (lower.find? k))) := by
  unfold mergeEntryWithin
  split
  · next l inner u outer hl =>
    rw [h l inner u outer hl rfl, hl]
    rfl
  · next hne =>
    rw [Setting.over_eq_self hne]

/-- Bounded merging is merging, as long as the mappings that are in both trees can be merged. -/
theorem mergeWithin_eq {depth : Nat} (hu : upper.KeysDistinct)
    (h : ∀ e ∈ upper, ∀ l inner u outer, lower.find? e.1 = some (.mapping l inner) →
      e.2 = .mapping u outer →
      mergeWithin depth (opened l inner) (opened u outer) = some (Entries.merge inner outer)) :
    mergeWithin (depth + 1) lower upper = some (lower.merge upper) := by
  rw [mergeWithin_succ]
  induction upper generalizing lower with
  | nil => rfl
  | cons e upper ih =>
    rw [List.foldlM_cons, mergeEntryWithin_eq (h e List.mem_cons_self), merge_cons]
    refine ih (Bindings.keysDistinct_cons.1 hu).2 fun e' he' => ?_
    -- The entries to come find in the tree what they found before.
    rw [find?_put_of_distinct hu he']
    exact h e' (List.mem_cons_of_mem _ he')

end Entries

end GridGauge
