import GridGauge.Url.Join
import Mathlib.Data.List.Basic

/-!
# The seam between a base and a path

Whatever slashes a base has at its end and a path at its beginning, there is
one slash in their place in the address (`join_seam`). Since every text is
something without slashes at its end and slashes behind it, and likewise at
its beginning, that is all there is to joining, except that an empty path adds
no slash at all.

So a path in the middle can be cut at both ends. What is left of it stands
between two slashes, and if nothing is left there is the one slash that was
there anyway: of three texts it does not count which two are joined first
(`join_laws`).
-/

namespace GridGauge.Url

variable {front back core : Text} {m n : Nat}

/-- So many slashes. -/
def slashes (n : Nat) : Text := Text.repeated n slash

theorem slashes_succ (n : Nat) : slashes (n + 1) = slash :: slashes n := rfl

theorem reverse_slashes (n : Nat) : (slashes n).reverse = slashes n := List.reverse_replicate

theorem slashes_add (m n : Nat) : slashes (m + n) = slashes m ++ slashes n :=
  List.replicate_append_replicate.symm

/-! ## Slashes at the ends -/

/-- Of a text with slashes in front just these are dropped. -/
theorem dropWhile_slashes (h : back.head? ≠ some slash) (m : Nat) :
    (slashes m ++ back).dropWhile (· == slash) = back := by
  induction m with
  | zero =>
    cases back with
    | nil => rfl
    | cons c back =>
      have hc : c ≠ slash := fun hc => h (congrArg some hc)
      exact List.dropWhile_cons_of_neg (by simpa using hc)
  | succ m ih => rwa [slashes_succ, List.cons_append, List.dropWhile_cons_of_pos (by simp)]

/-- Of a text with slashes behind just these are dropped. -/
theorem dropTrailing_slashes (h : front.getLast? ≠ some slash) (n : Nat) :
    (front ++ slashes n).dropTrailing slash = front := by
  rw [← List.head?_reverse] at h
  rw [Text.dropTrailing, List.reverse_append, reverse_slashes, dropWhile_slashes h,
    List.reverse_reverse]

/-- Every text is one without slashes in front, with slashes in front of it. -/
theorem exists_back (t : Text) : ∃ m back, t = slashes m ++ back ∧ back.head? ≠ some slash := by
  induction t with
  | nil => exact ⟨0, [], rfl, nofun⟩
  | cons c t ih =>
    by_cases hc : c = slash
    · obtain ⟨m, back, rfl, hback⟩ := ih
      exact ⟨m + 1, back, by rw [hc, slashes_succ, List.cons_append], hback⟩
    · exact ⟨0, c :: t, rfl, fun h => hc (Option.some.inj h)⟩

/-- Every text is one without slashes behind, with slashes behind it. -/
theorem exists_front (t : Text) :
    ∃ front n, t = front ++ slashes n ∧ front.getLast? ≠ some slash := by
  obtain ⟨n, back, ht, hback⟩ := exists_back t.reverse
  refine ⟨back.reverse, n, ?_, by rwa [List.getLast?_reverse]⟩
  rw [← reverse_slashes, ← List.reverse_append, ← ht, List.reverse_reverse]

/-! ## Joining -/

theorem join_nil (base : Text) : join base [] = base := rfl

/-- However many slashes there are between a base and a path, it becomes one. -/
theorem join_seam (hfront : front.getLast? ≠ some slash) (hback : back.head? ≠ some slash) (n : Nat)
    (hpath : slashes m ++ back ≠ []) :
    join (front ++ slashes n) (slashes m ++ back) = front ++ slash :: back := by
  rw [join, if_neg (by rwa [List.isEmpty_iff]), dropTrailing_slashes hfront,
    dropWhile_slashes hback]

/-- Slashes more at the end of the base or at the beginning of the path do not count. -/
theorem join_slashes (base : Text) {path : Text} (hpath : path ≠ []) (n m : Nat) :
    join (base ++ slashes n) (slashes m ++ path) = join base path := by
  obtain ⟨front, k, rfl, hfront⟩ := exists_front base
  obtain ⟨l, back, rfl, hback⟩ := exists_back path
  have hmore : slashes (m + l) ++ back ≠ [] := by
    rw [slashes_add, List.append_assoc]
    exact List.append_ne_nil_of_right_ne_nil _ hpath
  rw [List.append_assoc, ← slashes_add, ← List.append_assoc, ← slashes_add,
    join_seam hfront hback _ hmore, join_seam hfront hback _ hpath]

/-- What stands between the slashes of a middle part stands between two slashes, whichever two of
    the three texts are joined first. -/
theorem join_core (hfront : front.getLast? ≠ some slash) (hback : back.head? ≠ some slash)
    (hcore : core ≠ []) (hhead : core.head? ≠ some slash) (hlast : core.getLast? ≠ some slash)
    (n j k : Nat) (hpath : slashes m ++ back ≠ []) :
    join (join (front ++ slashes n) (slashes k ++ (core ++ slashes j))) (slashes m ++ back)
        = front ++ slash :: (core ++ slash :: back) ∧
      join (front ++ slashes n) (join (slashes k ++ (core ++ slashes j)) (slashes m ++ back))
        = front ++ slash :: (core ++ slash :: back) := by
  have hleft : (front ++ slash :: core).getLast? ≠ some slash := by
    rwa [List.append_cons, List.getLast?_append_of_ne_nil _ hcore]
  have hright : (slashes k ++ core).getLast? ≠ some slash := by
    rwa [List.getLast?_append_of_ne_nil _ hcore]
  have hhead' (t : Text) : (core ++ t).head? ≠ some slash := by
    rwa [List.head?_append_of_ne_nil _ hcore]
  have hne (t : Text) : slashes k ++ (core ++ t) ≠ [] := fun h =>
    hcore (List.append_eq_nil_iff.1 (List.append_eq_nil_iff.1 h).2).1
  constructor
  · rw [join_seam hfront (hhead' _) n (hne _), ← List.cons_append, ← List.append_assoc,
      join_seam hleft hback j hpath, List.append_assoc, List.cons_append]
  · rw [← List.append_assoc (slashes k), join_seam hright hback j hpath, List.append_assoc,
      join_seam hfront (hhead' _) n (hne _)]

/-- It does not count which two of three texts are joined first. -/
theorem join_assoc (base middle path : Text) :
    join (join base middle) path = join base (join middle path) := by
  by_cases hpath : path = []
  · rw [hpath, join_nil, join_nil]
  obtain ⟨front, n, rfl, hfront⟩ := exists_front base
  obtain ⟨m, back, rfl, hback⟩ := exists_back path
  -- Where the middle is no more than slashes, one of them is left in front of the path.
  have hslashes (k : Nat) : join (front ++ slashes n) (join (slashes k) (slashes m ++ back))
      = front ++ slash :: back := by
    have hnil : ([] : Text).getLast? ≠ some slash := nofun
    have hone : join (slashes k) (slashes m ++ back) = slashes 1 ++ back :=
      join_seam hnil hback k hpath
    rw [hone, join_seam (m := 1) hfront hback n (List.cons_ne_nil slash back)]
  by_cases hmiddle : middle = []
  · rw [hmiddle, join_nil, join_seam hfront hback n hpath]
    exact (hslashes 0).symm
  obtain ⟨k, rest, rfl, hrest⟩ := exists_back middle
  obtain ⟨core, j, rfl, hlast⟩ := exists_front rest
  by_cases hcore : core = []
  · subst hcore
    have hjoined : join (front ++ slashes n) (slashes k ++ ([] ++ slashes j)) = front ++ slashes 1 := by
      cases j with
      | zero =>
        have hnil : ([] : Text).head? ≠ some slash := nofun
        exact join_seam hfront hnil n hmiddle
      | succ j => exact absurd rfl hrest
    rw [hjoined, join_seam hfront hback 1 hpath, List.nil_append, ← slashes_add, hslashes]
  · have hhead : core.head? ≠ some slash := by
      rwa [List.head?_append_of_ne_nil _ hcore] at hrest
    obtain ⟨hleft, hright⟩ := join_core hfront hback hcore hhead hlast n j k hpath
    rw [hleft, hright]

/-- Joining is associative, whatever is empty or nothing but slashes. With a path that is not empty
    the address is the base without the slashes at its end, one slash, and the path without the
    slashes at its beginning; slashes more in these places do not count. -/
theorem join_laws :
    (∀ base middle path, join (join base middle) path = join base (join middle path)) ∧
      ∀ base path : Text, path ≠ [] →
        (∀ n m, join (base ++ slashes n) (slashes m ++ path) = join base path) ∧
        ∃ front n m back, base = front ++ slashes n ∧ front.getLast? ≠ some slash ∧
          path = slashes m ++ back ∧ back.head? ≠ some slash ∧
          join base path = front ++ slash :: back := by
  refine ⟨join_assoc, fun base path hpath => ⟨join_slashes base hpath, ?_⟩⟩
  obtain ⟨front, n, rfl, hfront⟩ := exists_front base
  obtain ⟨m, back, rfl, hback⟩ := exists_back path
  exact ⟨front, n, m, back, rfl, hfront, rfl, hback, join_seam hfront hback n hpath⟩

/-- A hub below a path of its own, and a path in the middle that is nothing but slashes. -/
theorem prefixed_hub_joined :
    let base : Text := "http://hub/grid/"
    let path : Text := "/status"
    path ≠ [] ∧ join (join base "//") path = join base (join "//" path) ∧
      join (base ++ slashes 2) (slashes 1 ++ path) = join base path ∧
      join base path = "http://hub/grid/status" := by
  intro base path
  have hpath : path ≠ [] := nofun
  exact ⟨hpath, join_laws.1 base "//" path, (join_laws.2 base path hpath).1 2 1, by decide⟩

end GridGauge.Url
