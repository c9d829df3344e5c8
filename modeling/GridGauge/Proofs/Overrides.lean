import GridGauge.Proofs.Sharing

/-!
# Laws of overriding

A setting that is put at the end of a path is read there again unless it is a
mapping, since what is over it or in its way gives way to it (`at?_merge_set`).
It is read nowhere else than below or above its path, unless something on the
way there that is no mapping has to make place (`at?_merge_set_of_apart`); and
the order in which two settings are put in does not count when neither path
leads through the other (`set_comm`).

The three hold of trees without an end as well, since these are merged over
the defaults no deeper than there are mappings in the defaults
(`override_laws`).
-/

namespace GridGauge

namespace Entries

variable {es lower upper : Entries} {name other next : Text} {path : List Text} {v w : Setting}
  {n : Nat}

/-! ## What is in the way -/

/-- A setting can be put at the end of the path: no key comes twice, and what the path leads through
    is in one place and not in the setting. -/
structure Takes (es : Entries) (v : Setting) (path : List Text) : Prop where
  keys : es.HasDistinctKeys
  places : ∀ n, es.Passes n path → es.places n ≤ 1
  apart : ∀ n, es.Passes n path → v.places n = 0

theorem Takes.below (h : es.Takes v (name :: path)) : (es.below name).Takes v path :=
  ⟨h.keys.below name, places_below_of_passes h.places, fun n hn => h.apart n (.inside hn)⟩

theorem any_of_mem {mark : Option Mark} {m : Mark} (h : m ∈ mark) :
    mark.any (·.number = m.number) = true := by
  rw [Option.mem_def.1 h]
  exact decide_eq_true rfl

theorem Takes.opened (h : es.Takes v (name :: next :: path)) :
    Entries.opened (es.markAt name) (es.below name) = es.below name :=
  opened_eq_self fun _ hm => places_below_eq_zero h.places hm

theorem keysDistinct_set (h : es.KeysDistinct) (v : Setting) (path : List Text) :
    (es.set v path).KeysDistinct := by
  match path with
  | [] => exact h
  | [name] => exact h.put _ _
  | name :: next :: path =>
    rw [set_cons]
    exact h.put _ _

theorem HasDistinctKeys.put (h : es.HasDistinctKeys) (key : Scalar) (hv : v.HasDistinctKeys) :
    HasDistinctKeys (Bindings.put es key v) := by
  refine ⟨h.keys.put key v, fun e he => ?_⟩
  rw [Bindings.put] at he
  split at he
  · obtain ⟨e', he', rfl⟩ := List.mem_map.1 he
    split
    · exact hv
    · exact h.inside e' he'
  · rcases List.mem_append.1 he with he | he
    · exact h.inside e he
    · rw [List.mem_singleton.1 he]
      exact hv

theorem HasDistinctKeys.set (h : es.HasDistinctKeys) (hv : v.HasDistinctKeys) (path : List Text) :
    (es.set v path).HasDistinctKeys := by
  induction path generalizing es with
  | nil => exact h
  | cons name path ih =>
    cases path with
    | nil => exact h.put _ hv
    | cons next path =>
      rw [set_cons]
      have hbelow := ih (h.below name)
      exact h.put _ (.mapping hbelow.keys hbelow.inside)

/-- Instead of the old value there is the new one. -/
theorem places_put (h : es.KeysDistinct) (n : Nat) (key : Scalar) (w : Setting) :
    places n (Bindings.put es key w) + ((es.find? key).elim 0 (Setting.places n))
      = es.places n + w.places n := by
  cases hold : es.find? key with
  | none =>
    have hbound : ¬Bindings.has es key = true := by
      rw [Bindings.has_eq_isSome_find?, hold]
      exact Bool.false_ne_true
    rw [Bindings.put, if_neg hbound, places_append, places, places]
    rfl
  | some old =>
    obtain ⟨front, key', back, rfl, hkey⟩ := Bindings.exists_of_find? hold
    rw [Bindings.put_of_append h hkey, places_append, places_append, places, places, Option.elim]
    omega

theorem places_mapping_le (n : Nat) (es : Entries) (name : Text) :
    (Setting.mapping (es.markAt name) (es.below name)).places n
      ≤ (es.named? name).elim 0 (Setting.places n) := by
  unfold markAt below
  cases es.named? name with
  | none => exact Nat.le_refl 0
  | some w =>
    cases w with
    | mapping mark inner => exact Nat.le_refl _
    | _ => exact Nat.zero_le _

/-- There is nothing more than what was there and what has been put in. -/
theorem places_set_le (h : es.HasDistinctKeys) (n : Nat) (v : Setting) (path : List Text) :
    (es.set v path).places n ≤ es.places n + v.places n := by
  induction path generalizing es with
  | nil => exact Nat.le_add_right _ _
  | cons name path ih =>
    cases path with
    | nil =>
      have hput := places_put h.keys n (.text name) v
      rw [set]
      omega
    | cons next path =>
      have hbelow := ih (h.below name)
      have hput := places_put h.keys n (.text name)
        (.mapping (es.markAt name) ((es.below name).set v (next :: path)))
      have hold := places_mapping_le n es name
      rw [named?] at hold
      rw [Setting.places] at hput hold
      rw [set_cons]
      omega

theorem Takes.opened_set (h : es.Takes v (name :: next :: path)) :
    Entries.opened (es.markAt name) ((es.below name).set v (next :: path))
      = (es.below name).set v (next :: path) := by
  refine opened_eq_self fun m hm => ?_
  have hle := places_set_le (h.keys.below name) m.number v (next :: path)
  have hbelow := places_below_eq_zero h.places hm
  have hv := h.apart m.number (.here (any_of_mem hm))
  omega

/-! ## Trees over one another -/

/-- What a path leads to is told by what its first name stands for. -/
theorem at?_congr {es fs : Entries} (h : es.named? name = fs.named? name) (path : List Text) :
    es.at? (name :: path) = fs.at? (name :: path) := by
  cases path with
  | nil => exact h
  | cons next path =>
    rw [at?_cons, at?_cons, markAt, markAt, Entries.below, Entries.below, h]

/-- No mapping that names lead to has a mark. -/
inductive IsBare : Entries → Prop
  | intro {es : Entries} :
      (∀ name mark inner, es.named? name = some (.mapping mark inner) → mark = none) →
      (∀ name mark inner, es.named? name = some (.mapping mark inner) → IsBare inner) → IsBare es

theorem IsBare.markAt (h : es.IsBare) (name : Text) : es.markAt name = none := by
  obtain ⟨hmark, -⟩ := h
  unfold Entries.markAt
  split
  · next hs => exact hmark _ _ _ hs
  · rfl

theorem isBare_nil : IsBare [] := .intro nofun nofun

theorem isBare_below (h : es.IsBare) (name : Text) : (es.below name).IsBare := by
  obtain ⟨-, hinner⟩ := h
  unfold Entries.below
  split
  · next hs => exact hinner _ _ _ hs
  · exact isBare_nil

theorem IsShallow.isBare (h : es.IsShallow) : es.IsBare := by
  refine .intro (fun name mark inner hs => ?_) fun name mark inner hs => ?_
  · obtain ⟨k, inner', -, heq, -⟩ := h _ _ hs
    cases heq
    rfl
  · obtain ⟨k, inner', -, heq, hleaf⟩ := h _ _ hs
    cases heq
    exact .intro (fun _ mark below hs => absurd rfl (hleaf _ _ mark below hs))
      fun _ mark below hs => absurd rfl (hleaf _ _ mark below hs)

/-- A tree that is laid over nothing stays what it is. -/
theorem merge_nil_left (h : es.KeysDistinct) : Entries.merge [] es = es := by
  have happend : ∀ front : Entries, Bindings.KeysDistinct (front ++ es) →
      Entries.merge front es = front ++ es := by
    induction es with
    | nil => exact fun front _ => (List.append_nil front).symm
    | cons e es ih =>
      intro front hfront
      have hnone : Bindings.find? front e.1 = none := Bindings.find?_eq_none fun b hb => by
        rw [Bindings.KeysDistinct, List.map_append, List.pairwise_append] at hfront
        exact hfront.2.2 b.1 (List.mem_map_of_mem hb) e.1 List.mem_cons_self
      have hput : Bindings.put front e.1 e.2 = front ++ [e] := by
        rw [Bindings.put, Bindings.has_eq_isSome_find?, hnone]
        rfl
      rw [merge_cons, hnone, Setting.over_none, hput,
        ih (Bindings.keysDistinct_cons.1 h).2 _ (by rwa [List.append_assoc]), List.append_assoc]
      rfl
  exact happend [] h

/-- Below a name a merged tree is merged from what the two trees have there, unless the upper one
    has something there that is no mapping. -/
theorem below_merge (hl : lower.IsBare) (hu : upper.KeysDistinct)
    (hbelow : (upper.below name).KeysDistinct)
    (hopened : opened (upper.markAt name) (upper.below name) = upper.below name)
    (hw : ∀ w, upper.named? name = some w → ∃ mark inner, w = .mapping mark inner) :
    opened ((lower.merge upper).markAt name) ((lower.merge upper).below name)
      = (lower.below name).merge (upper.below name) := by
  have hmark := hl.markAt name
  unfold Entries.markAt Entries.below at *
  rw [named?_merge hu]
  cases hupper : upper.named? name with
  | none =>
    cases hlower : lower.named? name with
    | none => rfl
    | some l =>
      cases l with
      | mapping mark inner =>
        rw [hlower] at hmark
        cases hmark
        rfl
      | _ => rfl
  | some w =>
    obtain ⟨mark, inner, rfl⟩ := hw w hupper
    rw [hupper] at hopened hbelow
    cases hlower : lower.named? name with
    | none => exact hopened.trans (merge_nil_left hbelow).symm
    | some l =>
      cases l with
      | mapping mark' inner' => rfl
      | _ => exact hopened.trans (merge_nil_left hbelow).symm

/-! ## One setting put in -/

theorem named?_set_of_ne (h : name ≠ other) (v : Setting) (path : List Text) :
    (es.set v (name :: path)).named? other = es.named? other := by
  cases path with
  | nil => rw [set, named?_put, if_neg h]
  | cons next path => rw [set_cons, named?_put, if_neg h]

theorem named?_set_cons (es : Entries) (v : Setting) (name next : Text) (path : List Text) :
    (es.set v (name :: next :: path)).named? name
      = some (.mapping (es.markAt name) ((es.below name).set v (next :: path))) := by
  rw [set_cons, named?_put, if_pos rfl]

theorem markAt_set (es : Entries) (v : Setting) (name next : Text) (path : List Text) :
    (es.set v (name :: next :: path)).markAt name = es.markAt name := by
  rw [markAt, named?_set_cons]

theorem below_set (es : Entries) (v : Setting) (name next : Text) (path : List Text) :
    (es.set v (name :: next :: path)).below name = (es.below name).set v (next :: path) := by
  rw [below, named?_set_cons]

/-- Whatever is below, the path leads into what has been put in on its way. -/
theorem Takes.below_merge_set (h : es.Takes v (name :: next :: path)) (hl : lower.IsBare) :
    Entries.opened ((lower.merge (es.set v (name :: next :: path))).markAt name)
        ((lower.merge (es.set v (name :: next :: path))).below name)
      = (lower.below name).merge ((es.below name).set v (next :: path)) := by
  have hkeys := keysDistinct_set (h.keys.below name).keys v (next :: path)
  rw [below_merge hl (keysDistinct_set h.keys.keys v _), below_set]
  · rwa [below_set]
  · rw [markAt_set, below_set, h.opened_set]
  · intro w hw
    rw [named?_set_cons, Option.some.injEq] at hw
    exact ⟨_, _, hw.symm⟩

/-- What is put in is there, whatever was in its way and whatever it is laid over. -/
theorem at?_merge_set (h : es.Takes v path) (hpath : path ≠ []) (hl : lower.IsBare)
    (hv : v.isMapping = false) : (lower.merge (es.set v path)).at? path = some v := by
  induction path generalizing es lower with
  | nil => exact absurd rfl hpath
  | cons name path ih =>
    cases path with
    | nil =>
      have hover : v.over (lower.named? name) = v :=
        Setting.over_eq_self fun _ _ _ _ _ hmapping => by rw [hmapping] at hv; cases hv
      rw [at?, set, named?_merge (h.keys.keys.put _ _), named?_put, if_pos rfl, Option.map_some, hover]
      rfl
    | cons next path =>
      rw [at?_cons, h.below_merge_set hl]
      exact ih h.below (List.cons_ne_nil next path) (isBare_below hl name)

/-- Neither path begins with the other. -/
def Apart (p q : List Text) : Prop := ¬p <+: q ∧ ¬q <+: p

instance (p q : List Text) : Decidable (Apart p q) := inferInstanceAs (Decidable (_ ∧ _))

theorem Apart.tail {p q : List Text} (h : Apart (name :: p) (name :: q)) : Apart p q :=
  ⟨fun hp => h.1 (List.cons_prefix_cons.2 ⟨rfl, hp⟩), fun hq => h.2 (List.cons_prefix_cons.2 ⟨rfl, hq⟩)⟩

theorem Apart.symm {p q : List Text} (h : Apart p q) : Apart q p := ⟨h.2, h.1⟩

theorem not_apart_nil_left {q : List Text} : ¬Apart [] q := fun h => h.1 List.nil_prefix

theorem not_apart_nil_right {p : List Text} : ¬Apart p [] := fun h => h.2 List.nil_prefix

/-- Nothing that would have to make place is on the way along the path. -/
def IsClear (es : Entries) (path : List Text) : Prop :=
  ∀ front, front <+: path → front ≠ path → ∀ w, es.at? front = some w →
    ∃ mark inner, w = .mapping mark inner

theorem IsClear.named? (h : es.IsClear (name :: next :: path)) :
    ∀ w, es.named? name = some w → ∃ mark inner, w = .mapping mark inner :=
  h [name] (List.cons_prefix_cons.2 ⟨rfl, List.nil_prefix⟩) nofun

theorem IsClear.below (h : es.IsClear (name :: next :: path))
    (hopened : opened (es.markAt name) (es.below name) = es.below name) :
    (es.below name).IsClear (next :: path) := by
  intro front hfront hne w hw
  cases front with
  | nil =>
    cases hw
    exact ⟨none, _, rfl⟩
  | cons c front =>
    refine h (name :: c :: front) (List.cons_prefix_cons.2 ⟨rfl, hfront⟩) (fun heq => ?_) w ?_
    · exact hne (List.cons.inj heq).2
    · rwa [at?_cons, hopened]

/-- What is put in is not seen along a path apart, unless something had to make place. -/
theorem at?_merge_set_of_apart {q : List Text} (h : es.Takes v path) (hclear : es.IsClear path)
    (hl : lower.IsBare) (hapart : Apart path q) :
    (lower.merge (es.set v path)).at? q = (lower.merge es).at? q := by
  induction path generalizing es lower q with
  | nil => exact absurd hapart not_apart_nil_left
  | cons name path ih =>
    cases q with
    | nil => exact absurd hapart not_apart_nil_right
    | cons other q =>
      by_cases hne : name = other
      · subst hne
        cases path with
        | nil => exact absurd hapart.tail not_apart_nil_left
        | cons next path =>
          cases q with
          | nil => exact absurd hapart.tail not_apart_nil_right
          | cons next' q =>
            rw [at?_cons, at?_cons, h.below_merge_set hl, below_merge hl h.keys.keys
              (h.keys.below name).keys h.opened hclear.named?]
            exact ih h.below (hclear.below h.opened) (isBare_below hl name) hapart.tail
      · refine at?_congr ?_ q
        rw [named?_merge (keysDistinct_set h.keys.keys v _), named?_merge h.keys.keys,
          named?_set_of_ne hne]

end Entries

/-! ## Two settings put in -/

/-- The settings are the same, except that the entries of mappings may be in another order. -/
inductive Setting.Same : Setting → Setting → Prop
  | refl (v : Setting) : Same v v
  | mapping {mark : Option Mark} {es fs : Entries} :
      (∀ key, (es.find? key).isSome = (fs.find? key).isSome) →
      (∀ key v w, es.find? key = some v → fs.find? key = some w → Same v w) →
      Same (.mapping mark es) (.mapping mark fs)

theorem Setting.Same.of_find? {mark : Option Mark} {es fs : Entries}
    (h : ∀ key, es.find? key = fs.find? key) : Same (.mapping mark es) (.mapping mark fs) := by
  refine .mapping (fun key => by rw [h key]) fun key v w hv hw => ?_
  rw [h key, hw] at hv
  cases hv
  exact .refl _

/-- Mappings are the same if they are so at one key and have the same values at all others. -/
theorem Setting.Same.put {mark : Option Mark} {es fs : Entries} {key : Scalar} {v w : Setting}
    (h : Same v w) (hother : ∀ other, (key == other) = false → es.find? other = fs.find? other) :
    Same (.mapping mark (Bindings.put es key v)) (.mapping mark (Bindings.put fs key w)) := by
  have hput : ∀ other, (key == other) = true →
      Bindings.find? (Bindings.put es key v) other = some v ∧
        Bindings.find? (Bindings.put fs key w) other = some w := fun other heq => by
    rw [Bindings.find?_put, Bindings.find?_put, if_pos heq, if_pos heq]
    exact ⟨rfl, rfl⟩
  have hrest : ∀ other, (key == other) = false →
      Bindings.find? (Bindings.put es key v) other = Bindings.find? (Bindings.put fs key w) other :=
    fun other heq => by
      simp only [Bindings.find?_put, heq, hother other heq, Bool.false_eq_true, if_false]
  refine .mapping (fun other => ?_) fun other v' w' hv hw => ?_
  · cases heq : key == other with
    | true => rw [(hput other heq).1, (hput other heq).2]; rfl
    | false => rw [hrest other heq]
  · cases heq : key == other with
    | true =>
      rw [(hput other heq).1, Option.some.injEq] at hv
      rw [(hput other heq).2, Option.some.injEq] at hw
      exact hv ▸ hw ▸ h
    | false =>
      rw [hrest other heq, hw, Option.some.injEq] at hv
      exact hv ▸ .refl _

namespace Entries

variable {es : Entries} {name other : Text} {p q : List Text}

/-- What is bound to the first name of a path is told by what was bound to it. -/
theorem exists_set_eq_put (es : Entries) (v : Setting) (name : Text) (path : List Text) :
    ∃ value, ∀ fs : Entries, fs.named? name = es.named? name →
      fs.set v (name :: path) = fs.put (.text name) value := by
  cases path with
  | nil => exact ⟨v, fun fs _ => rfl⟩
  | cons next path =>
    refine ⟨.mapping (es.markAt name) ((es.below name).set v (next :: path)), fun fs h => ?_⟩
    rw [set_cons, markAt, markAt, below, below, h]

/-- Along different names settings are put in independently. -/
theorem set_comm_of_ne (hne : name ≠ other) (es : Entries) (v w : Setting) (mark : Option Mark) :
    Setting.Same (.mapping mark ((es.set v (name :: p)).set w (other :: q)))
      (.mapping mark ((es.set w (other :: q)).set v (name :: p))) := by
  obtain ⟨x, hx⟩ := es.exists_set_eq_put v name p
  obtain ⟨y, hy⟩ := es.exists_set_eq_put w other q
  rw [hx _ (named?_set_of_ne hne.symm w q), hy _ (named?_set_of_ne hne v p), hx es rfl, hy es rfl]
  refine .of_find? fun key => ?_
  simp only [Bindings.find?_put]
  by_cases hname : (Scalar.text name == key) = true
  · have hother : ¬(Scalar.text other == key) = true := fun hother => by
      have hsame := PartialEquivBEq.trans hname (PartialEquivBEq.symm hother)
      rw [beq_text, decide_eq_true_iff] at hsame
      exact hne hsame
    rw [if_neg hother, if_pos hname, if_pos hname]
  · rw [if_neg hname, if_neg hname]

/-- Settings put in at the ends of paths apart may be put in in either order. -/
theorem set_comm (h : Apart p q) (es : Entries) (v w : Setting) (mark : Option Mark) :
    Setting.Same (.mapping mark ((es.set v p).set w q)) (.mapping mark ((es.set w q).set v p)) := by
  induction p generalizing es mark q with
  | nil => exact absurd h not_apart_nil_left
  | cons name p ih =>
    cases q with
    | nil => exact absurd h not_apart_nil_right
    | cons other q =>
      by_cases hne : name = other
      · subst hne
        cases p with
        | nil => exact absurd h.tail not_apart_nil_left
        | cons next p =>
          cases q with
          | nil => exact absurd h.tail not_apart_nil_right
          | cons next' q =>
            have hinner := ih h.tail (es.below name) (es.markAt name)
            rw [set_cons (es.set v _) w, set_cons (es.set w _) v, markAt_set, markAt_set, below_set,
              below_set]
            refine hinner.put fun key hkey => ?_
            simp only [set_cons, Bindings.find?_put, hkey, Bool.false_eq_true, if_false]
      · exact set_comm_of_ne hne es v w mark

end Entries

/-! ## The laws -/

/-- The setting has been made apart from a tree: it has none of the mappings that paths lead through
    there, and no key twice. -/
structure Setting.IsNewTo (v : Setting) (es : Entries) : Prop where
  keys : v.HasDistinctKeys
  apart : ∀ n path, es.Passes n path → v.places n = 0

namespace Entries

variable {es : Entries} {v w : Setting} {p q : List Text}

theorem IsUnshared.takes (h : es.IsUnshared) (hd : es.HasDistinctKeys) (hv : v.IsNewTo es)
    (p : List Text) : es.Takes v p :=
  ⟨hd, fun n hn => h n p hn, fun n hn => hv.apart n p hn⟩

/-- What has been put in is not on a path apart. -/
theorem passes_of_set {n : Nat} (h : Apart p q) (hn : (es.set v p).Passes n q) : es.Passes n q := by
  induction p generalizing es q with
  | nil => exact absurd h not_apart_nil_left
  | cons name p ih =>
    cases q with
    | nil => exact absurd h not_apart_nil_right
    | cons other q =>
      by_cases hne : name = other
      · subst hne
        cases p with
        | nil => exact absurd h.tail not_apart_nil_left
        | cons next p =>
          cases hn with
          | here hmark => exact .here (by rwa [markAt_set] at hmark)
          | inside hinside =>
            rw [below_set] at hinside
            exact .inside (ih h.tail hinside)
      · have hsame : (es.set v (name :: p)).named? other = es.named? other :=
          named?_set_of_ne hne v p
        cases hn with
        | here hmark => exact .here (by rwa [markAt, hsame] at hmark)
        | inside hinside => exact .inside (by rwa [below, hsame] at hinside)

/-- The second of two settings can be put in as well. -/
theorem Takes.set (h : es.Takes v p) (hw : es.Takes w q) (hv : v.HasDistinctKeys)
    (hnew : ∀ n, es.Passes n q → v.places n = 0) (hapart : Apart p q) : (es.set v p).Takes w q := by
  refine ⟨h.keys.set hv p, fun n hn => ?_, fun n hn => hw.apart n (passes_of_set hapart hn)⟩
  have hle := places_set_le h.keys n v p
  have hpasses := passes_of_set hapart hn
  have hone := hw.places n hpasses
  have hzero := hnew n hpasses
  omega

/-- In trees whose mappings are in one place the order does not count. -/
theorem setShared_comm (h : es.IsUnshared) (hd : es.HasDistinctKeys) (hv : v.IsNewTo es)
    (hw : w.IsNewTo es) (hapart : Apart p q) :
    Setting.Same (.ofEntries ((es.setShared v p).setShared w q))
      (.ofEntries ((es.setShared w q).setShared v p)) := by
  have hp := h.takes hd hv p
  have hq := h.takes hd hw q
  have hpq := hp.set hq hv.keys (fun n hn => hv.apart n q hn) hapart
  have hqp := hq.set hp hw.keys (fun n hn => hw.apart n p hn) hapart.symm
  rw [setShared_eq_set hd hp.places, setShared_eq_set hd hq.places, setShared_eq_set hpq.keys hpq.places,
    setShared_eq_set hqp.keys hqp.places]
  exact set_comm hapart es v w none

end Entries

namespace Settings

open Entries

variable {s s' : Settings} {name : Text} {path : List Text} {v w : Setting}

/-- What a name stands for is merged from what it stands for in the defaults and in the overrides. -/
theorem named?_tree (h : s.overrides.IsTidy) (name : Text) :
    s.tree.named? name = ((s.overrides.named? name).map fun w =>
      (if s.loops then w.openedOver (defaultEntries.named? name) else w).over
        (defaultEntries.named? name)).or (defaultEntries.named? name) := by
  rw [tree, mergeEndless_eq_openedOver isShallow_defaultEntries h]
  cases s.loops with
  | false => exact named?_merge h.keys name
  | true =>
    rw [if_pos rfl, Option.getD_some, named?_merge (h.openedOver _).keys, named?_openedOver,
      Option.map_map]
    rfl

/-- Where nothing has to be opened, trees are merged in the one way as in the other. -/
theorem named?_tree_of_opened (h : s.overrides.IsTidy)
    (hopened : opened (s.overrides.markAt name) (s.overrides.below name) = s.overrides.below name) :
    s.tree.named? name = (defaultEntries.merge s.overrides).named? name := by
  rw [named?_tree h, named?_merge h.keys]
  unfold markAt below at hopened
  cases hw : s.overrides.named? name with
  | none => rfl
  | some w =>
    have hself : w.openedOver (defaultEntries.named? name) = w := by
      rw [hw] at hopened
      unfold Setting.openedOver
      split
      · exact congrArg _ hopened
      · rfl
    rw [Option.map_some, Option.map_some, hself, ite_self]

/-- The path of a text has a name. -/
theorem exists_namesOfPath (t : Text) : ∃ name path, namesOfPath t = name :: path :=
  List.exists_cons_of_ne_nil (Text.splitAtEach_ne_nil _ _)

theorem overrides_set (ht : s.overrides.Takes v path) :
    (s.set path v).overrides = s.overrides.set v path :=
  setShared_eq_set ht.keys ht.places v

/-- What has been put in on the way to a setting is merged over the defaults. -/
theorem named?_tree_set (ht : s.overrides.Takes v (name :: path)) (hk : v.HasDistinctKeys)
    (hv : path ≠ [] ∨ v.isMapping = false) :
    (s.set (name :: path) v).tree.named? name
      = (defaultEntries.merge (s.overrides.set v (name :: path))).named? name := by
  have hoverrides := overrides_set ht
  rw [named?_tree_of_opened, hoverrides]
  · rw [hoverrides]
    exact (ht.keys.set hk _).isTidy
  · rw [hoverrides]
    cases path with
    | nil =>
      have hplain : v.isMapping = false := hv.resolve_left fun h => h rfl
      have hnamed : (s.overrides.set v [name]).named? name = some v := by
        rw [Entries.set, named?_put, if_pos rfl]
      unfold markAt below
      rw [hnamed]
      cases v with
      | mapping => cases hplain
      | _ => rfl
    | cons next path =>
      rw [markAt_set, below_set]
      exact ht.opened_set

/-- A setting that is put in is read again unless it is a mapping. -/
theorem get_set {p : Text} (ht : s.overrides.Takes v (namesOfPath p)) (hk : v.HasDistinctKeys)
    (hv : v.isMapping = false) (otherwise : Setting) :
    (s.set (namesOfPath p) v).get p otherwise = v := by
  rw [get, at?]
  obtain ⟨name, path, hp⟩ := exists_namesOfPath p
  rw [hp] at ht ⊢
  rw [at?_congr (named?_tree_set ht hk (.inr hv)),
    at?_merge_set ht (List.cons_ne_nil name path) isShallow_defaultEntries.isBare hv]
  rfl

/-- A setting that is put in is not read along a path apart, unless something had to make place. -/
theorem get_set_of_apart {p q : Text} (ht : s.overrides.Takes v (namesOfPath p))
    (hk : v.HasDistinctKeys) (hclear : s.overrides.IsClear (namesOfPath p))
    (hapart : Apart (namesOfPath p) (namesOfPath q)) (otherwise : Setting) :
    (s.set (namesOfPath p) v).get q otherwise = s.get q otherwise := by
  rw [get, get, at?, at?]
  obtain ⟨name, path, hp⟩ := exists_namesOfPath p
  obtain ⟨other, path', hq⟩ := exists_namesOfPath q
  rw [hp] at ht hclear hapart ⊢
  rw [hq] at hapart ⊢
  congr 1
  by_cases hne : name = other
  · subst hne
    cases path with
    | nil => exact absurd hapart.tail not_apart_nil_left
    | cons next path =>
      rw [at?_congr (named?_tree_set ht hk (.inl (List.cons_ne_nil next path))),
        at?_congr (named?_tree_of_opened ht.keys.isTidy ht.opened),
        at?_merge_set_of_apart ht hclear isShallow_defaultEntries.isBare hapart]
  · refine at?_congr ?_ path'
    have htidy := (ht.keys.set hk (name :: path)).isTidy
    rw [← overrides_set ht] at htidy
    rw [named?_tree htidy, named?_tree ht.keys.isTidy, overrides_set ht, named?_set_of_ne hne]
    rfl

/-- Where no mapping is in two places, a setting that is put in is read again unless it is a
    mapping; unless something had to make place on its way, everything apart from its path is read
    as before; and of two settings with paths apart it does not count which is put in first. -/
theorem override_laws (hd : s.overrides.HasDistinctKeys) (hu : s.overrides.IsUnshared) :
    (∀ (p : Text) (v otherwise : Setting), v.IsNewTo s.overrides → v.isMapping = false →
      (s.set (namesOfPath p) v).get p otherwise = v) ∧
    (∀ (p q : Text) (v otherwise : Setting), v.IsNewTo s.overrides →
      s.overrides.IsClear (namesOfPath p) → Apart (namesOfPath p) (namesOfPath q) →
      (s.set (namesOfPath p) v).get q otherwise = s.get q otherwise) ∧
    ∀ (p q : Text) (v w : Setting), v.IsNewTo s.overrides → w.IsNewTo s.overrides →
      Apart (namesOfPath p) (namesOfPath q) →
      Setting.Same (.ofEntries ((s.set (namesOfPath p) v).set (namesOfPath q) w).overrides)
        (.ofEntries ((s.set (namesOfPath q) w).set (namesOfPath p) v).overrides) :=
  ⟨fun _ _ otherwise hv hmapping => get_set (hu.takes hd hv _) hv.keys hmapping otherwise,
    fun _ _ _ otherwise hv hclear hapart =>
      get_set_of_apart (hu.takes hd hv _) hv.keys hclear hapart otherwise,
    fun _ _ _ _ hv hw hapart => setShared_comm hu hd hv hw hapart⟩

/-- A port is put in below a section of which a second place is gone, and the level in the place of a
    section that has been left empty. -/
theorem port_overridden :
    let hub : Setting := .mapping (some ⟨3, false⟩) [(.text "retries", .scalar (.int 2))]
    let s : Settings := ⟨[(.text "hub", hub), (.text "logging", .scalar .null)], 4, false⟩
    let port := Setting.scalar (.int 8080)
    let level := Setting.ofText "DEBUG"
    let changed := s.set (namesOfPath "hub.proxy.port") port
    s.overrides.HasDistinctKeys ∧ s.overrides.IsUnshared ∧
      changed.get "hub.proxy.port" (.scalar .null) = port ∧
      changed.get "hub.url" (.scalar .null) = s.get "hub.url" (.scalar .null) ∧
      Setting.Same (.ofEntries (changed.set (namesOfPath "logging.level") level).overrides)
        (.ofEntries ((s.set (namesOfPath "logging.level") level).set
          (namesOfPath "hub.proxy.port") port).overrides) := by
  intro hub s port level changed
  have hd : s.overrides.HasDistinctKeys := by
    refine ⟨by decide, fun e he => ?_⟩
    simp only [s, List.mem_cons, List.not_mem_nil, or_false] at he
    rcases he with rfl | rfl
    · exact .mapping (by decide) (by simpa using .scalar)
    · exact .scalar
  have hu : s.overrides.IsUnshared := fun n path _ => by
    show Entries.places n [(.text "hub", hub), (.text "logging", .scalar .null)] ≤ 1
    simp only [Entries.places, hub, Setting.places]
    split <;> decide
  have hnew (c : Scalar) : (Setting.scalar c).IsNewTo s.overrides := ⟨.scalar, fun _ _ _ => rfl⟩
  have hclear : s.overrides.IsClear ["hub", "proxy", "port"] := by
    intro front hfront hne w hw
    simp only [List.prefix_cons_iff, List.prefix_nil] at hfront
    obtain rfl | ⟨_, rfl, rfl | ⟨_, rfl, rfl | ⟨_, rfl, rfl⟩⟩⟩ := hfront
    · exact ⟨none, s.overrides, (Option.some.inj hw).symm⟩
    · exact ⟨_, _, (Option.some.inj hw).symm⟩
    · cases hw
    · exact absurd rfl hne
  obtain ⟨hread, hkept, hcomm⟩ := override_laws hd hu
  exact ⟨hd, hu, hread "hub.proxy.port" port _ (hnew _) rfl,
    hkept "hub.proxy.port" "hub.url" port _ (hnew _) hclear (by decide),
    hcomm "hub.proxy.port" "logging.level" port level (hnew _) (hnew _) (by decide)⟩

end Settings

end GridGauge
