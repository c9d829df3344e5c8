import GridGauge.Proofs.Overrides

/-!
# Trees laid over one another

What it is to lay a tree over another one can be said place by place, without
an order in which the entries are taken (`Setting.Laid`): a key leads to what
the upper tree has, or else to what the lower one has, but where both have a
mapping, to one of which the same can be said. That is what merging comes to,
with or without a bound (`Entries.laid_merge`, `Entries.laid_mergeWithin`),
and no key comes twice in what it comes to.

The bound is reached only where the same keys lead from mapping to mapping in
both trees that often (`Entries.Entwined`).
-/

namespace GridGauge

/-- The entries of a mapping as they are merged: in trees that may have no end a mapping is opened
    before. -/
def Entries.entered (isEndless : Bool) (mark : Option Mark) (es : Entries) : Entries :=
  if isEndless then Entries.opened mark es else es

theorem Entries.entered_false (mark : Option Mark) (es : Entries) : entered false mark es = es :=
  rfl

/-- What is in a place where one tree has been laid over another. -/
inductive Setting.Laid (isEndless : Bool) : (lower upper laid : Option Setting) → Prop
  /-- Where the upper tree has nothing, there is what the lower one has. -/
  | lower (v : Option Setting) : Laid isEndless v none v
  /-- What the upper tree has counts, unless both have a mapping. -/
  | upper {w : Option Setting} {v : Setting}
      (h : ∀ l inner u outer, w = some (.mapping l inner) → v ≠ .mapping u outer) :
      Laid isEndless w (some v) (some v)
  /-- Of two mappings the one is laid over the other. -/
  | both {l u : Option Mark} {inner outer es : Entries}
      (h : ∀ key, Laid isEndless ((Entries.entered isEndless l inner).find? key)
        ((Entries.entered isEndless u outer).find? key) (es.find? key)) :
      Laid isEndless (some (.mapping l inner)) (some (.mapping u outer)) (some (.ofEntries es))

namespace Entries

variable {lower upper out : Entries} {key : Scalar} {v : Setting} {depth : Nat}

/-- One tree is the other two laid over one another. -/
def Laid (isEndless : Bool) (lower upper laid : Entries) : Prop :=
  ∀ key, Setting.Laid isEndless (lower.find? key) (upper.find? key) (laid.find? key)

/-! ## Merging -/

theorem HasDistinctKeys.tail {e : Scalar × Setting} (h : HasDistinctKeys (e :: upper)) :
    upper.HasDistinctKeys :=
  ⟨(Bindings.keysDistinct_cons.1 h.keys).2, fun e' he' => h.inside e' (List.mem_cons_of_mem _ he')⟩

/-- Entries that are merged one by one keep the keys distinct if each of them does. -/
theorem HasDistinctKeys.merge_of (hl : lower.HasDistinctKeys)
    (h : ∀ e ∈ upper, ∀ w : Option Setting, (∀ x ∈ w, x.HasDistinctKeys) →
      (e.2.over w).HasDistinctKeys) : (lower.merge upper).HasDistinctKeys := by
  induction upper generalizing lower with
  | nil => exact hl
  | cons e upper ih =>
    have hvalue := h e List.mem_cons_self (lower.find? e.1) fun x hx => hl.of_find? hx
    rw [merge_cons]
    exact ih (hl.put e.1 hvalue) fun e' he' => h e' (List.mem_cons_of_mem _ he')

end Entries

namespace Setting

open Entries

variable {v : Setting} {w : Option Setting}

theorem Laid.eq_of_none {isEndless : Bool} {x : Option Setting} (h : Laid isEndless w none x) :
    x = w := by
  cases h
  rfl

/-- The entries of a mapping have distinct keys, also when it has been opened. -/
theorem HasDistinctKeys.opened {mark : Option Mark} {es : Entries} (h : v.HasDistinctKeys)
    (hv : v = .mapping mark es) : (Entries.opened mark es).HasDistinctKeys := by
  subst hv
  cases h with
  | mapping hkeys hinside => exact Entries.HasDistinctKeys.opened ⟨hkeys, hinside⟩

theorem laid_over_of_ne
    (h : ∀ l inner u outer, w = some (.mapping l inner) → v ≠ .mapping u outer) :
    Laid false w (some v) (some (v.over w)) := by
  rw [over_eq_self h]
  exact .upper h

/-- A setting is laid over what was there before. -/
theorem laid_over (hv : v.HasDistinctKeys) (w : Option Setting) :
    Laid false w (some v) (some (v.over w)) := by
  induction hv generalizing w with
  | @mapping u outer hkeys _ ih =>
    by_cases hboth : ∃ l inner, w = some (.mapping l inner)
    · obtain ⟨l, inner, rfl⟩ := hboth
      rw [mapping_over_mapping]
      refine .both fun key => ?_
      rw [entered_false, entered_false, find?_merge hkeys]
      cases hfound : Bindings.find? outer key with
      | none => exact .lower _
      | some v =>
        obtain ⟨e, he, rfl⟩ := Option.map_eq_some_iff.1 hfound
        exact ih e (List.mem_of_find?_eq_some he) _
    · exact laid_over_of_ne fun l inner _ _ hw => absurd ⟨l, inner, hw⟩ hboth
  | scalar => exact laid_over_of_ne fun _ _ _ _ _ h => by cases h
  | again => exact laid_over_of_ne fun _ _ _ _ _ h => by cases h
  | sequence => exact laid_over_of_ne fun _ _ _ _ _ h => by cases h
  | pair => exact laid_over_of_ne fun _ _ _ _ _ h => by cases h
  | set => exact laid_over_of_ne fun _ _ _ _ _ h => by cases h

theorem HasDistinctKeys.over (hv : v.HasDistinctKeys) (hw : ∀ x ∈ w, x.HasDistinctKeys) :
    (v.over w).HasDistinctKeys := by
  induction hv generalizing w with
  | @mapping u outer hkeys hinside ih =>
    by_cases hboth : ∃ l inner, w = some (.mapping l inner)
    · obtain ⟨l, inner, rfl⟩ := hboth
      rw [mapping_over_mapping]
      cases hw _ rfl with
      | mapping hlkeys hlinside =>
        have hmerged : (Entries.merge inner outer).HasDistinctKeys :=
          .merge_of ⟨hlkeys, hlinside⟩ fun e he _ hx => ih e he hx
        exact .mapping hmerged.keys hmerged.inside
    · rw [over_eq_self fun l inner _ _ hw => absurd ⟨l, inner, hw⟩ hboth]
      exact .mapping hkeys hinside
  | scalar => exact .scalar
  | again => exact .again
  | sequence h => exact .sequence h
  | pair hk hv => exact .pair hk hv
  | set => exact .set

end Setting

namespace Entries

variable {lower upper out : Entries} {key : Scalar} {v : Setting} {depth : Nat}

theorem laid_merge (hu : upper.HasDistinctKeys) (lower : Entries) :
    Laid false lower upper (lower.merge upper) := by
  intro key
  rw [find?_merge hu.keys]
  cases hfound : upper.find? key with
  | none => exact .lower _
  | some v => exact Setting.laid_over (hu.of_find? hfound) _

theorem HasDistinctKeys.merge (hl : lower.HasDistinctKeys) (hu : upper.HasDistinctKeys) :
    (lower.merge upper).HasDistinctKeys :=
  hl.merge_of fun e he _ hx => (hu.inside e he).over hx

/-! ## Merging with a bound -/

/-- All that can come of merging in one entry with a bound. -/
inductive MergesEntry (depth : Nat) (lower : Entries) (key : Scalar) (v : Setting) :
    Option Entries → Prop
  /-- Unless there are two mappings, the entry is put in. -/
  | put (h : ∀ l inner u outer, lower.find? key = some (.mapping l inner) → v ≠ .mapping u outer) :
      MergesEntry depth lower key v (some (lower.put key v))
  | merged {l u : Option Mark} {inner outer es : Entries}
      (hl : lower.find? key = some (.mapping l inner)) (hv : v = .mapping u outer)
      (h : mergeWithin depth (opened l inner) (opened u outer) = some es) :
      MergesEntry depth lower key v (some (lower.put key (.ofEntries es)))
  | failed {l u : Option Mark} {inner outer : Entries}
      (hl : lower.find? key = some (.mapping l inner)) (hv : v = .mapping u outer)
      (h : mergeWithin depth (opened l inner) (opened u outer) = none) :
      MergesEntry depth lower key v none

theorem mergesEntry (depth : Nat) (lower : Entries) (key : Scalar) (v : Setting) :
    MergesEntry depth lower key v (mergeEntryWithin depth lower key v) := by
  unfold mergeEntryWithin
  split
  · next l inner u outer hl =>
    cases h : mergeWithin depth (opened l inner) (opened u outer) with
    | none => exact .failed hl rfl h
    | some es => exact .merged hl rfl h
  · next hne => exact .put hne

/-- Whatever has been merged in, another key leads to what it has led to before. -/
theorem MergesEntry.find?_of_ne {other : Scalar} (h : MergesEntry depth lower key v (some out))
    (hne : ¬(key == other) = true) : out.find? other = lower.find? other := by
  cases h <;> rw [Bindings.find?_put, if_neg hne]

/-- The key leads to what has been laid over what was there before. -/
theorem MergesEntry.laid (h : MergesEntry depth lower key v (some out)) (hv : v.HasDistinctKeys)
    (ih : ∀ {lower upper out : Entries}, upper.HasDistinctKeys →
      mergeWithin depth lower upper = some out → Laid true lower upper out)
    {other : Scalar} (hsame : (key == other) = true) :
    Setting.Laid true (lower.find? other) (some v) (out.find? other) := by
  rw [← Bindings.find?_congr lower hsame]
  cases h with
  | put hne =>
    rw [Bindings.find?_put, if_pos hsame]
    exact .upper hne
  | merged hl hv' hmerged =>
    rw [Bindings.find?_put, if_pos hsame, hl, hv']
    exact .both (ih (hv.opened hv') hmerged)

theorem MergesEntry.hasDistinctKeys (h : MergesEntry depth lower key v (some out))
    (hl : lower.HasDistinctKeys) (hv : v.HasDistinctKeys)
    (ih : ∀ {lower upper out : Entries}, lower.HasDistinctKeys → upper.HasDistinctKeys →
      mergeWithin depth lower upper = some out → out.HasDistinctKeys) : out.HasDistinctKeys := by
  cases h with
  | put => exact hl.put key hv
  | merged hinner hv' hmerged =>
    have hes := ih ((hl.of_find? hinner).opened rfl) (hv.opened hv') hmerged
    exact hl.put key (.mapping hes.keys hes.inside)

theorem laid_mergeWithin (hu : upper.HasDistinctKeys)
    (h : mergeWithin depth lower upper = some out) : Laid true lower upper out := by
  -- As merging goes, the bound is counted down, and for each bound the entries are gone through.
  induction depth generalizing lower upper out with
  | zero => cases h
  | succ depth ih =>
    rw [mergeWithin_succ] at h
    induction upper generalizing lower with
    | nil =>
      cases h
      exact fun key => .lower _
    | cons e upper ihupper =>
      rw [List.foldlM_cons] at h
      obtain ⟨next, hnext, h⟩ := Option.bind_eq_some_iff.1 h
      have hstep := hnext ▸ mergesEntry depth lower e.1 e.2
      intro key
      have hrest := ihupper hu.tail h key
      rw [Bindings.find?_cons]
      by_cases hkey : (e.1 == key) = true
      · -- The key does not come again, so that what has just been put in stays.
        rw [find?_tail hu.keys hkey] at hrest
        rw [if_pos hkey, hrest.eq_of_none]
        exact hstep.laid (hu.inside e List.mem_cons_self) @ih hkey
      · rw [if_neg hkey, ← hstep.find?_of_ne hkey]
        exact hrest

theorem HasDistinctKeys.mergeWithin (hl : lower.HasDistinctKeys) (hu : upper.HasDistinctKeys)
    (h : Entries.mergeWithin depth lower upper = some out) : out.HasDistinctKeys := by
  induction depth generalizing lower upper out with
  | zero => cases h
  | succ depth ih =>
    rw [mergeWithin_succ] at h
    induction upper generalizing lower with
    | nil =>
      cases h
      exact hl
    | cons e upper ihupper =>
      rw [List.foldlM_cons] at h
      obtain ⟨next, hnext, h⟩ := Option.bind_eq_some_iff.1 h
      have hstep := hnext ▸ mergesEntry depth lower e.1 e.2
      exact ihupper (hstep.hasDistinctKeys hl (hu.inside e List.mem_cons_self) @ih) hu.tail h

/-- The same keys lead from mapping to mapping in both trees, `depth` times. -/
inductive Entwined : (depth : Nat) → (lower upper : Entries) → Prop
  | zero (lower upper : Entries) : Entwined 0 lower upper
  | succ {depth : Nat} {lower upper : Entries} {key : Scalar} {l u : Option Mark}
      {inner outer : Entries} (hl : lower.find? key = some (.mapping l inner))
      (hu : upper.find? key = some (.mapping u outer))
      (h : Entwined depth (opened l inner) (opened u outer)) : Entwined (depth + 1) lower upper

/-- Where there is no tree to be had, the bound has been reached in both trees. -/
theorem entwined_of_mergeWithin (hu : upper.HasDistinctKeys)
    (h : mergeWithin depth lower upper = none) : Entwined depth lower upper := by
  induction depth generalizing lower upper with
  | zero => exact .zero lower upper
  | succ depth ih =>
    rw [mergeWithin_succ] at h
    induction upper generalizing lower with
    | nil => cases h
    | cons e upper ihupper =>
      rw [List.foldlM_cons] at h
      have hstep := mergesEntry depth lower e.1 e.2
      cases hnext : mergeEntryWithin depth lower e.1 e.2 with
      | none =>
        rw [hnext] at hstep
        have hself : Bindings.find? (e :: upper) e.1 = some e.2 := by
          rw [Bindings.find?_cons, if_pos (BEq.refl e.1)]
        cases hstep with
        | failed hinner houter hfailed =>
          have hopened := (hu.inside e List.mem_cons_self).opened houter
          rw [houter] at hself
          exact .succ hinner hself (ih hopened hfailed)
      | some next =>
        rw [hnext] at hstep h
        cases ihupper hu.tail h with
        | @succ _ _ _ key _ _ _ _ hl hfound hinside =>
          -- The key does not come again, so that it leads to what it has led to before.
          have hkey : ¬(e.1 == key) = true := fun hkey => by
            rw [find?_tail hu.keys hkey] at hfound
            cases hfound
          rw [hstep.find?_of_ne hkey] at hl
          exact .succ hl (by rw [Bindings.find?_cons, if_neg hkey, hfound]) hinside

/-- Where the same keys lead on and on in both trees, there is no tree to be had. -/
theorem Entwined.mergeWithin (h : Entwined depth lower upper) :
    Entries.mergeWithin depth lower upper = none := by
  induction h with
  | zero => rfl
  | @succ depth lower upper key l u inner outer hl hu _ ih =>
    rw [mergeWithin_succ]
    induction upper generalizing lower with
    | nil => cases hu
    | cons e upper ihupper =>
      rw [List.foldlM_cons]
      rw [Bindings.find?_cons] at hu
      have hstep := mergesEntry depth lower e.1 e.2
      cases hnext : mergeEntryWithin depth lower e.1 e.2 with
      | none => rfl
      | some next =>
        rw [hnext] at hstep
        have hkey : ¬(e.1 == key) = true := fun hkey => by
          rw [if_pos hkey] at hu
          rw [← Bindings.find?_congr lower hkey] at hl
          cases hstep with
          | put hne => exact hne _ _ _ _ hl (Option.some.inj hu)
          | merged hinner houter hmerged =>
            cases hl.symm.trans hinner
            cases (Option.some.inj hu).symm.trans houter
            rw [ih] at hmerged
            cases hmerged
        -- The entry is that of another key, and leaves what this one leads to.
        rw [if_neg hkey] at hu
        exact ihupper (by rw [hstep.find?_of_ne hkey, hl]) hu

/-- However it is done, merging comes to laying the one tree over the other. It fails only for trees
    that may have no end, and that have none where they meet. -/
theorem merging_spec (isEndless : Bool) (hl : lower.HasDistinctKeys)
    (hu : upper.HasDistinctKeys) :
    let merged? := if isEndless then lower.mergeEndless upper else some (lower.merge upper)
    (merged? = none ↔ isEndless = true ∧ Entwined mergeLimit lower upper) ∧
      ∀ merged, merged? = some merged → Laid isEndless lower upper merged ∧
        merged.HasDistinctKeys := by
  cases isEndless with
  | false =>
    refine ⟨iff_of_false nofun nofun, fun merged h => ?_⟩
    cases h
    exact ⟨laid_merge hu lower, hl.merge hu⟩
  | true =>
    exact ⟨⟨fun h => ⟨rfl, entwined_of_mergeWithin hu h⟩, fun h => h.2.mergeWithin⟩,
      fun merged h => ⟨laid_mergeWithin hu h, hl.mergeWithin hu h⟩⟩

end Entries

end GridGauge
