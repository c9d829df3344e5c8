import GridGauge.Proofs.Loading

/-!
# Loops are told

Whether a mapping can be inside of itself is told by the settings as a whole,
and where it is told that none is, trees are merged without looking for one. So
no loop may go untold (`Settings.TellsLoops`).

Loops come from files. As a document is unfolded, each collection that has been
met again inside of itself is noted before it is done with, and what is noted
stays (`Unnoted`): if nothing has been noted at the end, there is no loop
(`isLoopless_of_read`). No setting that is put in later makes one, and so all
settings that come about tell their loops (`Settings.IsMade.spec`).
-/

namespace GridGauge

/-- The setting is a mapping that is inside of itself. -/
def Setting.Loops : Setting → Prop
  | .mapping mark _ => mark.any (·.recurs) = true
  | _ => False

/-- Where a name stands for a mapping that is inside of itself, it is known that there can be
    one. -/
def Settings.TellsLoops (s : Settings) : Prop :=
  ∀ name v, s.overrides.named? name = some v → v.Loops → s.loops = true

/-- A mapping that is not inside of itself is opened as it is. -/
theorem Entries.opened_of_not_recurs {mark : Option Mark} (h : mark.any (·.recurs) = false)
    (es : Entries) : opened mark es = es := by
  cases mark with
  | none => rfl
  | some m =>
    have hm : m.recurs = false := h
    rw [opened, hm]
    rfl

/-! ## Unfolding -/

/-- No collection in the setting is inside of itself. -/
inductive Setting.IsLoopless : Setting → Prop
  | scalar {s : Scalar} : IsLoopless (.scalar s)
  | again {n : Nat} {isMapping : Bool} : IsLoopless (.again n isMapping)
  | sequence {mark : Option Mark} {items : List Setting} :
      mark.any (·.recurs) = false → (∀ v ∈ items, IsLoopless v) → IsLoopless (.sequence mark items)
  | mapping {mark : Option Mark} {es : Entries} :
      mark.any (·.recurs) = false → (∀ e ∈ es, IsLoopless e.2) → IsLoopless (.mapping mark es)
  | pair {k v : Setting} : IsLoopless k → IsLoopless v → IsLoopless (.pair k v)
  | set {elements : List Scalar} : IsLoopless (.set elements)

namespace Yaml

/-- Nothing that has been unfolded is inside of itself. -/
def Unfolded.IsLoopless (u : Unfolded) : Prop :=
  ∀ id v, u.settings.getD id none = some v → v.IsLoopless

/-- If no loop has been noted after the step, none had been before, and under the condition `C` the
    step makes something of the kind `P` and no loop. -/
def Unnoted {α : Type} (C : Prop) (m : StateM Unfolded α) (P : α → Prop) : Prop :=
  ∀ u : Unfolded, (m.run u).2.loops = false →
    u.loops = false ∧ (C → u.IsLoopless → P (m.run u).1 ∧ (m.run u).2.IsLoopless)

namespace Unnoted

variable {α β : Type} {C : Prop} {P : α → Prop} {Q : β → Prop}

theorem pure {a : α} (h : C → P a) : Unnoted C (Pure.pure a) P :=
  fun _ hu => ⟨hu, fun hC hl => ⟨h hC, hl⟩⟩

theorem bind {m : StateM Unfolded α} {f : α → StateM Unfolded β} (hm : Unnoted C m P)
    (hf : ∀ a, Unnoted (P a) (f a) Q) : Unnoted C (m >>= f) Q := fun u hu => by
  obtain ⟨hmiddle, hlast⟩ := hf (m.run u).1 (m.run u).2 hu
  obtain ⟨hstart, hfirst⟩ := hm u hmiddle
  exact ⟨hstart, fun hC hl => hlast (hfirst hC hl).1 (hfirst hC hl).2⟩

theorem get : Unnoted C get Unfolded.IsLoopless := fun _ hu => ⟨hu, fun _ hl => ⟨hl, hl⟩⟩

/-- What a step needs no condition for it does under any, which is kept. -/
theorem keep {m : StateM Unfolded α} (hm : Unnoted True m P) : Unnoted C m fun a => C ∧ P a :=
  fun u hu => by
    obtain ⟨hstart, hrest⟩ := hm u hu
    exact ⟨hstart, fun hC hl => ⟨⟨hC, (hrest trivial hl).1⟩, (hrest trivial hl).2⟩⟩

theorem mapM {f : β → StateM Unfolded α} (hf : ∀ b, Unnoted True (f b) P) (l : List β) :
    Unnoted C (l.mapM f) fun as => ∀ a ∈ as, P a := by
  induction l generalizing C with
  | nil => exact pure fun _ => nofun
  | cons b l ih =>
    rw [List.mapM_cons]
    exact (keep (hf b)).bind fun a => (keep ih).bind fun as => pure fun h =>
      List.forall_mem_cons.2 ⟨h.1.2, h.2⟩

end Unnoted

theorem Unfolded.IsLoopless.store {u : Unfolded} (h : u.IsLoopless) (id : Nat) {v : Setting}
    (hv : v.IsLoopless) : IsLoopless { u with settings := u.settings.setIfInBounds id (some v) } :=
  fun other w hw => by
    rcases eq_or_of_store hw with rfl | hold
    · exact hv
    · exact h other w hold

theorem settle_unnoted {C : Prop} {mark : Option Nat} {id : Nat} {again : List Nat}
    {setting : Option Mark → Setting}
    (h : C → ∀ m : Option Mark, m.any (·.recurs) = false → (setting m).IsLoopless) :
    Unnoted C (settle mark id again setting) fun r => r.1.IsLoopless := by
  have hplain : C → again.contains id = false →
      (setting (mark.map (⟨·, again.contains id⟩))).IsLoopless := fun hC hrecurs => by
    refine h hC _ ?_
    rw [hrecurs]
    cases mark <;> rfl
  unfold settle
  -- What comes again inside is noted here.
  refine .bind (P := fun _ => C ∧ again.contains id = false) (fun u hu => ?_) fun _ => ?_
  · obtain ⟨hloops, hrecurs⟩ := Bool.or_eq_false_iff.1 hu
    exact ⟨hloops, fun hC hl => ⟨⟨hC, hrecurs⟩, hl⟩⟩
  · split
    · refine .bind (P := fun _ => C ∧ again.contains id = false) (fun u hu => ?_) fun _ =>
        .pure fun hC => hplain hC.1 hC.2
      exact ⟨hu, fun hC hl => ⟨hC, hl.store id (hplain hC.1 hC.2)⟩⟩
    · exact .pure fun hC => hplain hC.1 hC.2

/-- What is unfolded without a loop being noted has none. -/
theorem unfold_unnoted (f : Findings) (places : Array Nat) (first depth : Nat) (isShared : Bool)
    (outer : List Nat) (id : Nat) :
    Unnoted True (unfold f places first depth isShared outer id) fun r => r.1.IsLoopless := by
  induction depth generalizing isShared outer id with
  | zero => exact .pure fun _ => .scalar
  | succ depth ih =>
    unfold unfold
    refine .bind .get fun u => ?_
    split
    · next v hv => exact .pure fun hu => hu id v hv
    split
    · exact .pure fun _ => .scalar
    · exact .pure fun _ => .scalar
    · exact .pure fun _ => .set
    · next items _ =>
      split
      · exact .pure fun _ => .again
      refine .bind (.mapM (P := fun r => r.1.IsLoopless) ?_ items) fun items' => ?_
      · rintro (id' | ⟨k, v⟩)
        · exact ih _ _ id'
        · exact (ih _ _ k).bind fun rk => (ih _ _ v).keep.bind fun rv =>
            .pure fun h => .pair h.1 h.2
      refine settle_unnoted fun hitems m hm => .sequence hm fun v hv => ?_
      obtain ⟨r, hr, rfl⟩ := List.mem_map.1 hv
      exact hitems r hr
    · next es _ =>
      split
      · exact .pure fun _ => .again
      refine .bind (.mapM (P := fun e => e.2.1.IsLoopless) ?_ es) fun es' => ?_
      · rintro ⟨k, v⟩
        exact (ih _ _ v).bind fun r => .pure fun hr => hr
      refine settle_unnoted fun hes m hm => .mapping hm fun e he => ?_
      obtain ⟨r, hr, rfl⟩ := List.mem_map.1 he
      exact hes r hr

/-- What a YAML text sets has no loop unless the outcome says so. -/
theorem isLoopless_of_read {first : Nat} {isCut : Bool} {t : Text} {o : Outcome}
    (h : read first isCut t = .ok o) (hloops : o.loops = false) : o.setting.IsLoopless := by
  obtain ⟨d, -, h⟩ := exists_of_bind_eq_ok h
  split at h
  · next d =>
    obtain ⟨f, -, h⟩ := exists_of_bind_eq_ok h
    have fresh : Unfolded.IsLoopless ⟨Array.replicate d.nodes.size none, false⟩ := fun id v hv =>
      absurd hv (Unfolded.getD_replicate_ne_some _ id v)
    cases h
    exact ((unfold_unnoted f (f.places d.root) first (d.nodes.size + 1) false [] d.root _ hloops).2
      trivial fresh).1
  · cases h
    exact .scalar

end Yaml

/-! ## Settings -/

theorem Setting.IsLoopless.not_loops {v : Setting} (h : v.IsLoopless) : ¬v.Loops := by
  cases h with
  | mapping hmark _ => exact fun hloops => Bool.false_ne_true (hmark.symm.trans hloops)
  | _ => exact id

/-- A setting that is laid over another one is in no loop for that. -/
theorem Setting.not_loops_over {v : Setting} (h : ¬v.Loops) (lower : Option Setting) :
    ¬(v.over lower).Loops := by
  cases v with
  | mapping mark upper =>
    cases lower with
    | none => exact h
    | some w =>
      cases w with
      | mapping _ _ => exact Bool.false_ne_true
      | _ => exact h
  | _ => exact h

namespace Settings

open Entries

theorem isLoopless_of_loadFrom {first : Nat} {files : Files} {path : Option Text} {file : FileTree}
    (h : loadFrom first files path = .tree file) (hloops : file.loops = false) :
    ∀ e ∈ file.entries, e.2.IsLoopless := by
  obtain ⟨isCut, t, mark, es, hread, hentries⟩ := exists_read_of_loadFrom h
  cases Yaml.isLoopless_of_read hread hloops with
  | mapping hmark hes =>
    rw [hentries, opened_of_not_recurs hmark]
    exact hes

variable {s s' : Settings} {v : Setting}

/-- To put in a setting makes no loop, unless it is one itself. -/
theorem TellsLoops.set (h : s.TellsLoops) (hv : v.Loops → s.loops = true) (path : List Text) :
    (s.set path v).TellsLoops := by
  intro name w hw hloops
  have hset : (s.overrides.set v path).named? name = some w → s.loops = true := fun hw => by
    match path with
    | [] => exact h name w hw hloops
    | other :: path =>
      by_cases hne : other = name
      · subst hne
        cases path with
        | nil =>
          rw [Entries.set, named?_put, if_pos rfl, Option.some.injEq] at hw
          exact hv (hw ▸ hloops)
        | cons next path =>
          -- The mapping that is changed keeps its mark.
          rw [named?_set_cons, Option.some.injEq] at hw
          subst hw
          replace hloops : (s.overrides.markAt other).any (·.recurs) = true := hloops
          unfold markAt at hloops
          split at hloops
          · next hold => exact h other _ hold hloops
          · cases hloops
      · rw [named?_set_of_ne hne] at hw
        exact h name w hw hloops
  rw [Settings.set, setShared] at hw
  dsimp only at hw
  split at hw
  · exact hset hw
  · rw [named?_setMarked] at hw
    obtain ⟨old, hold, rfl⟩ := Option.map_eq_some_iff.1 hw
    refine h name old hold ?_
    cases old with
    | mapping mark inner => exact hloops
    | _ => exact hloops.elim

/-- Values that are scalars are put in one after the other. -/
theorem TellsLoops.setAll (h : s.TellsLoops) {values : Bindings SettingKey Setting}
    (hvalues : ∀ kv ∈ values, ¬kv.2.Loops) : (s.setAll values).TellsLoops := by
  induction values generalizing s with
  | nil => exact h
  | cons kv values ih =>
    obtain ⟨hv, hvalues⟩ := List.forall_mem_cons.1 hvalues
    exact ih (h.set (fun hloops => absurd hloops hv) kv.1.path) hvalues

theorem TellsLoops.applyEnvironment (h : s.TellsLoops) (env : Environment) :
    (s.applyEnvironment env).TellsLoops := by
  refine h.setAll fun kv hkv => ?_
  obtain ⟨c, hc⟩ := (Environment.mem_settings.1 hkv).exists_scalar
  rw [hc]
  exact id

theorem tellsLoops_initial (env : Environment) : (initial env).TellsLoops :=
  TellsLoops.applyEnvironment (s := ⟨[], 0, false⟩) (fun _ _ hv => by cases hv) env

/-- When a file is loaded over settings, the loops in both are told. -/
theorem TellsLoops.load (h : s.TellsLoops) {first : Nat} {files : Files} {path : Option Text}
    {file : FileTree} (hloaded : loadFrom first files path = .tree file) {env : Environment}
    (hload : s.load env file = some s') : s'.TellsLoops := by
  have hkeys := (hasDistinctKeys_of_loadFrom hloaded).keys
  unfold Settings.load at hload
  obtain ⟨merged, hmerged, rfl⟩ := Option.map_eq_some_iff.1 hload
  refine TellsLoops.applyEnvironment (fun name v hv hloops => ?_) env
  show (s.loops || file.loops) = true
  refine Classical.byContradiction fun hnone => ?_
  obtain ⟨hs, hfile⟩ := Bool.or_eq_false_iff.1 (Bool.eq_false_iff.2 hnone)
  rw [if_neg hnone, Option.some.injEq] at hmerged
  subst hmerged
  replace hv : (s.overrides.merge file.entries).named? name = some v := hv
  rw [named?_merge hkeys] at hv
  cases hw : file.entries.named? name with
  | none =>
    rw [hw] at hv
    exact absurd (h name v hv hloops) (by rw [hs]; exact Bool.false_ne_true)
  | some w =>
    obtain ⟨e, he, rfl⟩ := Option.map_eq_some_iff.1 hw
    have hloopless := isLoopless_of_loadFrom hloaded hfile e (List.mem_of_find?_eq_some he)
    rw [hw, Option.map_some, Option.some_or, Option.some.injEq] at hv
    exact Setting.not_loops_over hloopless.not_loops _ (hv ▸ hloops)

/-- The settings have come about from those of the environment, by loading files and by putting in
    values that are no loops. -/
inductive IsMade (env : Environment) : Settings → Prop
  | initial : IsMade env (initial env)
  | load {s s' : Settings} {first : Nat} {files : Files} {path : Option Text} {file : FileTree} :
      IsMade env s → loadFrom first files path = .tree file → s.load env file = some s' →
      IsMade env s'
  | set {s : Settings} {v : Setting} (path : List Text) :
      IsMade env s → v.HasDistinctKeys → ¬v.Loops → IsMade env (s.set path v)

/-- Settings that have come about so have no key twice and tell their loops. -/
theorem IsMade.spec {env : Environment} (h : IsMade env s) :
    s.overrides.HasDistinctKeys ∧ s.TellsLoops := by
  induction h with
  | initial => exact ⟨hasDistinctKeys_initial env, tellsLoops_initial env⟩
  | load _ hloaded hload ih =>
    have hfile := hasDistinctKeys_of_loadFrom hloaded
    exact ⟨((load_cases ih.1 hfile env).2 _ hload).keys, ih.2.load hloaded hload⟩
  | set path _ hkeys hv ih =>
    exact ⟨ih.1.setShared hkeys path, ih.2.set (fun hloops => absurd hloops hv) path⟩

end Settings

end GridGauge
