import GridGauge.Proofs.Looping

/-!
# Reading without merging

To read a setting the overrides are laid over the defaults, and a path is
followed through the whole tree. The same is had by one walk through the
overrides and one look at the defaults, and no tree has to be made
(`Settings.get_eq_walk`).

The walk through the overrides settles what is read (`Walk.read`). What is no
mapping hides all that the defaults have below it. Where the overrides have no
more than mappings along the path, the defaults are seen through them. At the
end of the walk there is the setting itself, and only of a mapping the entries
are laid over those that the defaults have there.

The proof goes along the path, one name after the other
(`Entries.at?_eq_read_of_named?`). The defaults have mappings in their sections
only, so that below a section nothing is laid over anything but a leaf. A
mapping that is inside of itself is laid over what is below it only once it has
been opened, and that needs settings that tell of such mappings
(`Settings.TellsLoops`), which all settings do that come about
(`Settings.IsMade.spec`).
-/

namespace GridGauge

/-- Where a path leads in a tree. -/
inductive Walk
  /-- It does not come to its end, as something that is no mapping is in its way. -/
  | blocked
  /-- It does not come to its end, as a mapping has nothing of the next name. -/
  | missing
  /-- It comes to its end. -/
  | ends (v : Setting)

/-- The walk along a path of names. -/
def Entries.walk : Entries → List Text → Walk
  | es, [] => .ends (.ofEntries es)
  | es, [name] =>
    match es.named? name with
    | none => .missing
    | some v => .ends v
  | es, name :: path =>
    match es.named? name with
    | none => .missing
    | some (.mapping mark inner) => walk (Entries.opened mark inner) path
    | some _ => .blocked

/-- What is read at the end of a path that has been walked, if the tree below has `lower` there. -/
def Walk.read (lower : Option Setting) : Walk → Option Setting
  | .blocked => none
  | .missing => lower
  | .ends (.mapping mark upper) =>
    match lower with
    | some (.mapping _ below) => some (.ofEntries (Entries.merge below (Entries.opened mark upper)))
    | _ => some (.mapping mark upper)
  | .ends v => some v

namespace Setting

variable {v : Setting} {lower : Option Setting}

/-- What is read at the end of a walk is the setting there, laid over the one below. -/
theorem read_ends (v : Setting) (lower : Option Setting) :
    (Walk.ends v).read lower = some ((v.openedOver lower).over lower) := by
  cases v with
  | mapping mark upper =>
    cases lower with
    | none => rfl
    | some w => cases w <;> rfl
  | _ => cases lower with
    | none => rfl
    | some w => cases w <;> rfl

/-- What is no mapping stays what it is, whatever is below. -/
theorem laid_eq_self (h : ∀ mark inner, v ≠ .mapping mark inner) :
    (v.openedOver lower).over lower = v := by
  rw [openedOver_eq_self fun _ _ u upper _ => h u upper, over_eq_self fun _ _ u upper _ => h u upper]

end Setting

namespace Entries

variable {es lower upper tree : Entries} {name next : Text} {path : List Text}

/-- In one tree there is at the end of a path what the walk comes to. -/
theorem at?_eq_read (es : Entries) (path : List Text) : es.at? path = (es.walk path).read none := by
  induction path generalizing es with
  | nil => rfl
  | cons name path ih =>
    cases path with
    | nil =>
      rw [at?, walk]
      cases es.named? name with
      | none => rfl
      | some v => cases v <;> rfl
    | cons next path =>
      rw [at?.eq_3 _ _ _ (by simp), walk.eq_3 _ _ _ (by simp)]
      cases es.named? name with
      | none => rfl
      | some v =>
        cases v with
        | mapping mark inner => exact ih _
        | _ => rfl

/-- A path that has to go on in something else than a mapping leads to nothing. -/
theorem at?_eq_none (h : ∀ mark inner, es.named? name ≠ some (.mapping mark inner)) (next : Text)
    (path : List Text) : es.at? (name :: next :: path) = none := by
  rw [at?.eq_3 _ _ _ (by simp)]
  split
  · next hs => exact absurd hs (h _ _)
  · rfl

/-- What is read along a path is known when it is known for its first name, and where both trees
    have a mapping of this name, for the rest of the path below it. -/
theorem at?_eq_read_of_named?
    (htree : tree.named? name = ((upper.named? name).map fun w =>
      (w.openedOver (lower.named? name)).over (lower.named? name)).or (lower.named? name))
    (hbare : lower.markAt name = none)
    (hboth : ∀ l below u above, lower.named? name = some (.mapping l below) →
      upper.named? name = some (.mapping u above) → ∀ next path,
        (merge below (opened u above)).at? (next :: path)
          = ((opened u above).walk (next :: path)).read (at? below (next :: path))) :
    tree.at? (name :: path) = (upper.walk (name :: path)).read (lower.at? (name :: path)) := by
  cases hupper : upper.named? name with
  | none =>
    -- The upper tree has nothing there, so that the lower one is seen.
    rw [hupper] at htree
    have hwalk : upper.walk (name :: path) = .missing := by
      cases path with
      | nil => rw [walk, hupper]
      | cons next path => rw [walk.eq_3 _ _ _ (by simp), hupper]
    rw [hwalk, at?_congr htree]
    rfl
  | some w =>
    rw [hupper, Option.map_some, Option.some_or] at htree
    cases path with
    | nil =>
      rw [at?, htree, walk, hupper, Setting.read_ends]
      rfl
    | cons next path =>
      rw [walk.eq_3 _ _ _ (by simp), hupper]
      cases w with
      | mapping mark above =>
        by_cases hlower : ∃ l below, lower.named? name = some (.mapping l below)
        · obtain ⟨l, below, hlower⟩ := hlower
          have hl : l = none := by rwa [markAt, hlower] at hbare
          subst hl
          rw [hlower] at htree
          rw [at?.eq_3 tree _ _ (by simp), at?.eq_3 lower _ _ (by simp), htree, hlower]
          exact hboth none below mark above hlower hupper next path
        · -- Nothing is merged, and the lower tree has nothing along the path.
          have hnot : ∀ l below, lower.named? name ≠ some (.mapping l below) := fun l below h =>
            hlower ⟨l, below, h⟩
          rw [Setting.openedOver_eq_self fun l below _ _ h => absurd h (hnot l below),
            Setting.over_eq_self fun l below _ _ h => absurd h (hnot l below)] at htree
          rw [at?.eq_3 tree _ _ (by simp), htree, at?_eq_none hnot]
          exact at?_eq_read _ _
      | _ =>
        refine at?_eq_none (fun mark inner h => ?_) next path
        rw [htree, Setting.laid_eq_self fun _ _ hw => Setting.noConfusion hw] at h
        cases h

/-- What is read from a tree that is laid over one of leaves. -/
theorem at?_merge_of_leaves (hupper : upper.KeysDistinct)
    (hleaf : ∀ name mark below, lower.named? name ≠ some (.mapping mark below)) (name : Text)
    (path : List Text) :
    (lower.merge upper).at? (name :: path)
      = (upper.walk (name :: path)).read (lower.at? (name :: path)) := by
  refine at?_eq_read_of_named? ?_ ?_ fun l below _ _ h => absurd h (hleaf name l below)
  · have hopened (w : Setting) : w.openedOver (lower.named? name) = w :=
      Setting.openedOver_eq_self fun l below _ _ h => absurd h (hleaf name l below)
    simp only [named?_merge hupper, hopened]
  · unfold markAt
    split
    · next h => exact absurd h (hleaf name _ _)
    · rfl

end Entries

namespace Settings

open Entries

variable {s : Settings}

/-- In the whole tree a name stands for what it stands for in the overrides, opened and laid over
    what it stands for in the defaults. -/
theorem named?_tree_eq (hkeys : s.overrides.IsTidy) (hloops : s.TellsLoops) (name : Text) :
    s.tree.named? name = ((s.overrides.named? name).map fun w =>
      (w.openedOver (defaultEntries.named? name)).over (defaultEntries.named? name)).or
        (defaultEntries.named? name) := by
  rw [named?_tree hkeys]
  cases hflag : s.loops with
  | true => rfl
  | false =>
    cases hw : s.overrides.named? name with
    | none => rfl
    | some w =>
      have hself : w.openedOver (defaultEntries.named? name) = w := by
        unfold Setting.openedOver
        split
        · next mark inner _ =>
          have hmark : mark.any (·.recurs) = false := Bool.eq_false_iff.2 fun h => by
            rw [hloops name _ hw h] at hflag
            cases hflag
          rw [opened_of_not_recurs hmark]
        · rfl
      rw [Option.map_some, Option.map_some, hself, if_neg Bool.false_ne_true]

/-- Settings are read by one walk through the overrides and one look at the defaults. -/
theorem get_eq_walk (hkeys : s.overrides.HasDistinctKeys) (hloops : s.TellsLoops) (path : Text)
    (otherwise : Setting) :
    s.get path otherwise = ((s.overrides.walk (namesOfPath path)).read
      (defaultEntries.at? (namesOfPath path))).getD otherwise := by
  obtain ⟨name, names, hpath⟩ := exists_namesOfPath path
  rw [get, at?, hpath]
  refine congrArg (Option.getD · otherwise) (at?_eq_read_of_named?
    (named?_tree_eq hkeys.isTidy hloops name) (isShallow_defaultEntries.isBare.markAt name) ?_)
  intro l below u above hbelow habove next names
  obtain ⟨_, leaves, -, heq, hleaf⟩ := isShallow_defaultEntries _ _ hbelow
  cases heq
  refine at?_merge_of_leaves ?_ (fun _ _ _ h => hleaf _ _ _ _ h rfl) next names
  cases hkeys.of_find? habove with
  | mapping hinner => exact KeysDistinct.opened hinner u

/-- The section of the hub has an entry more, and that of logging is left empty. -/
theorem hub_walked :
    let proxy : Setting := .mapping none [(.text "port", .scalar (.int 8080))]
    let s : Settings :=
      { overrides := [(.text "hub", .mapping none [(.text "proxy", proxy)]),
          (.text "logging", .scalar .null)] }
    s.overrides.HasDistinctKeys ∧ s.TellsLoops ∧
      s.get "hub.proxy.port" (.scalar .null) = .scalar (.int 8080) ∧
      s.get "hub.status_path" (.scalar .null) = .ofText "/status" ∧
      s.get "hub.proxy.host" (.scalar .null) = .scalar .null ∧
      s.get "hub.proxy" (.scalar .null) = proxy ∧
      s.get "logging.level" (.ofText "WARNING") = .ofText "WARNING" := by
  intro proxy s
  have hproxy : Setting.HasDistinctKeys (.mapping none [(.text "proxy", proxy)]) :=
    .mapping (by decide) (by simpa using .mapping (by decide) (by simpa using .scalar))
  have hmade : IsMade [] s :=
    (IsMade.initial.set ["hub"] hproxy Bool.false_ne_true).set ["logging"] .scalar id
  obtain ⟨hkeys, hloops⟩ := hmade.spec
  exact ⟨hkeys, hloops, (get_eq_walk hkeys hloops _ _).trans (by decide),
    (get_eq_walk hkeys hloops _ _).trans (by decide), (get_eq_walk hkeys hloops _ _).trans (by decide),
    (get_eq_walk hkeys hloops _ _).trans rfl, (get_eq_walk hkeys hloops _ _).trans (by decide)⟩

end Settings

end GridGauge
