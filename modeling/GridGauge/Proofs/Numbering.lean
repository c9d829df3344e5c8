import GridGauge.Proofs.Keys

/-!
# The numbers of marks

The marks of a file are numbered from behind those of the files before it, and
apart from that it does not count from where on: a file that is loaded with
numbers from further on comes to the same, with every number shifted
(`Settings.loadFrom_add`). The same goes for the numbers of keys that are the
same only as themselves. Where there are no such keys, and nothing is in several
places, there are no numbers, and the same file comes to the same tree whenever
it is loaded (`Settings.loadFrom_of_isTree`).
-/

namespace GridGauge

/-! ## Shifting -/

/-- The mark with its number shifted. -/
def Mark.shift (d : Nat) (m : Mark) : Mark := { m with number := m.number + d }

mutual

/-- The setting with all numbers in it shifted. -/
def Setting.shift (d : Nat) : Setting → Setting
  | .scalar s => .scalar s
  | .again number isMapping => .again (number + d) isMapping
  | .sequence mark items => .sequence (mark.map (Mark.shift d)) (Setting.shiftItems d items)
  | .mapping mark es => .mapping (mark.map (Mark.shift d)) (Entries.shift d es)
  | .pair k v => .pair (Setting.shift d k) (Setting.shift d v)
  | .set elements => .set (elements.map (Scalar.above d))

/-- The items with all numbers in them shifted. -/
def Setting.shiftItems (d : Nat) : List Setting → List Setting
  | [] => []
  | v :: vs => Setting.shift d v :: Setting.shiftItems d vs

/-- The entries with all numbers in them shifted. -/
def Entries.shift (d : Nat) : List (Scalar × Setting) → List (Scalar × Setting)
  | [] => []
  | (k, v) :: es => (k.above d, Setting.shift d v) :: Entries.shift d es

end

variable {d : Nat}

theorem Scalar.above_add (first d : Nat) (s : Scalar) :
    s.above (first + d) = (s.above first).above d := by
  cases s with
  | ownNaN number => simp only [above, ownNaN.injEq]; omega
  | _ => rfl

theorem Setting.shiftItems_eq_map (d : Nat) (items : List Setting) :
    Setting.shiftItems d items = items.map (Setting.shift d) := by
  induction items with
  | nil => rfl
  | cons v vs ih => rw [shiftItems, ih, List.map_cons]

theorem Entries.shift_eq_map (d : Nat) (es : List (Scalar × Setting)) :
    Entries.shift d es = es.map fun e => (e.1.above d, e.2.shift d) := by
  induction es with
  | nil => rfl
  | cons e es ih => rw [shift, ih, List.map_cons]

/-- Numbers are told apart as before. -/
theorem any_number_shift (mark : Option Mark) (number : Nat) :
    (mark.map (Mark.shift d)).any (·.number = number + d) = mark.any (·.number = number) := by
  cases mark with
  | none => rfl
  | some m => simp [Mark.shift]

mutual

theorem Setting.fill_shift (number : Nat) (whole : Setting) : (v : Setting) →
    Setting.fill (number + d) (whole.shift d) (v.shift d) = (Setting.fill number whole v).shift d
  | .scalar _ => rfl
  | .again n isMapping => by
    rw [Setting.shift, Setting.fill, Setting.fill]
    by_cases h : n = number
    · rw [if_pos h, if_pos (by rw [h])]
    · rw [if_neg h, if_neg (by omega), Setting.shift]
  | .sequence mark items => by
    rw [Setting.shift, Setting.fill, Setting.fill, any_number_shift,
      Setting.fillItems_shift number whole items]
    split <;> rw [Setting.shift]
  | .mapping mark es => by
    rw [Setting.shift, Setting.fill, Setting.fill, any_number_shift,
      Entries.fill_shift number whole es]
    split <;> rw [Setting.shift]
  | .pair k v => by
    rw [Setting.shift, Setting.fill, Setting.fill, Setting.shift, Setting.fill_shift number whole k,
      Setting.fill_shift number whole v]
  | .set _ => rfl

theorem Setting.fillItems_shift (number : Nat) (whole : Setting) : (vs : List Setting) →
    Setting.fillItems (number + d) (whole.shift d) (Setting.shiftItems d vs)
      = Setting.shiftItems d (Setting.fillItems number whole vs)
  | [] => rfl
  | v :: vs => by
    rw [Setting.shiftItems, Setting.fillItems, Setting.fillItems, Setting.shiftItems,
      Setting.fill_shift number whole v, Setting.fillItems_shift number whole vs]

theorem Entries.fill_shift (number : Nat) (whole : Setting) : (es : List (Scalar × Setting)) →
    Entries.fill (number + d) (whole.shift d) (Entries.shift d es)
      = Entries.shift d (Entries.fill number whole es)
  | [] => rfl
  | (k, v) :: es => by
    rw [Entries.shift, Entries.fill, Entries.fill, Entries.shift,
      Setting.fill_shift number whole v, Entries.fill_shift number whole es]

end

/-- A mapping is opened as before. -/
theorem Entries.opened_shift (mark : Option Mark) (es : Entries) :
    Entries.opened (mark.map (Mark.shift d)) (Entries.shift d es)
      = Entries.shift d (Entries.opened mark es) := by
  cases mark with
  | none => rfl
  | some m =>
    rw [Option.map_some, opened, opened, Mark.shift]
    dsimp only
    split
    · exact Entries.fill_shift m.number (.mapping (some m) es) es
    · rfl

/-! ## Unfolding -/

namespace Yaml

/-- What has been unfolded, with all numbers in it shifted. -/
def Unfolded.shift (d : Nat) (u : Unfolded) : Unfolded :=
  { u with settings := u.settings.map (Option.map (Setting.shift d)) }

/-- The step `m'` does as `m` does, with all numbers shifted, and `r` shifts what it makes. -/
def Shifts (d : Nat) {α : Type} (r : α → α) (m m' : StateM Unfolded α) : Prop :=
  ∀ u : Unfolded, m'.run (u.shift d) = (r (m.run u).1, (m.run u).2.shift d)

namespace Shifts

variable {α β : Type} {r : α → α} {q : β → β}

theorem pure {a a' : α} (h : a' = r a) : Shifts d r (Pure.pure a) (Pure.pure a') :=
  fun u => by rw [h]; rfl

theorem bind {m m' : StateM Unfolded α} {f f' : α → StateM Unfolded β} (hm : Shifts d r m m')
    (hf : ∀ a, Shifts d q (f a) (f' (r a))) : Shifts d q (m >>= f) (m' >>= f') := by
  intro u
  rw [StateT.run_bind, hm u]
  exact hf _ _

theorem get : Shifts d (Unfolded.shift d) get get := fun _ => rfl

theorem modify {f f' : Unfolded → Unfolded} (h : ∀ u, f' (u.shift d) = (f u).shift d) :
    Shifts d id (modify f) (modify f') := fun u => by
  show ((), f' (u.shift d)) = ((), (f u).shift d)
  rw [h]

theorem mapM {f f' : β → StateM Unfolded α} (hf : ∀ b, Shifts d r (f b) (f' b)) (l : List β) :
    Shifts d (List.map r) (l.mapM f) (l.mapM f') := by
  induction l with
  | nil => exact pure rfl
  | cons b l ih =>
    rw [List.mapM_cons, List.mapM_cons]
    exact (hf b).bind fun a => ih.bind fun as => pure (List.map_cons ..).symm

end Shifts

theorem Unfolded.getD_shift (u : Unfolded) (id : Nat) :
    (u.shift d).settings.getD id none = (u.settings.getD id none).map (Setting.shift d) := by
  simp only [shift, Array.getD_eq_getD_getElem?, Array.getElem?_map]
  cases u.settings[id]? <;> rfl

theorem settle_shifts {mark : Option Nat} {id : Nat} {again : List Nat}
    {setting setting' : Option Mark → Setting}
    (h : ∀ m, setting' (m.map (Mark.shift d)) = (setting m).shift d) :
    Shifts d (fun r => (r.1.shift d, r.2)) (settle mark id again setting)
      (settle (mark.map (· + d)) id again setting') := by
  have hmark : setting' ((mark.map (· + d)).map (⟨·, again.contains id⟩))
      = (setting (mark.map (⟨·, again.contains id⟩))).shift d := by
    rw [← h]
    cases mark <;> rfl
  unfold settle
  dsimp only
  rw [hmark, Option.isSome_map]
  refine .bind (.modify fun u => rfl) fun _ => ?_
  split
  · refine .bind (.modify fun u => ?_) fun _ => .pure rfl
    simp [Unfolded.shift, Array.map_setIfInBounds]
  · exact .pure rfl

/-- Unfolding does as before when its numbers are shifted. -/
theorem unfold_shifts (f : Findings) (places : Array Nat) (first depth : Nat) (isShared : Bool)
    (outer : List Nat) (id : Nat) :
    Shifts d (fun r => (r.1.shift d, r.2)) (unfold f places first depth isShared outer id)
      (unfold f places (first + d) depth isShared outer id) := by
  induction depth generalizing isShared outer id with
  | zero => exact .pure rfl
  | succ depth ih =>
    unfold unfold
    refine .bind .get fun u => ?_
    rw [Unfolded.getD_shift]
    cases u.settings.getD id none with
    | some v => exact .pure rfl
    | none =>
      dsimp only [Option.map_none]
      rw [Nat.add_right_comm first d id]
      have hmark (isShared : Bool) : (if isShared = true then some (first + id + d) else none)
          = (if isShared = true then some (first + id) else none).map (· + d) := by
        cases isShared <;> rfl
      rw [hmark]
      split
      · exact .pure rfl
      · exact .pure rfl
      · next elements _ =>
        exact .pure (by simp [Setting.shift, Scalar.above_add])
      · next items _ =>
        split
        · exact .pure rfl
        refine .bind (.mapM (r := fun r => (r.1.shift d, r.2)) (fun item => ?_) items) fun items' => ?_
        · cases item with
          | node id' => exact ih _ _ id'
          | pair k v => exact (ih _ _ k).bind fun rk => (ih _ _ v).bind fun rv => .pure rfl
        rw [List.flatMap_map]
        refine settle_shifts fun m => ?_
        rw [Setting.shift, Setting.shiftItems_eq_map, List.map_map, List.map_map]
        rfl
      · next es _ =>
        split
        · exact .pure rfl
        have hentry (isShared : Bool) (e : Scalar × Nat) :
            Shifts d (fun r => (r.1.above d, r.2.1.shift d, r.2.2))
              (do return (e.1.above first, ← unfold f places first depth isShared (id :: outer) e.2))
              (do return (e.1.above (first + d),
                ← unfold f places (first + d) depth isShared (id :: outer) e.2)) :=
          (ih _ _ e.2).bind fun r => .pure (by rw [Scalar.above_add])
        refine .bind (.mapM (hentry _) es) fun es' => ?_
        rw [List.flatMap_map]
        refine settle_shifts fun m => ?_
        rw [Setting.shift, Entries.shift_eq_map, List.map_map, List.map_map]
        rfl

/-- What a text sets, with all numbers in it shifted. -/
def Outcome.shift (d : Nat) (o : Outcome) : Outcome :=
  { o with setting := o.setting.shift d, marks := o.marks + d }

/-- What has been unfolded at the beginning: nothing. -/
def Unfolded.fresh (n : Nat) : Unfolded := ⟨Array.replicate n none, false⟩

theorem Unfolded.shift_fresh (n : Nat) : (fresh n).shift d = fresh n := by
  rw [shift, fresh, Array.map_replicate, Option.map_none]

theorem ofDocument_eq (first : Nat) (d : Document) :
    ofDocument first d = (Findings.ofDocument d).map fun f =>
      let r := (unfold f (f.places d.root) first (d.nodes.size + 1) false [] d.root).run
        (.fresh d.nodes.size)
      ⟨r.1.1, first + d.nodes.size, r.2.loops⟩ := by
  unfold ofDocument
  cases Findings.ofDocument d <;> rfl

theorem ofDocument_add (first : Nat) (document : Document) :
    ofDocument (first + d) document = (ofDocument first document).map (Outcome.shift d) := by
  rw [ofDocument_eq, ofDocument_eq]
  cases Findings.ofDocument document with
  | error e => rfl
  | ok f =>
    have hunfold := unfold_shifts (d := d) f (f.places document.root) first
      (document.nodes.size + 1) false [] document.root (.fresh document.nodes.size)
    rw [Unfolded.shift_fresh] at hunfold
    simp only [Except.map, hunfold, Outcome.shift, Unfolded.shift, Nat.add_right_comm first d]

/-- A text that is read with marks from further on sets the same, with the numbers shifted. -/
theorem read_add (first : Nat) (isCut : Bool) (t : Text) :
    read (first + d) isCut t = (read first isCut t).map (Outcome.shift d) := by
  unfold read
  cases (Document.ofTokens (Token.scan isCut t)).mapError Error.failure with
  | error e => rfl
  | ok document =>
    cases document with
    | none => rfl
    | some document => exact ofDocument_add first document

end Yaml

/-! ## Files -/

/-- The tree of a file, with all numbers in it shifted. -/
def FileTree.shift (d : Nat) (file : FileTree) : FileTree :=
  { file with entries := Entries.shift d file.entries, marks := file.marks + d }

namespace Settings

/-- What comes of loading a file, with all numbers in it shifted. -/
def Loaded.shift (d : Nat) : Loaded → Loaded
  | .tree file => .tree (file.shift d)
  | loaded => loaded

theorem ofContent_add (first : Nat) (path : Text) (content : Bytes) :
    ofContent (first + d) path content = (ofContent first path content).shift d := by
  unfold ofContent
  dsimp only
  rw [Yaml.read_add]
  generalize Yaml.Source.ofBytes content = source
  cases Yaml.read first source.obstacle.isSome source.text with
  | error e =>
    dsimp only [Except.map]
    unfold ofFailure
    split
    all_goals try split
    all_goals rfl
  | ok o =>
    obtain ⟨v, marks, loops⟩ := o
    cases v with
    | mapping mark es =>
      show Loaded.tree ⟨Entries.opened (mark.map (Mark.shift d)) (Entries.shift d es), _, _⟩ = _
      rw [Entries.opened_shift]
      rfl
    | _ => rfl

theorem loadPath_add (first : Nat) (files : Files) (path : Text) :
    loadPath (first + d) files path = (loadPath first files path).shift d := by
  unfold loadPath
  dsimp only
  split
  · rfl
  · rfl
  · rfl
  · exact ofContent_add _ _ _

theorem loadFirst_add (first : Nat) (files : Files) (paths : List Text) :
    loadFirst (first + d) files paths = (loadFirst first files paths).shift d := by
  induction paths with
  | nil => rfl
  | cons path paths ih =>
    rw [loadFirst, loadFirst, loadPath_add, ih]
    cases loadPath first files path <;> rfl

/-- A file that is loaded with marks from further on comes to the same, with the numbers shifted. -/
theorem loadFrom_add (first : Nat) (files : Files) (path : Option Text) :
    loadFrom (first + d) files path = (loadFrom first files path).shift d := by
  unfold loadFrom
  cases candidates files path with
  | ok paths => exact loadFirst_add first files paths
  | error e => rfl

end Settings

/-! ## Trees -/

/-- Is the scalar the same key as any that is written like it? -/
def Scalar.isCommon : Scalar → Bool
  | .ownNaN _ => false
  | _ => true

theorem Scalar.above_of_isCommon {s : Scalar} (h : s.isCommon = true) (d : Nat) : s.above d = s := by
  cases s <;> first | rfl | cases h

/-- Nothing in the setting is in several places, and no key in it is the same only as itself. -/
inductive Setting.IsTree : Setting → Prop
  | scalar (s : Scalar) : IsTree (.scalar s)
  | sequence {items : List Setting} : (∀ v ∈ items, IsTree v) → IsTree (.sequence none items)
  | mapping {es : Entries} :
      (∀ e ∈ es, e.1.isCommon = true) → (∀ e ∈ es, IsTree e.2) → IsTree (.mapping none es)
  | pair {k v : Setting} : IsTree k → IsTree v → IsTree (.pair k v)
  | set {elements : List Scalar} : (∀ s ∈ elements, s.isCommon = true) → IsTree (.set elements)

/-- Nothing in the file is in several places, and no key in it is the same only as itself. -/
structure FileTree.IsTree (file : FileTree) : Prop where
  keys : ∀ e ∈ file.entries, e.1.isCommon = true
  entries : ∀ e ∈ file.entries, e.2.IsTree
  loops : file.loops = false

theorem Entries.shift_eq_self {es : Entries} (hkeys : ∀ e ∈ es, e.1.isCommon = true)
    (h : ∀ e ∈ es, e.2.shift d = e.2) : Entries.shift d es = es := by
  rw [shift_eq_map, List.map_congr_left fun e he => by
    rw [h e he, Scalar.above_of_isCommon (hkeys e he)], List.map_id']

/-- Where nothing is in several places, and no key the same only as itself, there are no numbers. -/
theorem Setting.IsTree.shift {v : Setting} (h : v.IsTree) (d : Nat) : v.shift d = v := by
  induction h with
  | scalar s => rfl
  | sequence _ ih =>
    rw [Setting.shift, shiftItems_eq_map, List.map_congr_left ih, List.map_id']
    rfl
  | mapping hkeys _ ih =>
    rw [Setting.shift, Entries.shift_eq_self hkeys ih]
    rfl
  | pair _ _ ihk ihv => rw [Setting.shift, ihk, ihv]
  | set h =>
    rw [Setting.shift, List.map_congr_left fun s hs => Scalar.above_of_isCommon (h s hs) d,
      List.map_id']

theorem FileTree.IsTree.shift {file : FileTree} (h : file.IsTree) (d : Nat) :
    file.shift d = { file with marks := file.marks + d } := by
  rw [FileTree.shift, Entries.shift_eq_self h.keys fun e he => (h.entries e he).shift d]

namespace Settings

/-- A file without numbers comes to the same tree when it is loaded again. -/
theorem loadFrom_of_isTree {first : Nat} {files : Files} {path : Option Text} {file : FileTree}
    (h : loadFrom first files path = .tree file) (hfile : file.IsTree) :
    ∃ marks, loadFrom file.marks files path = .tree { file with marks := marks } := by
  -- The marks are numbered from `first` on, so that the next file has its numbers behind those.
  obtain ⟨d, hd⟩ : ∃ d, file.marks = first + d := by
    have hzero := loadFrom_add (d := first) 0 files path
    rw [Nat.zero_add, h] at hzero
    cases hbase : loadFrom 0 files path with
    | tree base =>
      rw [hbase] at hzero
      cases hzero
      exact ⟨base.marks, Nat.add_comm _ _⟩
    | _ =>
      rw [hbase] at hzero
      cases hzero
  refine ⟨file.marks + d, ?_⟩
  rw [hd, loadFrom_add, h, Loaded.shift, hfile.shift, hd]

end Settings

end GridGauge
