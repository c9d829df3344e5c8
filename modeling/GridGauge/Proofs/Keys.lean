import GridGauge.Proofs.Attempts
import GridGauge.Settings.File

/-!
# Keys that are there once

Binding a key that is bound already gives it another value in its old place.
So bindings that come about by binding one key after the other have no key
twice (`Bindings.KeysDistinct`), and the value of a key is that of any binding
of it.

The mappings of a YAML text come about in this way. Unfolding them into a tree
leaves their keys as they are, in whatever place a mapping comes, and so does
opening a mapping that is inside of itself: in the tree of a file of settings
no mapping has a key twice (`Settings.hasDistinctKeys_of_loadFrom`).
-/

namespace GridGauge

namespace Bindings

variable {κ α β : Type} [BEq κ]

/-- No key is there twice. -/
def KeysDistinct (bs : Bindings κ α) : Prop :=
  (bs.map Prod.fst).Pairwise fun a b => (a == b) = false

instance (bs : Bindings κ α) : Decidable bs.KeysDistinct :=
  inferInstanceAs (Decidable (List.Pairwise _ _))

theorem keysDistinct_nil : KeysDistinct ([] : Bindings κ α) := List.Pairwise.nil

theorem keysDistinct_cons {b : κ × α} {bs : Bindings κ α} :
    KeysDistinct (b :: bs) ↔ (∀ b' ∈ bs, (b.1 == b'.1) = false) ∧ KeysDistinct bs := by
  simp [KeysDistinct, List.pairwise_cons]

/-- Only the keys matter. -/
theorem KeysDistinct.map {bs : Bindings κ α} (h : bs.KeysDistinct) (f : κ × α → κ × β)
    (hf : ∀ b ∈ bs, (f b).1 = b.1) : KeysDistinct (bs.map f) := by
  have : (bs.map f).map Prod.fst = bs.map Prod.fst := by
    rw [List.map_map]
    exact List.map_congr_left hf
  rwa [KeysDistinct, this]

theorem KeysDistinct.put {bs : Bindings κ α} (h : bs.KeysDistinct) (key : κ) (value : α) :
    (bs.put key value).KeysDistinct := by
  rw [Bindings.put]
  split
  · exact h.map _ fun b _ => by split <;> rfl
  · next hbound =>
    rw [has, List.any_eq_true] at hbound
    simp only [KeysDistinct, List.map_append, List.pairwise_append, List.map_cons, List.map_nil]
    refine ⟨h, List.pairwise_singleton _ _, ?_⟩
    simp only [List.mem_map, List.mem_singleton]
    rintro _ ⟨b, hb, rfl⟩ _ rfl
    exact Bool.eq_false_iff.2 fun heq => hbound ⟨b, hb, heq⟩

/-- Where no key is there twice, every binding counts. -/
theorem find?_of_mem [ReflBEq κ] {bs : Bindings κ α} (h : bs.KeysDistinct) {b : κ × α}
    (hb : b ∈ bs) : bs.find? b.1 = some b.2 := by
  induction bs with
  | nil => cases hb
  | cons c bs ih =>
    rw [keysDistinct_cons] at h
    rw [find?_cons]
    rcases List.mem_cons.1 hb with rfl | hb
    · simp
    · rw [h.1 b hb, if_neg Bool.false_ne_true, ih h.2 hb]

end Bindings

namespace Scalar

/-- What is taken for itself is taken for nothing else. -/
theorem eq_of_identity_eq_itself {s c : Scalar} (h : s.identity = .itself c) : s = c := by
  cases s with
  | float x =>
    rw [identity] at h
    cases hx : x.toInt? <;> simp_all
  | dateTime d =>
    rw [identity] at h
    cases hd : d.instant? <;> simp_all
  | _ => simp_all [identity]

/-- What is not a number is the same key only as itself. -/
theorem identity_eq_ownNaN_iff {s : Scalar} {number : Nat} :
    s.identity = .itself (.ownNaN number) ↔ s = .ownNaN number :=
  ⟨eq_of_identity_eq_itself, fun h => by subst h; rfl⟩

/-- Numbers of their own are counted from elsewhere on, and that makes no keys the same and no keys
    different. -/
theorem beq_above (first : Nat) (a b : Scalar) : (a.above first == b.above first) = (a == b) := by
  rw [Bool.eq_iff_iff, beq_iff_identity_eq, beq_iff_identity_eq]
  by_cases ha : ∃ n, a = .ownNaN n
  · obtain ⟨n, rfl⟩ := ha
    -- The other is the same only where it is this very one.
    rw [eq_comm, eq_comm (a := identity (.ownNaN n))]
    show _ = Identity.itself (.ownNaN (first + n)) ↔ _ = Identity.itself (.ownNaN n)
    rw [identity_eq_ownNaN_iff, identity_eq_ownNaN_iff]
    cases b <;> simp [above]
  · by_cases hb : ∃ n, b = .ownNaN n
    · obtain ⟨n, rfl⟩ := hb
      show _ = Identity.itself (.ownNaN (first + n)) ↔ _ = Identity.itself (.ownNaN n)
      rw [identity_eq_ownNaN_iff, identity_eq_ownNaN_iff]
      cases a <;> simp [above]
    · have above_eq : ∀ s : Scalar, (¬∃ n, s = .ownNaN n) → s.above first = s := fun s hs => by
        cases s <;> first | rfl | exact absurd ⟨_, rfl⟩ hs
      rw [above_eq a ha, above_eq b hb]

end Scalar

/-- Counting the numbers of keys from elsewhere on leaves the keys different. -/
theorem Bindings.KeysDistinct.above {α : Type} {bs : Bindings Scalar α} (h : bs.KeysDistinct)
    (first : Nat) : KeysDistinct (bs.map fun b => (b.1.above first, b.2)) := by
  rw [KeysDistinct, List.map_map, List.pairwise_map]
  exact (List.pairwise_map.1 h).imp fun hab => by rw [← hab]; exact Scalar.beq_above first _ _

/-! ## Trees -/

namespace Setting

/-- No mapping in the setting has a key twice. -/
inductive HasDistinctKeys : Setting → Prop
  | scalar {s : Scalar} : HasDistinctKeys (.scalar s)
  | again {n : Nat} {isMapping : Bool} : HasDistinctKeys (.again n isMapping)
  | sequence {mark : Option Mark} {items : List Setting} :
      (∀ v ∈ items, HasDistinctKeys v) → HasDistinctKeys (.sequence mark items)
  | mapping {mark : Option Mark} {es : Entries} :
      es.KeysDistinct → (∀ e ∈ es, HasDistinctKeys e.2) → HasDistinctKeys (.mapping mark es)
  | pair {k v : Setting} : HasDistinctKeys k → HasDistinctKeys v → HasDistinctKeys (.pair k v)
  | set {elements : List Scalar} : HasDistinctKeys (.set elements)

theorem fillItems_eq_map (number : Nat) (whole : Setting) (items : List Setting) :
    fillItems number whole items = items.map (fill number whole) := by
  induction items with
  | nil => rfl
  | cons v vs ih => rw [fillItems, ih, List.map_cons]

theorem fillEntries_eq_map (number : Nat) (whole : Setting) (es : Entries) :
    Entries.fill number whole es = es.map fun e => (e.1, fill number whole e.2) := by
  induction es with
  | nil => rfl
  | cons e es ih => rw [Entries.fill, ih, List.map_cons]

theorem HasDistinctKeys.fill {whole v : Setting} (hw : whole.HasDistinctKeys)
    (hv : v.HasDistinctKeys) (number : Nat) : (fill number whole v).HasDistinctKeys := by
  induction hv with
  | scalar => exact .scalar
  | again =>
    rw [Setting.fill]
    split
    · exact hw
    · exact .again
  | sequence h ih =>
    rw [Setting.fill]
    split
    · exact .sequence h
    · refine .sequence fun v hv => ?_
      rw [fillItems_eq_map, List.mem_map] at hv
      obtain ⟨v, hv, rfl⟩ := hv
      exact ih v hv
  | mapping hk h ih =>
    rw [Setting.fill]
    split
    · exact .mapping hk h
    · rw [fillEntries_eq_map]
      refine .mapping (hk.map _ fun _ _ => rfl) fun e he => ?_
      obtain ⟨e', he', rfl⟩ := List.mem_map.1 he
      exact ih e' he'
  | pair _ _ ihk ihv =>
    rw [Setting.fill]
    exact .pair ihk ihv
  | set =>
    rw [Setting.fill]
    exact .set

end Setting

namespace Entries

/-- No mapping in the tree has a key twice, nor has the tree itself. -/
structure HasDistinctKeys (es : Entries) : Prop where
  keys : es.KeysDistinct
  inside : ∀ e ∈ es, e.2.HasDistinctKeys

/-- What a key leads to is in the tree. -/
theorem HasDistinctKeys.of_find? {es : Entries} {key : Scalar} {v : Setting}
    (h : es.HasDistinctKeys) (hv : es.find? key = some v) : v.HasDistinctKeys := by
  obtain ⟨e, he, rfl⟩ := Option.map_eq_some_iff.1 hv
  exact h.inside e (List.mem_of_find?_eq_some he)

/-- To open a mapping repeats mappings in other places, and makes none with other keys. -/
theorem HasDistinctKeys.opened {mark : Option Mark} {es : Entries} (h : es.HasDistinctKeys) :
    (Entries.opened mark es).HasDistinctKeys := by
  unfold Entries.opened
  split
  · split
    · rw [Setting.fillEntries_eq_map]
      refine ⟨h.keys.map _ fun _ _ => rfl, fun e he => ?_⟩
      obtain ⟨e', he', rfl⟩ := List.mem_map.1 he
      exact (Setting.HasDistinctKeys.mapping h.keys h.inside).fill (h.inside e' he') _
    · exact h
  · exact h

end Entries

/-! ## What the nodes of a document hold -/

namespace Yaml

namespace Findings

/-- No mapping found so far has a key twice. -/
def HasDistinctKeys (f : Findings) : Prop :=
  ∀ id es, f.at? id = some (.mapping es) → es.KeysDistinct

variable {f g : Findings} {id : Nat}

theorem HasDistinctKeys.put (h : f.HasDistinctKeys) (id : Nat) {c : Content}
    (hc : ∀ es, c = .mapping es → es.KeysDistinct) : (f.put id c).HasDistinctKeys := by
  intro other es hes
  simp only [at?, Findings.put, Array.getD_eq_getD_getElem?, Array.getElem?_setIfInBounds] at hes
  split at hes
  · split at hes
    · exact hc es (by simpa using hes)
    · simp at hes
  · exact h other es (by rw [at?, Array.getD_eq_getD_getElem?]; exact hes)

theorem HasDistinctKeys.reach (h : f.HasDistinctKeys) (hg : f.reach id = .ok g) :
    g.HasDistinctKeys := by
  unfold Findings.reach at hg
  split at hg
  · cases hg
    exact h
  · split at hg
    · cases hg
    · cases hg
    · cases hg
    · obtain ⟨s, -, hg⟩ := exists_of_bind_eq_ok hg
      cases hg
      exact h.put id nofun
    · next type _ _ _ _ =>
      cases hg
      refine h.put id fun es hes => ?_
      cases type <;> cases hes
      exact Bindings.keysDistinct_nil

theorem HasDistinctKeys.reachKey (h : f.HasDistinctKeys) {s : Scalar}
    (hg : f.reachKey id = .ok (g, s)) : g.HasDistinctKeys := by
  obtain ⟨f', hf', hg⟩ := exists_of_bind_eq_ok hg
  split at hg <;> cases hg
  exact h.reach hf'

theorem HasDistinctKeys.reachPair (h : f.HasDistinctKeys) {pair : Item}
    (hg : f.reachPair id = .ok (g, pair)) : g.HasDistinctKeys := by
  unfold Findings.reachPair at hg
  split at hg
  · obtain ⟨f', hf', hg⟩ := exists_of_bind_eq_ok hg
    obtain ⟨f'', hf'', hg⟩ := exists_of_bind_eq_ok hg
    cases hg
    exact (h.reach hf').reach hf''
  · cases hg

theorem HasDistinctKeys.reachPairs (h : f.HasDistinctKeys) {items : List Nat} {pairs : List Item}
    (hg : f.reachPairs items = .ok (g, pairs)) : g.HasDistinctKeys := by
  refine foldlM_invariant (fun b : Findings × List Item => b.1.HasDistinctKeys) ?_ h hg
  rintro ⟨b, before⟩ id' b' hb hstep
  obtain ⟨⟨c, pair⟩, hc, hstep⟩ := exists_of_bind_eq_ok hstep
  cases hstep
  exact hb.reachPair hc

/-- The keys of a mapping are bound one after the other. -/
theorem HasDistinctKeys.reachEntries (h : f.HasDistinctKeys) {entries : Bindings Scalar Nat}
    (hg : f.reachEntries id = .ok (g, entries)) : g.HasDistinctKeys ∧ entries.KeysDistinct := by
  obtain ⟨nodes, -, hg⟩ := exists_of_bind_eq_ok hg
  obtain ⟨⟨nodes', es⟩, -, hg⟩ := exists_of_bind_eq_ok hg
  -- Two things are kept by each step: the mappings found so far, and the keys bound so far.
  refine foldlM_invariant (fun b : Findings × Bindings Scalar Nat =>
    b.1.HasDistinctKeys ∧ b.2.KeysDistinct) ?_ ⟨h, Bindings.keysDistinct_nil⟩ hg
  rintro ⟨b, bound⟩ ⟨k, v⟩ b' ⟨hb, hbound⟩ hstep
  obtain ⟨⟨c, key⟩, hc, hstep⟩ := exists_of_bind_eq_ok hstep
  obtain ⟨d, hd, hstep⟩ := exists_of_bind_eq_ok hstep
  cases hstep
  exact ⟨(hb.reachKey hc).reach hd, hbound.put key v⟩

theorem HasDistinctKeys.turn (h : f.HasDistinctKeys) (hg : f.turn id = .ok g) :
    g.HasDistinctKeys := by
  unfold Findings.turn at hg
  split at hg
  · obtain ⟨f', hf', hg⟩ := exists_of_bind_eq_ok hg
    cases hg
    exact HasDistinctKeys.put
      (foldlM_invariant _ (fun _ _ _ hb hstep => hb.reach hstep) h hf') id nofun
  · obtain ⟨⟨f', pairs⟩, hf', hg⟩ := exists_of_bind_eq_ok hg
    cases hg
    exact (h.reachPairs hf').put id nofun
  · obtain ⟨⟨f', entries⟩, hf', hg⟩ := exists_of_bind_eq_ok hg
    cases hg
    obtain ⟨hf', hentries⟩ := h.reachEntries hf'
    refine hf'.put id fun es hes => ?_
    cases hes
    exact hentries
  · obtain ⟨⟨f', entries⟩, hf', hg⟩ := exists_of_bind_eq_ok hg
    cases hg
    exact (h.reachEntries hf').1.put id nofun
  · cases hg

theorem HasDistinctKeys.finish (h : f.HasDistinctKeys) {fuel place : Nat}
    (hg : Findings.finish fuel place f = .ok g) : g.HasDistinctKeys := by
  induction fuel generalizing place f with
  | zero => cases hg; exact h
  | succ fuel ih =>
    unfold Findings.finish at hg
    split at hg
    · obtain ⟨f', hf', hg⟩ := exists_of_bind_eq_ok hg
      exact ih (h.turn hf') hg
    · cases hg
      exact h

theorem hasDistinctKeys_of_ofDocument {d : Document} (h : ofDocument d = .ok f) :
    f.HasDistinctKeys := by
  obtain ⟨f', hf', h⟩ := exists_of_bind_eq_ok h
  refine HasDistinctKeys.finish (HasDistinctKeys.reach ?_ hf') h
  intro id es hes
  simp only [at?, Array.getD_eq_getD_getElem?, Array.getElem?_replicate] at hes
  split at hes <;> simp at hes

end Findings

/-! ## Unfolding -/

/-- No mapping in what has been unfolded has a key twice. -/
def Unfolded.HasDistinctKeys (u : Unfolded) : Prop :=
  ∀ id v, u.settings.getD id none = some v → v.HasDistinctKeys

/-- The step makes something of the kind `P`, and of what has been unfolded no mapping gets a key
    twice. -/
def Unfolds {α : Type} (m : StateM Unfolded α) (P : α → Prop) : Prop :=
  ∀ u : Unfolded, u.HasDistinctKeys → P (m.run u).1 ∧ (m.run u).2.HasDistinctKeys

namespace Unfolds

variable {α β : Type} {P : α → Prop} {Q : β → Prop}

theorem pure {a : α} (h : P a) : Unfolds (Pure.pure a) P := fun _ hu => ⟨h, hu⟩

theorem bind {m : StateM Unfolded α} {f : α → StateM Unfolded β} (hm : Unfolds m P)
    (hf : ∀ a, P a → Unfolds (f a) Q) : Unfolds (m >>= f) Q := fun u hu =>
  hf _ (hm u hu).1 _ (hm u hu).2

theorem get : Unfolds get Unfolded.HasDistinctKeys := fun _ hu => ⟨hu, hu⟩

theorem modify {f : Unfolded → Unfolded} (hf : ∀ u, u.HasDistinctKeys → (f u).HasDistinctKeys) :
    Unfolds (modify f) fun _ => True := fun u hu => ⟨trivial, hf u hu⟩

/-- Whatever the items have in common with what is made of them, the lists have in common. -/
theorem mapM {γ : Type} {f : β → StateM Unfolded α} (key : α → γ) (key' : β → γ) (P : α → Prop)
    (hf : ∀ b, Unfolds (f b) fun a => key a = key' b ∧ P a) (l : List β) :
    Unfolds (l.mapM f) fun as => as.map key = l.map key' ∧ ∀ a ∈ as, P a := by
  induction l with
  | nil => exact pure ⟨rfl, nofun⟩
  | cons b l ih =>
    rw [List.mapM_cons]
    refine (hf b).bind fun a ha => ih.bind fun as has => pure ⟨?_, ?_⟩
    · rw [List.map_cons, List.map_cons, ha.1, has.1]
    · exact List.forall_mem_cons.2 ⟨ha.2, has.2⟩

end Unfolds

/-- What is found after a setting has been stored is that setting, or was there before. -/
theorem Unfolded.eq_or_of_store {u : Unfolded} {id other : Nat} {v w : Setting}
    (h : (u.settings.setIfInBounds id (some v)).getD other none = some w) :
    v = w ∨ u.settings.getD other none = some w := by
  simp only [Array.getD_eq_getD_getElem?, Array.getElem?_setIfInBounds] at h
  split at h
  · split at h
    · exact .inl (by simpa using h)
    · simp at h
  · exact .inr (by rw [Array.getD_eq_getD_getElem?]; exact h)

/-- Before anything has been unfolded nothing is found. -/
theorem Unfolded.getD_replicate_ne_some (n id : Nat) (v : Setting) :
    (Array.replicate n (none : Option Setting)).getD id none ≠ some v := by
  simp only [Array.getD_eq_getD_getElem?, Array.getElem?_replicate]
  split <;> simp

theorem Unfolded.HasDistinctKeys.store {u : Unfolded} (h : u.HasDistinctKeys) (id : Nat)
    {v : Setting} (hv : v.HasDistinctKeys) :
    HasDistinctKeys { u with settings := u.settings.setIfInBounds id (some v) } :=
  fun other w hw => by
  rcases eq_or_of_store hw with rfl | hold
  · exact hv
  · exact h other w hold

theorem settle_unfolds {mark : Option Nat} {id : Nat} {again : List Nat}
    {setting : Option Mark → Setting} (h : ∀ m, (setting m).HasDistinctKeys) :
    Unfolds (settle mark id again setting) fun r => r.1.HasDistinctKeys := by
  unfold settle
  refine .bind (.modify fun u hu => hu) fun _ _ => ?_
  split
  · exact .bind (.modify fun u hu => hu.store id (h _)) fun _ _ => .pure (h _)
  · exact .pure (h _)

/-- Unfolding leaves the keys of mappings as they are. -/
theorem unfold_unfolds {f : Findings} (hf : f.HasDistinctKeys) (places : Array Nat)
    (first depth : Nat) (isShared : Bool) (outer : List Nat) (id : Nat) :
    Unfolds (unfold f places first depth isShared outer id) fun r => r.1.HasDistinctKeys := by
  induction depth generalizing isShared outer id with
  | zero => exact .pure .scalar
  | succ depth ih =>
    unfold unfold
    refine .bind .get fun u hu => ?_
    split
    · next v hv => exact .pure (hu id v hv)
    split
    · exact .pure .scalar
    · exact .pure .scalar
    · exact .pure .set
    · next items _ =>
      split
      · exact .pure .again
      refine .bind (.mapM (fun _ => ()) (fun _ => ()) (fun r => r.1.HasDistinctKeys)
        ?_ items) fun items' hitems => ?_
      · rintro (id' | ⟨k, v⟩)
        · exact fun u hu => ⟨⟨rfl, (ih _ _ id' u hu).1⟩, (ih _ _ id' u hu).2⟩
        · exact (ih _ _ k).bind fun rk hk => (ih _ _ v).bind fun rv hv =>
            .pure ⟨rfl, .pair hk hv⟩
      refine settle_unfolds fun m => .sequence fun v hv => ?_
      obtain ⟨r, hr, rfl⟩ := List.mem_map.1 hv
      exact hitems.2 r hr
    · next es hes =>
      split
      · exact .pure .again
      refine .bind (.mapM Prod.fst (fun e => e.1.above first) (fun e => e.2.1.HasDistinctKeys)
        ?_ es) ?_
      · rintro ⟨k, v⟩
        exact (ih _ _ v).bind fun r hr => .pure ⟨rfl, hr⟩
      intro es' hes'
      refine settle_unfolds fun m => .mapping ?_ fun e he => ?_
      · -- The values have been unfolded, under the keys that the node has.
        have keys := (hf id es hes).above first
        rw [Bindings.KeysDistinct, List.map_map, Function.comp_def, ← hes'.1] at keys
        rw [Bindings.KeysDistinct, List.map_map]
        exact keys
      · obtain ⟨r, hr, rfl⟩ := List.mem_map.1 he
        exact hes'.2 r hr

/-- In what a YAML text sets no mapping has a key twice. -/
theorem hasDistinctKeys_of_read {first : Nat} {isCut : Bool} {t : Text} {o : Outcome}
    (h : read first isCut t = .ok o) : o.setting.HasDistinctKeys := by
  obtain ⟨d, -, h⟩ := exists_of_bind_eq_ok h
  split at h
  · next d =>
    obtain ⟨f, hf, h⟩ := exists_of_bind_eq_ok h
    have fresh : Unfolded.HasDistinctKeys ⟨Array.replicate d.nodes.size none, false⟩ :=
      fun id v hv => absurd hv (Unfolded.getD_replicate_ne_some _ id v)
    have kept := unfold_unfolds (Findings.hasDistinctKeys_of_ofDocument hf) (f.places d.root) first
      (d.nodes.size + 1) false [] d.root _ fresh
    cases h
    exact kept.1
  · cases h
    exact .scalar

end Yaml

namespace Settings

theorem exists_read_of_ofContent {first : Nat} {path : Text} {content : Bytes} {file : FileTree}
    (h : ofContent first path content = .tree file) :
    ∃ isCut t mark es, Yaml.read first isCut t = .ok ⟨.mapping mark es, file.marks, file.loops⟩ ∧
      file.entries = Entries.opened mark es := by
  unfold ofContent at h
  simp only at h
  split at h
  · next e _ =>
    unfold ofFailure at h
    split at h
    all_goals try split at h
    all_goals cases h
  · next hread =>
    cases h
    exact ⟨_, _, _, _, hread, rfl⟩
  · cases h

theorem exists_read_of_loadFirst {first : Nat} {files : Files} {paths : List Text}
    {file : FileTree} (h : loadFirst first files paths = .tree file) :
    ∃ isCut t mark es, Yaml.read first isCut t = .ok ⟨.mapping mark es, file.marks, file.loops⟩ ∧
      file.entries = Entries.opened mark es := by
  induction paths with
  | nil => cases h
  | cons path paths ih =>
    rw [loadFirst] at h
    split at h
    · exact ih h
    · unfold loadPath at h
      simp only at h
      split at h <;> try cases h
      exact exists_read_of_ofContent h

/-- The tree of a file of settings is that of a YAML text. -/
theorem exists_read_of_loadFrom {first : Nat} {files : Files} {path : Option Text}
    {file : FileTree} (h : loadFrom first files path = .tree file) :
    ∃ isCut t mark es, Yaml.read first isCut t = .ok ⟨.mapping mark es, file.marks, file.loops⟩ ∧
      file.entries = Entries.opened mark es := by
  rw [loadFrom] at h
  split at h
  · exact exists_read_of_loadFirst h
  · cases h

/-- In the tree of a file of settings no mapping has a key twice. -/
theorem hasDistinctKeys_of_loadFrom {first : Nat} {files : Files} {path : Option Text}
    {file : FileTree} (h : loadFrom first files path = .tree file) :
    file.entries.HasDistinctKeys := by
  obtain ⟨isCut, t, mark, es, hread, hentries⟩ := exists_read_of_loadFrom h
  rw [hentries]
  cases Yaml.hasDistinctKeys_of_read hread with
  | mapping hk hi => exact Entries.HasDistinctKeys.opened ⟨hk, hi⟩

end Settings

end GridGauge
