import GridGauge.Proofs.Laying

/-!
# Trees laid over one another in turn

A tree is settled by its keys in order and by what each of them leads to
(`Bindings.eq_of_keys`), and merging is settled for each key on its own: the
keys of the upper tree that are new come behind those of the lower one
(`Entries.keys_merge`), and what a key leads to comes of what it leads to in
the two trees (`Setting.overlay`). So the laws of merging are proved for one
key, by induction on what the uppermost tree has there.

Of three trees it does not count which two are merged first, unless the one in
the middle has something that is no mapping where both of the others have one
(`Entries.merge_assoc`): the middle tree taken first hides a mapping of the
lower one, which it does not once it has been overridden itself. A tree that is
merged in again changes nothing, and neither do two that are merged in again in
turn (`Entries.merge_again`, `Entries.merge_merge_again`), but for marks:
merging two mappings makes a new one.
-/

namespace GridGauge

/-! ## Keys -/

namespace Bindings

variable {κ α : Type} [BEq κ] {as bs : Bindings κ α} {key : κ}

/-- The keys, in order. -/
def keys (bs : Bindings κ α) : List κ := bs.map Prod.fst

theorem has_of_mem_keys [ReflBEq κ] (h : key ∈ bs.keys) : bs.has key = true := by
  obtain ⟨b, hb, rfl⟩ := List.mem_map.1 h
  exact List.any_eq_true.2 ⟨b, hb, BEq.refl b.1⟩

theorem keys_put (bs : Bindings κ α) (key : κ) (value : α) :
    (bs.put key value).keys = if bs.has key then bs.keys else bs.keys ++ [key] := by
  unfold put keys
  split
  · rw [List.map_map]
    refine List.map_congr_left fun b _ => ?_
    rw [Function.comp_apply]
    split <;> rfl
  · rw [List.map_append]
    rfl

/-- Bindings are settled by their keys and by what these lead to. -/
theorem eq_of_keys [ReflBEq κ] (ha : as.KeysDistinct) (hkeys : as.keys = bs.keys)
    (h : ∀ key, as.find? key = bs.find? key) : as = bs := by
  have hfound : ∀ a ∈ as, bs.find? a.1 = some a.2 := fun a hmem => by
    rw [← h, find?_of_mem ha hmem]
  clear h
  induction as generalizing bs with
  | nil => exact (List.map_eq_nil_iff.1 hkeys.symm).symm
  | cons a as ih =>
    cases bs with
    | nil => cases hkeys
    | cons b bs =>
      obtain ⟨hkey, hrest⟩ := List.cons.inj hkeys
      have hhead := hfound a List.mem_cons_self
      rw [find?_cons, hkey, if_pos (BEq.refl b.1), Option.some.injEq] at hhead
      rw [keysDistinct_cons] at ha
      rw [ih ha.2 hrest fun a' ha' => ?_, Prod.ext hkey hhead.symm]
      have hfound' := hfound a' (List.mem_cons_of_mem _ ha')
      rwa [find?_cons, ← hkey, ha.1 a' ha', if_neg Bool.false_ne_true] at hfound'

end Bindings

namespace Setting

/-- What is in a place where a tree is laid over another one. -/
def overlay (lower upper : Option Setting) : Option Setting :=
  (upper.map fun v => v.over lower).or lower

@[simp] theorem overlay_none (lower : Option Setting) : overlay lower none = lower := rfl

@[simp] theorem overlay_some (lower : Option Setting) (v : Setting) :
    overlay lower (some v) = some (v.over lower) := rfl

@[simp] theorem none_overlay (upper : Option Setting) : overlay none upper = upper := by
  cases upper with
  | none => rfl
  | some v => rw [overlay_some, over_none]

end Setting

namespace Entries

open Setting

variable {a b c lower upper : Entries} {key : Scalar}

theorem find?_merge_eq_overlay (hu : upper.KeysDistinct) (lower : Entries) (key : Scalar) :
    (lower.merge upper).find? key = overlay (lower.find? key) (upper.find? key) :=
  find?_merge hu key

theorem has_merge (hu : upper.KeysDistinct) (lower : Entries) (key : Scalar) :
    (lower.merge upper).has key = (lower.has key || upper.has key) := by
  simp only [Bindings.has_eq_isSome_find?, find?_merge_eq_overlay hu]
  cases upper.find? key <;> simp

/-- The keys of the upper tree that are new come behind those of the lower one. -/
theorem keys_merge (hu : upper.KeysDistinct) (lower : Entries) :
    (lower.merge upper).keys = lower.keys ++ upper.keys.filter fun key => !lower.has key := by
  induction upper generalizing lower with
  | nil => exact (List.append_nil _).symm
  | cons e upper ih =>
    have hrest : ∀ key ∈ Bindings.keys upper,
        (lower.put e.1 (e.2.over (lower.find? e.1))).has key = lower.has key := by
      intro key hkey
      obtain ⟨e', he', rfl⟩ := List.mem_map.1 hkey
      rw [Bindings.has_eq_isSome_find?, find?_put_of_distinct hu he',
        ← Bindings.has_eq_isSome_find?]
    rw [merge_cons, ih (Bindings.keysDistinct_cons.1 hu).2, Bindings.keys_put,
      List.filter_congr fun key hkey => congrArg _ (hrest key hkey)]
    show _ = lower.keys ++ (e.1 :: Bindings.keys upper).filter _
    rw [List.filter_cons]
    cases lower.has e.1 with
    | true => rfl
    | false => exact List.append_assoc _ _ _

/-- No key is new where all keys of the upper tree are in the lower one. -/
theorem keys_merge_of_has (hu : upper.KeysDistinct) (h : ∀ key, upper.has key → lower.has key) :
    (lower.merge upper).keys = lower.keys := by
  rw [keys_merge hu, List.filter_eq_nil_iff.2, List.append_nil]
  intro key hkey
  simp [h key (Bindings.has_of_mem_keys hkey)]

end Entries

/-! ## Three trees -/

namespace Setting

/-- The setting that keys lead to, one after the other. -/
def along : Setting → List Scalar → Option Setting
  | v, [] => some v
  | .mapping _ es, key :: keys => (Bindings.find? es key).bind fun v => v.along keys
  | _, _ :: _ => none

/-- Wherever both `lower` and `upper` have a mapping, `middle` has one as well, or nothing. -/
def Bridges (middle lower upper : Setting) : Prop :=
  ∀ keys l inner u outer v, lower.along keys = some (.mapping l inner) →
    upper.along keys = some (.mapping u outer) → middle.along keys = some v →
    ∃ m es, v = .mapping m es

variable {lower middle upper : Setting}

/-- A mapping bridges two others if each setting in it bridges those at its key. -/
theorem Bridges.mapping {m l u : Option Mark} {inner es outer : Entries}
    (h : ∀ e ∈ es, ∀ x z, inner.find? e.1 = some x → outer.find? e.1 = some z → e.2.Bridges x z) :
    (Setting.mapping m es).Bridges (.mapping l inner) (.mapping u outer) := by
  intro keys l' inner' u' outer' v hl hu hm
  cases keys with
  | nil => exact ⟨m, es, (Option.some.inj hm).symm⟩
  | cons key keys =>
    rw [along] at hl hu hm
    obtain ⟨x, hx, hl⟩ := Option.bind_eq_some_iff.1 hl
    obtain ⟨z, hz, hu⟩ := Option.bind_eq_some_iff.1 hu
    obtain ⟨y, hy, hm⟩ := Option.bind_eq_some_iff.1 hm
    obtain ⟨e, he, rfl⟩ := Option.map_eq_some_iff.1 hy
    have hkey : (e.1 == key) = true :=
      List.find?_some (p := fun b : Scalar × Setting => b.1 == key) he
    rw [← Bindings.find?_congr inner hkey] at hx
    rw [← Bindings.find?_congr outer hkey] at hz
    exact h e (List.mem_of_find?_eq_some he) x z hx hz keys l' inner' u' outer' v hl hu hm

/-- There is nothing to bridge where the lower setting is a scalar. -/
theorem bridges_of_scalar (s : Scalar) : middle.Bridges (.scalar s) upper := by
  intro keys l inner u outer v hl
  cases keys <;> cases hl

/-- What bridges two mappings is a mapping, of settings that bridge what is in them. -/
theorem Bridges.of_mapping {l u : Option Mark} {inner outer : Entries}
    (h : middle.Bridges (.mapping l inner) (.mapping u outer)) :
    ∃ m es, middle = .mapping m es ∧ ∀ key x y z, inner.find? key = some x →
      Bindings.find? es key = some y → outer.find? key = some z → y.Bridges x z := by
  obtain ⟨m, es, rfl⟩ := h [] l inner u outer middle rfl rfl rfl
  refine ⟨m, es, rfl, fun key x y z hx hy hz keys l' inner' u' outer' v hl hu hm => ?_⟩
  refine h (key :: keys) l' inner' u' outer' v ?_ ?_ ?_
  · rwa [along, hx]
  · rwa [along, hz]
  · rwa [along, hy]

end Setting

namespace Entries

open Setting

variable {a b c : Entries}

/-- It does not count which two of three trees are merged first if it does not for any key. -/
theorem merge_assoc_of (ha : a.KeysDistinct) (hb : b.KeysDistinct) (hc : c.KeysDistinct)
    (h : ∀ key, overlay (overlay (a.find? key) (b.find? key)) (c.find? key)
      = overlay (a.find? key) (overlay (b.find? key) (c.find? key))) :
    (a.merge b).merge c = a.merge (b.merge c) := by
  have hbc : (b.merge c).KeysDistinct := keysDistinct_merge hb
  refine Bindings.eq_of_keys (keysDistinct_merge (keysDistinct_merge ha)) ?_ fun key => ?_
  · have hnew : (fun key => !(a.merge b).has key) = fun key => !a.has key && !b.has key := by
      funext key
      rw [has_merge hb, Bool.not_or]
    rw [keys_merge hc, keys_merge hb, keys_merge hbc, keys_merge hc, List.filter_append,
      List.filter_filter, List.append_assoc, hnew]
  · simp only [find?_merge_eq_overlay hb, find?_merge_eq_overlay hc, find?_merge_eq_overlay hbc, h]

end Entries

namespace Setting

open Entries

variable {lower middle upper : Setting}

/-- Of three settings laid over one another it does not count which two are taken first, where the
    middle one bridges the others. -/
theorem over_assoc (hl : lower.HasDistinctKeys) (hm : middle.HasDistinctKeys)
    (hu : upper.HasDistinctKeys) (h : middle.Bridges lower upper) :
    upper.over (some (middle.over (some lower)))
      = (upper.over (some middle)).over (some lower) := by
  induction hu generalizing lower middle with
  | @mapping u outer hukeys _ ih =>
    by_cases hmapping : ∃ l inner, lower = .mapping l inner
    · obtain ⟨l, inner, rfl⟩ := hmapping
      obtain ⟨m, es, rfl, hinside⟩ := h.of_mapping
      cases hl with
      | mapping hlkeys hlinside =>
        cases hm with
        | mapping hmkeys hminside =>
          refine congrArg Setting.ofEntries (merge_assoc_of hlkeys hmkeys hukeys fun key => ?_)
          cases hz : Bindings.find? outer key with
          | none => rw [overlay_none, overlay_none]
          | some z =>
            cases hy : Bindings.find? es key with
            | none => simp only [overlay_none, none_overlay]
            | some y =>
              cases hx : Bindings.find? inner key with
              | none => simp only [none_overlay]
              | some x =>
                obtain ⟨e, he, rfl⟩ := Option.map_eq_some_iff.1 hz
                have hx' := HasDistinctKeys.of_find? ⟨hlkeys, hlinside⟩ hx
                have hy' := HasDistinctKeys.of_find? ⟨hmkeys, hminside⟩ hy
                have hbridges := hinside key x y _ hx hy hz
                exact congrArg some (ih e (List.mem_of_find?_eq_some he) hx' hy' hbridges)
    · have hself (v : Setting) : v.over (some lower) = v :=
        over_eq_self fun l inner _ _ hw => absurd ⟨l, inner, Option.some.inj hw⟩ hmapping
      rw [hself, hself]
  | _ => rfl

end Setting

/-- Of three trees it does not count which two are merged first, where the middle one bridges the
    others. -/
theorem Entries.merge_assoc {a b c : Entries} (ha : a.HasDistinctKeys) (hb : b.HasDistinctKeys)
    (hc : c.HasDistinctKeys) (h : (Setting.ofEntries b).Bridges (.ofEntries a) (.ofEntries c)) :
    (a.merge b).merge c = a.merge (b.merge c) :=
  (Setting.mapping.inj (Setting.over_assoc (.mapping ha.keys ha.inside) (.mapping hb.keys hb.inside)
    (.mapping hc.keys hc.inside) h)).2

/-! ## Merging again -/

mutual

/-- The setting without the marks of the mappings that keys lead to. -/
def Setting.unmarked : Setting → Setting
  | .mapping _ es => .mapping none (Entries.unmarked es)
  | .scalar s => .scalar s
  | .sequence mark items => .sequence mark items
  | .again number isMapping => .again number isMapping
  | .pair k v => .pair k v
  | .set elements => .set elements

/-- The entries without the marks of the mappings that keys lead to. -/
def Entries.unmarked : Entries → Entries
  | [] => []
  | (key, v) :: es => (key, Setting.unmarked v) :: Entries.unmarked es

end

namespace Entries

variable {es fs : Entries}

theorem unmarked_eq_map (es : Entries) : unmarked es = es.map fun e => (e.1, e.2.unmarked) := by
  induction es with
  | nil => rfl
  | cons e es ih => rw [unmarked, ih, List.map_cons]

theorem find?_unmarked (es : Entries) (key : Scalar) :
    Bindings.find? (unmarked es) key = (es.find? key).map Setting.unmarked := by
  rw [unmarked_eq_map, Bindings.find?_mapValues]

theorem keys_unmarked (es : Entries) : Bindings.keys (unmarked es) = es.keys := by
  rw [unmarked_eq_map, Bindings.keys, List.map_map]
  rfl

/-- Marks apart, trees are the same if they have the same keys in order and these lead to the
    same. -/
theorem unmarked_eq_of (hes : es.KeysDistinct) (hkeys : es.keys = fs.keys)
    (h : ∀ key, (es.find? key).map Setting.unmarked = (fs.find? key).map Setting.unmarked) :
    unmarked es = unmarked fs := by
  refine Bindings.eq_of_keys ?_ ?_ fun key => ?_
  · rw [unmarked_eq_map]
    exact hes.mapValues _
  · rw [keys_unmarked, keys_unmarked, hkeys]
  · rw [find?_unmarked, find?_unmarked, h]

/-- The entries of a mapping, none of anything else. -/
def entriesOf : Option Setting → Entries
  | some (.mapping _ es) => es
  | _ => []

theorem below_eq_entriesOf (es : Entries) (name : Text) :
    es.below name = entriesOf (es.named? name) := rfl

theorem hasDistinctKeys_entriesOf {w : Option Setting} (h : ∀ x ∈ w, x.HasDistinctKeys) :
    (entriesOf w).HasDistinctKeys := by
  unfold entriesOf
  split
  · cases h _ rfl with
    | mapping hkeys hinside => exact ⟨hkeys, hinside⟩
  · exact ⟨Bindings.keysDistinct_nil, nofun⟩

/-- A mapping that is laid over anything has its entries merged into those that are there. -/
theorem exists_mapping_over {es : Entries} (hes : es.KeysDistinct) (mark : Option Mark)
    (w : Option Setting) :
    ∃ m, (Setting.mapping mark es).over w = .mapping m ((entriesOf w).merge es) := by
  have hnil : Setting.mapping mark es = .mapping mark (Entries.merge [] es) := by
    rw [merge_nil_left hes]
  cases w with
  | none => exact ⟨mark, hnil⟩
  | some w =>
    cases w with
    | mapping l lower => exact ⟨none, rfl⟩
    | scalar | again | sequence | pair | set => exact ⟨mark, hnil⟩

theorem entriesOf_mapping_over {mark : Option Mark} {es : Entries} (hes : es.KeysDistinct)
    (w : Option Setting) :
    entriesOf (some ((Setting.mapping mark es).over w)) = (entriesOf w).merge es := by
  obtain ⟨m, hm⟩ := exists_mapping_over hes mark w
  rw [hm, entriesOf]

theorem unmarked_mapping_over {mark : Option Mark} {es : Entries} (hes : es.KeysDistinct)
    (w : Option Setting) :
    ((Setting.mapping mark es).over w).unmarked
      = .mapping none (unmarked ((entriesOf w).merge es)) := by
  obtain ⟨m, hm⟩ := exists_mapping_over hes mark w
  rw [hm, Setting.unmarked]

variable {a b c : Entries}

/-- A tree that is merged in again changes nothing but for marks, if it does not for any key. -/
theorem merge_again_of (ha : a.HasDistinctKeys) (hb : b.HasDistinctKeys)
    (h : ∀ e ∈ b, ∀ w : Option Setting, (∀ x ∈ w, x.HasDistinctKeys) →
      (e.2.over (some (e.2.over w))).unmarked = (e.2.over w).unmarked) :
    unmarked ((a.merge b).merge b) = unmarked (a.merge b) := by
  refine unmarked_eq_of (keysDistinct_merge (keysDistinct_merge ha.keys)) ?_ fun key => ?_
  · exact keys_merge_of_has hb.keys fun key hkey => by rw [has_merge hb.keys, hkey, Bool.or_true]
  · simp only [find?_merge_eq_overlay hb.keys]
    cases hv : b.find? key with
    | none => rfl
    | some v =>
      obtain ⟨e, he, rfl⟩ := Option.map_eq_some_iff.1 hv
      exact congrArg some (h e (List.mem_of_find?_eq_some he) _ fun x hx => ha.of_find? hx)

end Entries

/-- A setting that is laid over itself again changes nothing but for marks. -/
theorem Setting.over_again {v : Setting} (hv : v.HasDistinctKeys) {w : Option Setting}
    (hw : ∀ x ∈ w, x.HasDistinctKeys) :
    (v.over (some (v.over w))).unmarked = (v.over w).unmarked := by
  induction hv generalizing w with
  | mapping hkeys hinside ih =>
    rw [Entries.unmarked_mapping_over hkeys, Entries.unmarked_mapping_over hkeys,
      Entries.entriesOf_mapping_over hkeys,
      Entries.merge_again_of (Entries.hasDistinctKeys_entriesOf hw) ⟨hkeys, hinside⟩
        fun e he _ hx => ih e he hx]
  | _ => rfl

namespace Entries

open Setting

variable {a b c : Entries}

/-- A tree that is merged in again changes nothing but for marks. -/
theorem merge_again (ha : a.HasDistinctKeys) (hb : b.HasDistinctKeys) :
    unmarked ((a.merge b).merge b) = unmarked (a.merge b) :=
  merge_again_of ha hb fun e he _ hx => over_again (hb.inside e he) hx

/-- Two trees that are merged in again in turn change nothing but for marks, if they do not for any
    key. -/
theorem merge_merge_again_of (ha : a.HasDistinctKeys) (hb : b.HasDistinctKeys)
    (hc : c.HasDistinctKeys)
    (h : ∀ e ∈ c, ∀ v : Setting, v.HasDistinctKeys → ∀ w : Option Setting,
      (∀ x ∈ w, x.HasDistinctKeys) →
      (e.2.over (some (v.over (some (e.2.over (some (v.over w))))))).unmarked
        = (e.2.over (some (v.over w))).unmarked) :
    unmarked ((((a.merge b).merge c).merge b).merge c) = unmarked ((a.merge b).merge c) := by
  have hbkeys := hb.keys
  have hckeys := hc.keys
  refine unmarked_eq_of ?_ ?_ fun key => ?_
  · exact keysDistinct_merge (keysDistinct_merge (keysDistinct_merge (keysDistinct_merge ha.keys)))
  · rw [keys_merge_of_has hckeys, keys_merge_of_has hbkeys]
    all_goals
      intro key hkey
      simp only [has_merge hbkeys, has_merge hckeys, hkey, Bool.or_true, Bool.true_or]
  · simp only [find?_merge_eq_overlay hbkeys, find?_merge_eq_overlay hckeys]
    have hx : ∀ x ∈ a.find? key, x.HasDistinctKeys := fun x hx => ha.of_find? hx
    cases hy : b.find? key with
    | none =>
      cases hz : c.find? key with
      | none => rfl
      | some z => exact congrArg some (over_again (hc.of_find? hz) hx)
    | some y =>
      cases hz : c.find? key with
      | none => exact congrArg some (over_again (hb.of_find? hy) hx)
      | some z =>
        obtain ⟨e, he, rfl⟩ := Option.map_eq_some_iff.1 hz
        exact congrArg some (h e (List.mem_of_find?_eq_some he) y (hb.of_find? hy) _ hx)

end Entries

open Entries in
/-- Two settings that are laid over one another again in turn change nothing but for marks. -/
theorem Setting.over_over_again {u : Setting} (hu : u.HasDistinctKeys) {v : Setting}
    (hv : v.HasDistinctKeys) {w : Option Setting} (hw : ∀ x ∈ w, x.HasDistinctKeys) :
    (u.over (some (v.over (some (u.over (some (v.over w))))))).unmarked
      = (u.over (some (v.over w))).unmarked := by
  induction hu generalizing v w with
  | @mapping mark es hkeys hinside ih =>
    cases hv with
    | mapping hvkeys hvinside =>
      simp only [unmarked_mapping_over hkeys, entriesOf_mapping_over hkeys,
        entriesOf_mapping_over hvkeys]
      rw [merge_merge_again_of (hasDistinctKeys_entriesOf hw) ⟨hvkeys, hvinside⟩ ⟨hkeys, hinside⟩
        fun e he _ hv _ hx => ih e he hv hx]
    | _ => rfl
  | _ => rfl

/-- Two trees that are merged in again in turn change nothing but for marks. -/
theorem Entries.merge_merge_again {a b c : Entries} (ha : a.HasDistinctKeys)
    (hb : b.HasDistinctKeys) (hc : c.HasDistinctKeys) :
    unmarked ((((a.merge b).merge c).merge b).merge c) = unmarked ((a.merge b).merge c) :=
  merge_merge_again_of ha hb hc fun e he _ hv _ hx => Setting.over_over_again (hc.inside e he) hv hx

/-! ## The laws -/

namespace Entries

variable {a b c : Entries}

/-- Of three trees it does not count which two are merged first, where the middle one bridges the
    others; merging with no entries changes nothing; and a tree that is merged in again changes
    nothing but for marks. -/
theorem merge_laws (ha : a.HasDistinctKeys) (hb : b.HasDistinctKeys) (hc : c.HasDistinctKeys) :
    ((Setting.ofEntries b).Bridges (.ofEntries a) (.ofEntries c) →
      (a.merge b).merge c = a.merge (b.merge c)) ∧
    Entries.merge [] a = a ∧ a.merge [] = a ∧
    unmarked ((a.merge b).merge b) = unmarked (a.merge b) :=
  ⟨merge_assoc ha hb hc, merge_nil_left ha.keys, rfl, merge_again ha hb⟩

/-- A section that is left empty between two mappings hides the lower one if it is merged over it
    first, and otherwise it has been overridden before. -/
example :
    let hub (name : Text) : Entries :=
      [(.text "hub", .ofEntries [(.text name, .scalar (.int 1))])]
    let empty : Entries := [(.text "hub", .scalar .null)]
    ((hub "url").merge empty).merge (hub "port")
      ≠ (hub "url").merge (empty.merge (hub "port")) := by
  decide

/-- No default is there twice. -/
theorem hasDistinctKeys_defaultEntries : defaultEntries.HasDistinctKeys := by
  have hset : ∀ (ks : List SettingKey) (es : Entries), es.HasDistinctKeys →
      (ks.foldl (fun es k => es.set k.default k.path) es).HasDistinctKeys := by
    intro ks
    induction ks with
    | nil => exact fun es h => h
    | cons k ks ih =>
      have hdefault : k.default.HasDistinctKeys := by cases k <;> exact .scalar
      exact fun es h => ih _ (h.set hdefault k.path)
  exact hset _ [] ⟨Bindings.keysDistinct_nil, nofun⟩

/-- Of the defaults, an address that is set and a file that gives a timeout and leaves a section
    empty it does not count which are merged first, nor whether the address is set once more. -/
theorem defaults_regrouped :
    let set : Entries := [(.text "hub", .ofEntries [(.text "url", .ofText "http://b.test")])]
    let file : Entries := [(.text "hub", .ofEntries [(.text "timeout_sec", .scalar (.int 2))]),
      (.text "logging", .scalar .null)]
    set.HasDistinctKeys ∧ file.HasDistinctKeys ∧
      (Setting.ofEntries set).Bridges (.ofEntries defaultEntries) (.ofEntries file) ∧
      (defaultEntries.merge set).merge file = defaultEntries.merge (set.merge file) ∧
      unmarked ((defaultEntries.merge set).merge set) = unmarked (defaultEntries.merge set) := by
  intro set file
  have hset : set.HasDistinctKeys :=
    ⟨by decide, by simpa [set, Setting.ofText] using .mapping (by decide) (by simpa using .scalar)⟩
  have hfile : file.HasDistinctKeys := by
    refine ⟨by decide, ?_⟩
    simp only [file, List.forall_mem_cons]
    exact ⟨.mapping (by decide) (by simpa using .scalar), .scalar, nofun⟩
  have hbridges :
      (Setting.ofEntries set).Bridges (.ofEntries defaultEntries) (.ofEntries file) := by
    refine .mapping fun e he x z hx hz => ?_
    obtain rfl := List.mem_singleton.1 he
    cases hx
    cases hz
    refine .mapping fun e he x z hx hz => ?_
    obtain rfl := List.mem_singleton.1 he
    cases hx
    exact Setting.bridges_of_scalar _
  obtain ⟨hassoc, -, -, hagain⟩ := merge_laws hasDistinctKeys_defaultEntries hset hfile
  exact ⟨hset, hfile, hbridges, hassoc hbridges, hagain⟩

end Entries

namespace Settings

open Entries

/-- Merging a file into what is set over the defaults is merging it into the settings as they are
    read, where what is set bridges the defaults and the file. -/
theorem tree_merge {s : Settings} {file : Entries} (hs : s.overrides.HasDistinctKeys)
    (hfile : file.HasDistinctKeys) (hloops : s.loops = false)
    (h : (Setting.ofEntries s.overrides).Bridges (.ofEntries defaultEntries) (.ofEntries file)) :
    { s with overrides := s.overrides.merge file }.tree = s.tree.merge file := by
  rw [tree, tree, if_neg (by simp [hloops]), if_neg (by simp [hloops]),
    merge_assoc hasDistinctKeys_defaultEntries hs hfile h]

end Settings

end GridGauge
