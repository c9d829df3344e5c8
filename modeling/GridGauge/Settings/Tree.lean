import GridGauge.Bindings
import GridGauge.Settings.Scalar

/-!
# Trees of settings

Settings are a tree: mappings with the settings of sections as their entries,
and at the leaves scalars, sequences and sets. A path of names leads from the
whole tree to a setting (`Entries.at?`). A sequence can have pairs for its
items, which come in no other place.

Trees are laid over one another (`merge`): where both have a mapping, the
entries are merged, and otherwise the upper tree wins. A single setting is put
in its place by `set`, which makes mappings of whatever is in the way.

A file can give one mapping in several places at once. Such a mapping carries
a mark, the same in every place, and a change inside it is a change in all of
its places (`setShared`). Merging two mappings makes a new one, without a mark.

One of the places can be inside the mapping itself, or inside a sequence that
is in it: there stands only that it comes again. A path that leads into such a
mapping finds the whole of it in that place (`Entries.opened`), so that it may
go round and round.
-/

namespace GridGauge

/-- The mark of a collection, that is of a sequence or mapping, that may be in several places. -/
structure Mark where
  number : Nat
  /-- Is the collection inside of itself? -/
  recurs : Bool
  deriving DecidableEq, Repr, Inhabited

/-- A setting: a value with all that is inside it. -/
inductive Setting where
  | scalar (s : Scalar)
  /-- A sequence, with its mark if it may be in several places. -/
  | sequence (mark : Option Mark) (items : List Setting)
  /-- A mapping, with its mark if it may be in several places. -/
  | mapping (mark : Option Mark) (entries : List (Scalar × Setting))
  /-- The collection of this number once more, inside of itself. -/
  | again (number : Nat) (isMapping : Bool)
  /-- A pair in a sequence. -/
  | pair (key value : Setting)
  /-- A set, with its elements in the order in which they have come. -/
  | set (elements : List Scalar)
  deriving Repr, Inhabited

/-- The entries of a mapping. -/
abbrev Entries := Bindings Scalar Setting

namespace Setting

/-- A text as a setting. -/
def ofText (t : Text) : Setting := .scalar (.text t)

/-- A sequence that is in one place. -/
def ofItems (items : List Setting) : Setting := .sequence none items

/-- A mapping that is in one place. -/
def ofEntries (es : Entries) : Setting := .mapping none es

/-- Is the setting a mapping? -/
def isMapping : Setting → Bool
  | .mapping _ _ | .again _ true => true
  | _ => false

end Setting

/-! ## Collections inside of themselves -/

mutual

/-- The setting with `whole` where the collection of this number would come once more. -/
def Setting.fill (number : Nat) (whole : Setting) : Setting → Setting
  | .scalar s => .scalar s
  | .again n isMapping => if n = number then whole else .again n isMapping
  | .sequence mark items =>
    if mark.any (·.number = number) then .sequence mark items
    else .sequence mark (Setting.fillItems number whole items)
  | .mapping mark es =>
    if mark.any (·.number = number) then .mapping mark es
    else .mapping mark (Entries.fill number whole es)
  | .pair k v => .pair (Setting.fill number whole k) (Setting.fill number whole v)
  | .set elements => .set elements

/-- The items with `whole` where the collection of this number would come once more. -/
def Setting.fillItems (number : Nat) (whole : Setting) : List Setting → List Setting
  | [] => []
  | v :: vs => Setting.fill number whole v :: Setting.fillItems number whole vs

/-- The entries with `whole` where the collection of this number would come once more. -/
def Entries.fill (number : Nat) (whole : Setting) :
    List (Scalar × Setting) → List (Scalar × Setting)
  | [] => []
  | (k, v) :: es => (k, Setting.fill number whole v) :: Entries.fill number whole es

end

/-- The entries of a mapping, each with all that is inside it. -/
def Entries.opened (mark : Option Mark) (es : Entries) : Entries :=
  match mark with
  | some m => if m.recurs then Entries.fill m.number (.mapping mark es) es else es
  | none => es

namespace Entries

/-- The setting of a name. -/
def named? (es : Entries) (name : Text) : Option Setting := es.find? (.text name)

/-- Names are the same keys when they are the same texts. -/
theorem beq_text (a b : Text) : (Scalar.text a == Scalar.text b) = decide (a = b) := by
  show decide (Scalar.Identity.itself (.text a) = .itself (.text b)) = _
  simp

/-- Binding a name changes its setting and no other. -/
theorem named?_put (es : Entries) (name other : Text) (value : Setting) :
    named? (es.put (.text name) value) other =
      if name = other then some value else es.named? other := by
  rw [named?, Bindings.find?_put, beq_text, named?]
  by_cases h : name = other <;> simp [h]

/-- The setting at the end of a path of names. -/
def at? (es : Entries) : List Text → Option Setting
  | [] => some (.ofEntries es)
  | [name] => es.named? name
  | name :: path =>
    match es.named? name with
    | some (.mapping mark inner) => at? (Entries.opened mark inner) path
    | _ => none

end Entries

/-! ## Merging -/

mutual

/-- The setting `upper` over what was there before. -/
def Setting.over : (upper : Setting) → (lower : Option Setting) → Setting
  | .mapping mark upper, lower =>
    match lower with
    | some (.mapping _ lower) => .mapping none (Entries.over upper lower)
    | _ => .mapping mark upper
  | upper, _ => upper

/-- The entries `upper` over those of `lower`. -/
def Entries.over : (upper : List (Scalar × Setting)) → (lower : Entries) → Entries
  | [], lower => lower
  | (key, value) :: upper, lower =>
    Entries.over upper (Bindings.put lower key (Setting.over value (Bindings.find? lower key)))

end

/-- The tree `upper` laid over the tree `lower`. -/
def Entries.merge (lower upper : Entries) : Entries := Entries.over upper lower

/-! ## Setting one value -/

/-- The entries with `value` at the end of a path that is not empty. What is no mapping on the way
    there becomes one. -/
def Entries.set (es : Entries) (value : Setting) : List Text → Entries
  | [] => es
  | [name] => es.put (.text name) value
  | name :: path =>
    match es.named? name with
    | some (.mapping mark inner) =>
      es.put (.text name) (.mapping mark (Entries.set inner value path))
    | _ => es.put (.text name) (.ofEntries (Entries.set [] value path))

/-- The number of the innermost mapping with a mark that the path leads through, and the path from
    there on. -/
def Entries.innermostMark (es : Entries) : List Text → Option (Nat × List Text)
  | [] => none
  | [_] => none
  | name :: path =>
    match es.named? name with
    | some (.mapping mark inner) =>
      (Entries.innermostMark (Entries.opened mark inner) path).orElse fun _ =>
        mark.map fun m => (m.number, path)
    | _ => none

mutual

/-- The setting with `value` at the end of a path from each mapping of this number on. -/
def Setting.setMarked (number : Nat) (value : Setting) (path : List Text) : Setting → Setting
  | .scalar s => .scalar s
  | .again n isMapping => .again n isMapping
  | .sequence mark items => .sequence mark (Setting.setMarkedItems number value path items)
  | .mapping mark es =>
    let es := Entries.setMarked number value path es
    .mapping mark (if mark.any (·.number = number) then Entries.set es value path else es)
  | .pair k v =>
    .pair (Setting.setMarked number value path k) (Setting.setMarked number value path v)
  | .set elements => .set elements

/-- The items with `value` at the end of a path from each mapping of this number on. -/
def Setting.setMarkedItems (number : Nat) (value : Setting) (path : List Text) :
    List Setting → List Setting
  | [] => []
  | v :: vs =>
    Setting.setMarked number value path v :: Setting.setMarkedItems number value path vs

/-- The entries with `value` at the end of a path from each mapping of this number on. -/
def Entries.setMarked (number : Nat) (value : Setting) (path : List Text) :
    List (Scalar × Setting) → List (Scalar × Setting)
  | [] => []
  | (k, v) :: es =>
    (k, Setting.setMarked number value path v) :: Entries.setMarked number value path es

end

/-- The entries with `value` at the end of a path, there and in every other place of a mapping
    that the path leads through. -/
def Entries.setShared (es : Entries) (value : Setting) (path : List Text) : Entries :=
  match es.innermostMark path with
  | none => es.set value path
  | some (number, path) => Entries.setMarked number value path es

end GridGauge
