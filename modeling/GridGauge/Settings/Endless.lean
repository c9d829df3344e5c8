import GridGauge.Settings.Tree

/-!
# Endless trees of settings

A tree in which a mapping is inside of itself has no end: a path can go round
and round in it. Such trees too can be laid over one another, where the paths
that are in both come to an end. Where they do not, there is no tree to be
had, which shows when mappings have been merged inside one another too often.
-/

namespace GridGauge

namespace Entries

/-- How often mappings are merged inside one another before it is too often. -/
def mergeLimit : Nat := 1000

/-- The tree `upper` laid over the tree `lower`, with mappings merged inside one another at most
    `depth` times. -/
def mergeWithin : (depth : Nat) → (lower upper : Entries) → Option Entries
  | 0, _, _ => none
  | depth + 1, lower, upper =>
    upper.foldlM (fun (out : Entries) (k, v) =>
      match out.find? k, v with
      | some (.mapping l lower), .mapping u upper =>
        (mergeWithin depth (Entries.opened l lower) (Entries.opened u upper)).map fun es =>
          out.put k (.ofEntries es)
      | _, _ => some (out.put k v)) lower

/-- The tree `upper` laid over the tree `lower`, if it can be, whether they have ends or not. -/
def mergeEndless (lower upper : Entries) : Option Entries := mergeWithin mergeLimit lower upper

end Entries

end GridGauge
