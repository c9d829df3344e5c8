import GridGauge.Settings.Endless
import GridGauge.Settings.Environment

/-!
# Settings

What is set is a tree of overrides, to which the file, the environment and the
options of the command line contribute. It is laid over the defaults whenever
a setting is read.

The environment has the last word over a file: loading a file merges the
file's tree into the overrides and then puts the variables in again
(`Settings.load`). That fails only for a tree without an end, over settings
that have none either.
-/

namespace GridGauge

/-- The names of a path written with points between them. -/
def namesOfPath (path : Text) : List Text := Text.splitAtEach 0x2E path

/-- The tree of a file of settings. -/
structure FileTree where
  entries : Entries
  /-- A number above those of all marks in it. -/
  marks : Nat
  /-- Is something in it inside of itself? -/
  loops : Bool
  deriving Repr, Inhabited

/-- What is set over the defaults. -/
structure Settings where
  overrides : Entries
  /-- A number above those of all marks of files. -/
  marks : Nat := 0
  /-- Can something be inside of itself? -/
  loops : Bool := false
  deriving Repr, Inhabited

namespace Settings

/-- The whole tree: the overrides laid over the defaults. -/
def tree (s : Settings) : Entries :=
  if s.loops then (defaultEntries.mergeEndless s.overrides).getD s.overrides
  else defaultEntries.merge s.overrides

/-- The setting at the end of a path. -/
def at? (s : Settings) (path : List Text) : Option Setting := s.tree.at? path

/-- The setting of a written path, or `otherwise` if there is none. -/
def get (s : Settings) (path : Text) (otherwise : Setting) : Setting :=
  (s.at? (namesOfPath path)).getD otherwise

/-- The value of a setting, or its default if a section is overridden by something else. -/
def value (s : Settings) (k : SettingKey) : Setting := (s.at? k.path).getD k.default

/-- The value of a setting, or null if a section is overridden by something else. -/
def value? (s : Settings) (k : SettingKey) : Setting := (s.at? k.path).getD (.scalar .null)

/-- The settings with `value` at the end of a path. -/
def set (s : Settings) (path : List Text) (value : Setting) : Settings :=
  { s with overrides := s.overrides.setShared value path }

/-- The settings with those of the environment put in. -/
def applyEnvironment (s : Settings) (env : Environment) : Settings :=
  env.settings.foldl (fun s (k, v) => s.set k.path v) s

/-- The settings before anything but the environment has set any. -/
def initial (env : Environment) : Settings :=
  Settings.applyEnvironment { overrides := [] } env

/-- The settings after the tree of a file has been merged in, if it can be. -/
def load (s : Settings) (env : Environment) (file : FileTree) : Option Settings :=
  let loops := s.loops || file.loops
  let merged :=
    if loops then s.overrides.mergeEndless file.entries
    else some (s.overrides.merge file.entries)
  merged.map fun overrides => (Settings.mk overrides file.marks loops).applyEnvironment env

end Settings

end GridGauge
