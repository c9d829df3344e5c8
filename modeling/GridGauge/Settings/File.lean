import GridGauge.Files
import GridGauge.Settings
import GridGauge.Yaml
import GridGauge.Yaml.Source

/-!
# Settings from a file

A file of settings is a YAML text whose top level is a mapping. Without a path
it is looked for in the working directory and in the home directory; the first
that is there is the one, whatever is in it.

A file that is not there, or that holds no mapping, changes nothing. The same
goes for one that cannot be read, except that some flaws are the caller's to
deal with: bytes that are no text, scalars that look like numbers, dates or
times and are none, nodes that are nested too deep, a path that is too long, a
working or home directory that is not to be found, and a tree without an end
where there is one already.
-/

namespace GridGauge

namespace Settings

/-- A flaw in a file of settings that stops the program. -/
inductive FileFlaw
  /-- The bytes encode no text. -/
  | encoding (fault : EncodingFault)
  /-- A scalar is broken. -/
  | scalar (e : Yaml.ScalarError)
  /-- An escape has a number that no code point has. -/
  | noCodePoint (code : Nat)
  /-- The text is nested too deep. -/
  | tooDeep
  /-- A file cannot even be looked for. -/
  | path (e : FileError)
  /-- The tree has no end, and those set before have none either. -/
  | endless
  deriving DecidableEq, Repr

/-- The flaw in words. -/
def FileFlaw.message : FileFlaw → Text
  | .encoding fault => fault.message
  | .scalar e => e.message
  | .noCodePoint code =>
    if code < 0x80000000 then "chr() arg not in range(0x110000)"
    else "Python int too large to convert to C int"
  | .tooDeep => "maximum recursion depth exceeded"
  | .path e => e.message
  | .endless => "maximum recursion depth exceeded while calling a Python object"

/-- What comes of loading a file. -/
inductive Loaded
  /-- There is no file. -/
  | missing
  /-- The file of this path cannot be read. -/
  | unreadable (path : Text)
  /-- The top level of the file of this path is no mapping. -/
  | noMapping (path : Text)
  /-- The file's tree. -/
  | tree (file : FileTree)
  /-- The file stops the program. -/
  | stops (flaw : FileFlaw)
  deriving Repr

/-- What comes of a file of the path given whose text sets nothing. -/
def ofFailure (path : Text) (obstacle : Option Yaml.Obstacle) : Yaml.Failure → Loaded
  | .malformed => .unreadable path
  | .noCodePoint code => .stops (.noCodePoint code)
  | .tooDeep => .stops .tooDeep
  | .scalar e => .stops (.scalar e)
  | .ended =>
    match obstacle with
    | some (.encoding fault) => .stops (.encoding fault)
    | _ => .unreadable path

/-- What comes of loading the file of a path with the content given, with marks from `first` on. -/
def ofContent (first : Nat) (path : Text) (content : Bytes) : Loaded :=
  let source := Yaml.Source.ofBytes content
  match Yaml.read first source.obstacle.isSome source.text with
  | .error e => ofFailure path source.obstacle e
  | .ok ⟨.mapping mark es, marks, loops⟩ => .tree ⟨Entries.opened mark es, marks, loops⟩
  | .ok _ => .noMapping path

/-- The paths of the files that are looked for without one being asked for. All of them have to be
    known before any is looked for. -/
def searchPaths (files : Files) : Except FileError (List Text) :=
  if files.isDirectory files.cwd then
    (files.inHome [".grid_exporter", "config.yaml"]).map fun path =>
      [Files.textOf (Files.inside files.cwd "config.yaml"),
        Files.textOf (Files.inside files.cwd "config.yml"), path]
  else .error .noCwd

/-- What comes of loading the file of a path, with marks from `first` on. A path that leads to
    nothing is no matter, unless it is too long. -/
def loadPath (first : Nat) (files : Files) (path : Text) : Loaded :=
  let path := Files.tidy path
  match files.read path with
  | .error .tooLong => .stops (.path (.fault .tooLong path))
  | .error _ => .missing
  | .ok .directory => .unreadable path
  | .ok (.file content) => ofContent first path content

/-- What comes of loading the first file that is there, of the paths given, with marks from `first`
    on. -/
def loadFirst (first : Nat) (files : Files) : (paths : List Text) → Loaded
  | [] => .missing
  | path :: paths =>
    match loadPath first files path with
    | .missing => loadFirst first files paths
    | loaded => loaded

/-- The paths of the files that are looked for: the one that is asked for, or those where one may be
    found. -/
def candidates (files : Files) : (path : Option Text) → Except FileError (List Text)
  | some path => .ok [path]
  | none => searchPaths files

/-- What comes of loading the file of a path, or the one that is found without, with marks from
    `first` on. -/
def loadFrom (first : Nat) (files : Files) (path : Option Text) : Loaded :=
  match candidates files path with
  | .ok paths => loadFirst first files paths
  | .error e => .stops (.path e)

end Settings

end GridGauge
