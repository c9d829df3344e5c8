import GridGauge.Bindings
import GridGauge.Encoding.Surrogate
import GridGauge.Encoding.Utf8

/-!
# Files

The files that the program sees: directories and files with their content,
each at a location, which is the list of names that leads to it from the root.
A path is a text that names a location, from the working directory on unless
it starts with a slash. Its names are followed one by one (`Files.walk`), each
through a directory, also where two points lead back out of it.
-/

namespace GridGauge

/-- The names that lead to a file from the root. -/
abbrev Location := List Text

/-- What there is at a location. -/
inductive FileEntry
  | directory
  | file (content : Bytes)
  deriving DecidableEq, Repr, Inhabited

/-- The files there are. -/
structure Files where
  /-- The working directory. -/
  cwd : Location
  /-- What the home directory is said to be: a path, or one with a tilde if nothing is known. -/
  home : Text
  entries : Bindings Location FileEntry
  deriving Repr, Inhabited

/-- Why a path leads to no file. -/
inductive PathFault
  /-- There is nothing where it leads. -/
  | missing
  /-- It leads through a file. -/
  | throughFile
  /-- It, or a name in it, is too long. -/
  | tooLong
  /-- There is a zero in it. -/
  | zero
  /-- There are surrogates in it that stand for no octet. -/
  | surrogates (f : SurrogateFault)
  deriving DecidableEq, Repr

/-- Why a file cannot be written or looked for. -/
inductive FileError
  /-- There is a directory of this path. -/
  | isDirectory (path : Text)
  /-- There is a file of this path where a directory should be. -/
  | isFile (path : Text)
  /-- This path leads nowhere. -/
  | fault (f : PathFault) (path : Text)
  /-- There is no home directory of this name. -/
  | noHome
  /-- The working directory is not there any more. -/
  | noCwd
  deriving DecidableEq, Repr

/-- The fault of a path in words. -/
def PathFault.message (path : Text) : PathFault → Text
  | missing => "[Errno 2] No such file or directory: " ++ Text.Quoted.encode path
  | throughFile => "[Errno 20] Not a directory: " ++ Text.Quoted.encode path
  | tooLong => "[Errno 36] File name too long: " ++ Text.Quoted.encode path
  | zero => "embedded null byte"
  | surrogates f => f.message

/-- The error in words. -/
def FileError.message : FileError → Text
  | .isDirectory path => "[Errno 21] Is a directory: " ++ Text.Quoted.encode path
  | .isFile path => "[Errno 17] File exists: " ++ Text.Quoted.encode path
  | .fault f path => f.message path
  | .noHome => "Could not determine home directory."
  | .noCwd => "[Errno 2] No such file or directory"

namespace Files

/-! ## Paths -/

/-- The slash. -/
def slash : CodePoint := 0x2F

/-- The names of a path, less those that stay where they are. -/
def namesOf (path : Text) : List Text :=
  (Text.splitAtEach slash path).filter fun n => !n.isEmpty && n != "."

/-- Does the path start from the root? -/
def isRooted (path : Text) : Bool := Text.startsWith path [slash]

/-- The slashes that a path starts with, as far as they tell: two of them are kept, more are one. -/
def rootOf : Text → Text
  | 0x2F :: 0x2F :: 0x2F :: _ => [slash]
  | 0x2F :: 0x2F :: _ => [slash, slash]
  | 0x2F :: _ => [slash]
  | _ => []

/-- The path of names behind a root. A point is the working directory. -/
def pathOf (root : Text) (names : List Text) : Text :=
  let path := root ++ Text.join [slash] names
  if path.isEmpty then "." else path

/-- The path with one slash between names, and a point for the working directory. -/
def tidy (path : Text) : Text := pathOf (rootOf path) (namesOf path)

/-- The location in writing. -/
def textOf (l : Location) : Text := slash :: Text.join [slash] l

/-- The location of a name in a directory. -/
def inside (l : Location) (name : Text) : Location := l ++ [name]

/-- The location that names lead to from another, taken by their words alone. -/
def follow (start : Location) (names : List Text) : Location :=
  names.foldl (fun (l : Location) (n : Text) => if n == ".." then l.dropLast else inside l n) start

/-- Does the code point stand for an octet that is not part of a text? -/
def standsForOctet (c : CodePoint) : Bool := 0xDC80 ≤ c && c ≤ 0xDCFF

/-- The number of octets of a path or a name. -/
def octetCount (t : Text) : Nat :=
  (t.filter standsForOctet).length + (Utf8.encode (t.filter (!standsForOctet ·))).length

/-- The greatest number of octets of a path. -/
def pathLimit : Nat := 4095

/-- The greatest number of octets of a name. -/
def nameLimit : Nat := 255

/-- What is wrong with a path whatever files there are. -/
def fault? (path : Text) : Option PathFault :=
  match SurrogateFault.find? standsForOctet 0 path with
  | some f => some (.surrogates f)
  | none =>
    if path.contains 0 then some .zero
    else if pathLimit < octetCount path then some .tooLong
    else none

/-! ## What there is -/

variable (files : Files)

/-- What there is at a location. There is a directory where there is something inside one. -/
def at? (l : Location) : Option FileEntry :=
  match files.entries.find? l with
  | some e => some e
  | none =>
    if l.isEmpty || files.entries.any fun e => l.isPrefixOf e.1 then some .directory else none

/-- Is there a directory at the location? -/
def isDirectory (l : Location) : Bool := files.at? l == some .directory

/-- The location that a path names, taken by its words alone. -/
def locate (path : Text) : Location :=
  follow (if isRooted path then [] else files.cwd) (namesOf path)

/-- The location that names lead to. Each starts in a directory that is there. -/
def walk (l : Location) : List Text → Except PathFault Location
  | [] => .ok l
  | name :: rest =>
    match files.at? l with
    | none => .error .missing
    | some (.file _) => .error .throughFile
    | some .directory =>
      if name == ".." then walk l.dropLast rest
      else if nameLimit < octetCount name then .error .tooLong
      else walk (inside l name) rest

/-- The location that a path leads to. -/
def resolve (path : Text) : Except PathFault Location :=
  match fault? path with
  | some f => .error f
  | none => files.walk (if isRooted path then [] else files.cwd) (namesOf path)

/-- What there is where a path leads. -/
def read (path : Text) : Except PathFault FileEntry := do
  match files.at? (← files.resolve path) with
  | some e => return e
  | none => throw .missing

/-- The path of the home directory, which starts from the working directory if it has no slash in
    front. -/
def homePath : Except FileError Text :=
  if files.home.head? == some 0x7E then .error .noHome
  else
    let path := Text.dropTrailing slash files.home
    .ok (tidy (if path.isEmpty then [slash] else path))

/-- The path of names in the home directory. -/
def inHome (names : List Text) : Except FileError Text :=
  files.homePath.map fun home => pathOf (rootOf home) (namesOf home ++ names)

/-- The path with the home directory in the place of a tilde in front. -/
def expandHome (path : Text) : Except FileError Text :=
  match namesOf path with
  | name :: rest =>
    if isRooted path || name.head? != some 0x7E then .ok (tidy path)
    else if name == "~" then files.inHome rest
    else .error .noHome
  | [] => .ok (tidy path)

/-! ## Writing -/

/-- The files with a new entry. -/
def put (l : Location) (e : FileEntry) : Files := { files with entries := files.entries.put l e }

/-- Why a directory cannot be made. -/
inductive DirectoryFault
  /-- There is something of that name. -/
  | taken
  | path (f : PathFault)
  deriving DecidableEq, Repr

/-- The files with a directory made in one that is there. -/
def makeInside (root : Text) (names : List Text) : Except DirectoryFault Files :=
  match fault? (pathOf root names) with
  | some f => .error (.path f)
  | none =>
    match names.getLast? with
    | none => .error .taken
    | some name =>
      match files.walk (if root.isEmpty then files.cwd else []) names.dropLast with
      | .error f => .error (.path f)
      | .ok l =>
        match files.at? l with
        | none => .error (.path .missing)
        | some (.file _) => .error (.path .throughFile)
        | some .directory =>
          if name == ".." then .error .taken
          else if nameLimit < octetCount name then .error (.path .tooLong)
          else if (files.at? (inside l name)).isSome then .error .taken
          else .ok (files.put (inside l name) .directory)

/-- The files as they are if there is a directory at the end of the names, and else the error. -/
def orDirectory (root : Text) (names : List Text) (fault : DirectoryFault) :
    Except FileError Files :=
  let path := pathOf root names
  match files.read path, fault with
  | .ok .directory, _ => .ok files
  | _, .taken => .error (.isFile path)
  | _, .path f => .error (.fault f path)

/-- The files with a directory made, unless it is there, and all that lead to it; `depth` of them
    may be missing. -/
def makeDirectory (root : Text) : (depth : Nat) → (names : List Text) → Except FileError Files
  | 0, names =>
    match files.makeInside root names with
    | .ok made => .ok made
    | .error f => files.orDirectory root names f
  | depth + 1, names =>
    match files.makeInside root names with
    | .ok made => .ok made
    | .error (.path .missing) => do
      let around ← makeDirectory root depth names.dropLast
      match around.makeInside root names with
      | .ok made => return made
      | .error f => around.orDirectory root names f
    | .error f => files.orDirectory root names f

/-- The files with the file of a path opened for appending: it is made, with the directories
    around it, if it is not there. -/
def openLog (path : Text) : Except FileError (Files × Location) := do
  let around := (namesOf path).dropLast
  let files ← files.makeDirectory (rootOf path) around.length around
  let l := files.locate path
  match files.read (textOf l) with
  | .ok .directory => throw (.isDirectory (textOf l))
  | .ok (.file _) => return (files, l)
  | .error .missing => return (files.put l (.file []), l)
  | .error f => throw (.fault f (textOf l))

/-- The files with bytes put behind the content of a file. -/
def append (l : Location) (bytes : Bytes) : Files :=
  match files.at? l with
  | some (.file content) => files.put l (.file (content ++ bytes))
  | _ => files.put l (.file bytes)

end Files

end GridGauge
