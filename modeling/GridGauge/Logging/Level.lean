import GridGauge.Text.Quoted

/-!
# Levels of messages

The importance of a message is a number. Five levels, and the one that asks
for nothing, have names, some of them two; a level can be asked for by any
name in any case, and a word that names none asks for the usual level.

Two words belong to the vocabulary of names and name no level: that of the
short format and that of the table of formats. They are refused.
-/

namespace GridGauge

namespace Text

/-- The letters beyond ASCII whose capitals are letters of ASCII, with their capitals. -/
def asciiCapitals : List (CodePoint × Text) :=
  [(0xDF, "SS"), (0x131, "I"), (0x17F, "S"), (0xFB00, "FF"), (0xFB01, "FI"), (0xFB02, "FL"),
    (0xFB03, "FFI"), (0xFB04, "FFL"), (0xFB05, "ST"), (0xFB06, "ST")]

/-- The text in capitals, as far as these are letters of ASCII. -/
def capitals (t : Text) : Text :=
  t.flatMap fun c =>
    if isLowerLetter c then [c - 32] else (asciiCapitals.lookup c).getD [c]

end Text

namespace Logging

/-- A level of importance. -/
abbrev Level := Int

/-- The names of levels. -/
def levelNames : List (Text × Level) :=
  [("CRITICAL", 50), ("FATAL", 50), ("ERROR", 40), ("WARNING", 30), ("WARN", 30), ("INFO", 20),
    ("DEBUG", 10), ("NOTSET", 0)]

/-- The level that is meant where no other is named. -/
def usualLevel : Level := 20

/-- The name of a level in messages: the first of its names. -/
def levelName (l : Level) : Text :=
  match levelNames.find? fun n => n.2 == l with
  | some (name, _) => name
  | none => "Level " ++ Text.ofInt l

/-- Why a word is refused as a level. -/
inductive LevelError
  /-- It names a format. -/
  | format
  /-- It names the table of formats. -/
  | formatTable
  deriving DecidableEq, Repr

/-- The short format. -/
def shortFormat : Text := "%(levelname)s:%(name)s:%(message)s"

/-- The table of formats, as messages show it. -/
def shownFormatTable : Text :=
  "\x7b'%': (<class 'logging.PercentStyle'>, '%(levelname)s:%(name)s:%(message)s'), '\x7b': "
    ++ "(<class 'logging.StrFormatStyle'>, '\x7blevelname\x7d:\x7bname\x7d:\x7bmessage\x7d'), '$': "
    ++ "(<class 'logging.StringTemplateStyle'>, "
    ++ "'$\x7blevelname\x7d:$\x7bname\x7d:$\x7bmessage\x7d')\x7d"

/-- The error in words. -/
def LevelError.message : LevelError → Text
  | .format => "Unknown level: " ++ Text.Quoted.encode shortFormat
  | .formatTable => "Level not an integer or a valid string: " ++ shownFormatTable

/-- The level that a word asks for. -/
def levelOfWord (word : Text) : Except LevelError Level :=
  let name := word.capitals
  if name == "BASIC_FORMAT" then .error .format
  else if name == "_STYLES" then .error .formatTable
  else .ok ((levelNames.lookup name).getD usualLevel)

end Logging

end GridGauge
