import GridGauge.Settings.Key
import GridGauge.Settings.Value

/-!
# Settings from the environment

A variable of the environment is a text. It is read as an integer, a number or
a text; where it does not hold what is asked for, or does not exist, a default
stands in.
-/

namespace GridGauge

/-- The variables of the environment with their values. -/
abbrev Environment := Bindings Text Text

namespace Environment

variable (env : Environment)

/-- The variable as an integer. A default that stands in for a missing variable must be one too;
    for a text that holds no integer it stands in as it is. -/
def integer (key : Text) (default : Setting) : Except NumberError Setting :=
  match env.find? key with
  | some t =>
    match Reading.integer t with
    | .ok n => .ok (.scalar (.int n))
    | .error _ => .ok default
  | none =>
    match default.toInteger with
    | .ok n => .ok (.scalar (.int n))
    | .error (.notInteger _) | .error (.tooManyDigits _) | .error .nan => .ok default
    | .error e => .error e

/-- The variable as a number, with a default as for integers. -/
def number (key : Text) (default : Setting) : Except NumberError Setting :=
  match env.find? key with
  | some t =>
    match Reading.number t with
    | .ok x => .ok (.scalar (.float x))
    | .error _ => .ok default
  | none =>
    match default.toNumber with
    | .ok x => .ok (.scalar (.float x))
    | .error (.notNumber _) => .ok default
    | .error e => .error e

/-- The variable as a text, without the blanks at its ends. -/
def text (key default : Text) : Text := ((env.find? key).getD default).trim

/-- The settings that variables give, each with its value. A text that is empty and a number that
    is zero give none. -/
def settings : List (SettingKey × Setting) :=
  let number (key : Text) : Option Setting :=
    ((env.find? key).bind fun t => (Reading.number t).toOption).bind fun x =>
      if x.isZero then none else some (.scalar (.float x))
  let integer (key : Text) : Option Setting :=
    ((env.find? key).bind fun t => (Reading.integer t).toOption).bind fun n =>
      if n = 0 then none else some (.scalar (.int n))
  let text (key : Text) : Option Setting :=
    let t := env.text key []
    if t.isEmpty then none else some (.ofText t)
  [(SettingKey.hubUrl, text "GRID_EXPORTER_HUB"),
    (SettingKey.hubTimeout, number "GRID_EXPORTER_TIMEOUT"),
    (SettingKey.host, text "GRID_EXPORTER_HOST"),
    (SettingKey.port, integer "GRID_EXPORTER_PORT"),
    (SettingKey.logLevel, text "GRID_EXPORTER_LOG_LEVEL")].filterMap
      fun (key, setting) => setting.map (key, ·)

end Environment

end GridGauge
