import GridGauge.Settings.Environment

/-!
# Version and banner

What the program says about itself: its version, when and from what it was
built, as the environment has it, and the platform it runs on.
-/

namespace GridGauge

/-- The platform the program runs on. -/
structure Platform where
  /-- The version of the runtime. -/
  runtime : Text
  os : Text
  arch : Text
  deriving DecidableEq, Repr, Inhabited

/-- The version of the program. -/
def version : Text := "1.0.0"

/-- All that the program says about itself. -/
structure VersionInfo where
  buildDate : Text
  commit : Text
  platform : Platform
  deriving DecidableEq, Repr

namespace VersionInfo

/-- What is known from the environment and the platform. -/
def ofEnvironment (env : Environment) (platform : Platform) : VersionInfo where
  buildDate := env.text "GRID_EXPORTER_BUILD_DATE" "unknown"
  commit := env.text "GRID_EXPORTER_COMMIT" "unknown"
  platform := platform

/-- The entries of the listing, in order. -/
def entries (i : VersionInfo) : List (Text × Text) :=
  [("version", version), ("build_date", i.buildDate), ("commit", i.commit),
    ("python", i.platform.runtime), ("os", i.platform.os), ("arch", i.platform.arch)]

/-- The logo, with a line break at both ends. -/
def logo : Text :=
  "\n            _     _                                  _\n"
    ++ "  __ _ _ __(_) __| |       _____  ___ __   ___  _ __| |_ ___ _ __\n"
    ++ " / _' | '__| |/ _  |_____ / _ \\ \\/ / '_ \\ / _ \\| '__| __/ _ \\ '__|\n"
    ++ "| (_| | |  | | (_| |_____|  __/>  <| |_) | (_) | |  | ||  __/ |\n"
    ++ " \\__, |_|  |_|\\__,_|      \\___/_/\\_\\ .__/ \\___/|_|   \\__\\___|_|\n"
    ++ " |___/                             |_|\n"

/-- The banner: the logo, and below it what the program says about itself. -/
def banner (i : VersionInfo) : Text :=
  Text.join [10] [logo, "Version: " ++ version, "Built on: " ++ i.buildDate,
    "Commit: " ++ i.commit, "Python version: " ++ i.platform.runtime, "OS: " ++ i.platform.os,
    "Arch: " ++ i.platform.arch, []]

end VersionInfo

end GridGauge
