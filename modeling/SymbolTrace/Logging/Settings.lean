import SymbolTrace.Logging.Level

/-!
# Log settings

The settings come from the environment, and flags of the command line override them. A format
that is not understood counts as none, and so does an empty file name.
-/

namespace SymbolTrace.Logging

/-- The value of an environment variable, if it is set. -/
abbrev Environment := String → Option String

/-- The variable that names the format. -/
def formatVariable : String := "WDEMANGLE_LOG_FORMAT"

/-- The variable that names a log file, or a directory for dated ones. -/
def fileVariable : String := "WDEMANGLE_LOG_FILE"

/-- How to log. -/
structure Settings where
  /-- The level asked for; without one, the filter of the environment decides. -/
  level : Option Level
  format : Format
  /-- Where to write events besides the console. -/
  file : Option String
deriving DecidableEq, Repr

namespace Settings

/-- The settings of the environment. -/
def ofEnvironment (environment : Environment) : Settings where
  level := none
  format := ((environment formatVariable).bind fun text => (Format.parse text).toOption).getD
    .pretty
  file := (environment fileVariable).filter (· != "")

/-- The settings with another level and another format, as far as they are given. -/
def override (settings : Settings) (level : Option Level) (format : Option Format) : Settings :=
  { settings with
    level := level.or settings.level
    format := format.getD settings.format }

end Settings

end SymbolTrace.Logging
