import Wordbook.Profile

/-!
# Start-up settings

Three environment variables adjust how the editor starts; a missing or unusable value falls
back to the default.

* `DKST_DICT_DIR`: the directory of the dictionary files, trimmed; a blank value is none.
* `DKST_DICT_PROFILE`: the first language, looked up as `Profile.find?` does; otherwise
  English.
* `DKST_DICT_LOG`: the log level, trimmed and ignoring ASCII case, one of `off`, `error`,
  `warn`, `info`, `debug`, `trace`; otherwise `info`.
-/

namespace Wordbook

/-- How much the editor logs. -/
inductive LogLevel where
  | off
  | error
  | warn
  | info
  | debug
  | trace
  deriving DecidableEq

namespace LogLevel

/-- The name of a level, in capitals. -/
def name : LogLevel → String
  | .off => "OFF"
  | .error => "ERROR"
  | .warn => "WARN"
  | .info => "INFO"
  | .debug => "DEBUG"
  | .trace => "TRACE"

/-- All levels, quietest first. -/
def all : List LogLevel := [.off, .error, .warn, .info, .debug, .trace]

/-- The level a name stands for, ignoring ASCII case. -/
def ofName? (s : String) : Option LogLevel :=
  all.find? fun l => Text.eqIgnoreAsciiCase l.name s

end LogLevel

/-- The settings the editor starts with. -/
structure Config where
  baseDir : Option String
  profile : Profile
  logLevel : LogLevel

namespace Config

/-- The variable naming the dictionary directory. -/
def dirVariable : String := "DKST_DICT_DIR"

/-- The variable naming the first language. -/
def profileVariable : String := "DKST_DICT_PROFILE"

/-- The variable naming the log level. -/
def logVariable : String := "DKST_DICT_LOG"

/-- The settings read from a lookup of environment variables. -/
def ofLookup (lookup : String → Option String) : Config where
  baseDir :=
    match lookup dirVariable with
    | some dir => if Text.isBlankText dir then none else some (Text.trim dir)
    | none => none
  profile := ((lookup profileVariable).bind Profile.find?).getD Profile.default
  logLevel := ((lookup logVariable).bind fun s => LogLevel.ofName? (Text.trim s)).getD .info

/-- The complaints about unusable values, one per variable that fell back to its default. -/
def complaints (lookup : String → Option String) : List String :=
  let profile := match lookup profileVariable with
    | some code =>
      if (Profile.find? code).isSome then []
      else [s!"{profileVariable}: unknown profile '{code}', using en"]
    | none => []
  let level := match lookup logVariable with
    | some l =>
      if (LogLevel.ofName? (Text.trim l)).isSome then []
      else [s!"{logVariable}: invalid level '{l}', using info"]
    | none => []
  profile ++ level

end Config

end Wordbook
