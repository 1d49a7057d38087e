/-!
# Log levels and formats

Levels run from errors, the most important, to traces. Both levels and formats are named in
letters of either case. The lower case of a letter outside ASCII is never one of the letters in
these names, so lowering ASCII letters alone finds the same names.
-/

namespace SymbolTrace.Logging

/-- How important an event is. -/
inductive Level where
  | error
  | warn
  | info
  | debug
  | trace
deriving DecidableEq, Repr

/-- The position of a level; events of greater verbosity are less important. -/
def Level.verbosity : Level → Nat
  | error => 1
  | warn => 2
  | info => 3
  | debug => 4
  | trace => 5

/-- The name a level is logged under. -/
def Level.label : Level → String
  | error => "ERROR"
  | warn => "WARN"
  | info => "INFO"
  | debug => "DEBUG"
  | trace => "TRACE"

/-- How events are written. -/
inductive Format where
  | pretty
  | json
deriving DecidableEq, Repr

/-- Why a setting was not understood, or a log file cannot be used. -/
inductive Fault where
  | unknownFormat (text : String)
  | unknownLevel (text : String)
deriving DecidableEq, Repr

/-- The sentence printed for a setting that was not understood. -/
def Fault.message : Fault → String
  | unknownFormat text => "Unknown log format: " ++ text ++ ". Use 'pretty' or 'json'"
  | unknownLevel text =>
      "Unknown log level: " ++ text ++ ". Use 'error', 'warn', 'info', 'debug', or 'trace'"

/-- A text with its ASCII letters in lower case. -/
def lowerCase (text : String) : String :=
  String.ofList (text.toList.map Char.toLower)

/-- The format that a text names. -/
def Format.parse (text : String) : Except Fault Format :=
  match lowerCase text with
  | "pretty" | "dev" | "development" => .ok .pretty
  | "json" | "prod" | "production" => .ok .json
  | _ => .error (.unknownFormat text)

/-- The level that a text names. -/
def Level.parse (text : String) : Except Fault Level :=
  match lowerCase text with
  | "error" | "err" => .ok .error
  | "warn" | "warning" => .ok .warn
  | "info" => .ok .info
  | "debug" | "dbg" => .ok .debug
  | "trace" => .ok .trace
  | _ => .error (.unknownLevel text)

end SymbolTrace.Logging
