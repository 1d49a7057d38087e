import SymbolTrace.CommandLine.Help
import SymbolTrace.CommandLine.Run

/-!
# Whole runs of the program

From the words of the command line, the environment, the input stream and the files to everything
that the program leaves behind: its exit code, what it prints, what it complains about, and the
log on the console and in a file.
-/

namespace SymbolTrace.CommandLine

open Logging

/-- What surrounds a run of the program. -/
structure Surroundings where
  environment : Environment
  input : ByteArray
  tree : FileTree
  /-- The current day, as log files are named after it. -/
  date : String

/-- The code of a run that ends with a faulty command line. -/
def usageCode : Nat := 2

/-- The code of a run that fails. -/
def failureCode : Nat := 1

/-- A run that ends while the command line is read. -/
def Stop.session : Stop → Session
  | faulty fault => .brief usageCode "" (some fault.report)
  | help topic => .brief 0 topic.text none
  | version => .brief 0 (versionLine ++ "\n") none
  | nothingAsked => .brief usageCode "" none

/-- The code of a run that is given up at once. -/
def abandonedCode : Nat := 101

/-- A run whose filter cannot be read. -/
def filterSession (place : BrokenCharacter) : Session :=
  .brief abandonedCode "" (some place.message)

/-- A run that cannot log to the file it was asked to log to. It says why, unless the file itself
could not be opened; then the run is given up at once. -/
def logFileSession : LogFileFault → Session
  | .notOpened _ => .brief abandonedCode "" none
  | fault => .brief failureCode "" (some ("Failed to initialize logging: " ++ fault.message))

/-- Open the log file, if one is asked for. This gives the files that are there afterwards and
where the log file is. -/
def prepareLog (settings : Settings) (surroundings : Surroundings) :
    Except LogFileFault (FileTree × Option FileTree.Place) :=
  match settings.file with
  | none => .ok (surroundings.tree, none)
  | some path => do
      let (tree, place) ← openLogFile surroundings.tree surroundings.date path
      return (tree, some place)

/-- The session of an outcome, whose events are also logged to the file at a place. A file outside
the working directory is not part of what is known to be left behind. -/
def Outcome.session (outcome : Outcome) (format : Format) (log : Option FileTree.Place) :
    Session where
  code := outcome.code
  output := outcome.output
  complaint := outcome.failure.map ("Error: " ++ ·)
  format := format
  events := outcome.events
  logFile :=
    match log with
    | some (.inside components) => some ⟨components, format, outcome.events⟩
    | _ => none

variable [Mangling.Allocator]

/-- A run that carries out a request. The filter is read before the log file is opened; if it cannot
be, the run is given up at once. -/
def Invocation.session (equipment : Equipment) (invocation : Invocation)
    (surroundings : Surroundings) : Session :=
  let settings := invocation.settings surroundings.environment
  match settings.filter surroundings.environment with
  | .error place => filterSession place
  | .ok filter =>
      match prepareLog settings surroundings with
      | .error fault => logFileSession fault
      | .ok (tree, log) =>
          let outcome := invocation.run equipment filter surroundings.input tree.read
          outcome.session settings.format log

/-- A whole run of the program. -/
def run (equipment : Equipment) (words : List String) (surroundings : Surroundings) : Session :=
  match parse words with
  | .error stop => stop.session
  | .ok invocation => invocation.session equipment surroundings

end SymbolTrace.CommandLine
