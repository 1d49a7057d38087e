import Std.Time.Format
import SymbolTrace.CommandLine.Session
import SymbolTrace.Foreign.Demangler
import SymbolTrace.ObjectFile.Read

/-!
# The program

The words of the command line, the environment and the files are fetched, `CommandLine` says what
is to be printed and logged, and that is carried out. Nothing is decided here but what the commands
are equipped with.
-/

namespace SymbolTrace.Program

open CommandLine Logging

/-! ### Equipment -/

/-- The reader of object files and the demangler for foreign names. -/
def equipment : Equipment where
  reader := ObjectFile.reader
  secondary := Foreign.demangler

/-- A run of pointer markers has to fit into an address space of 47 bits. -/
@[reducible]
def addressSpace : Mangling.Allocator where
  holdsRun count := count < 0x800000000000
  lt_numberBound h := Nat.lt_trans (of_decide_eq_true h) (by decide)

attribute [local instance] addressSpace

/-! ### Fetching -/

/-- What the system answered, as a fault of the library. The number of an answer that concerns
directories may come negated, as a 32-bit word. -/
def fileFault : IO.Error → FileFault
  | .noFileOrDirectory .. => .notFound
  | .alreadyExists .. => .alreadyExists
  | .inappropriateType _ 20 _ | .inappropriateType _ 4294967276 _ => .notADirectory
  | .inappropriateType _ 21 _ => .isADirectory
  | error => .other error.toString

/-- The contents of a file. -/
def fetchFile (path : String) : IO (Except FileFault ByteArray) := do
  try
    return .ok (← IO.FS.readBinFile path)
  catch error => return .error (fileFault error)

/-- All that is left of a stream, after what has been read. -/
partial def fetchRest (stream : IO.FS.Stream) (front : ByteArray) : IO ByteArray := do
  let chunk ← stream.read 65536
  if chunk.isEmpty then return front
  fetchRest stream (front ++ chunk)

/-- The variables that the program looks at. -/
def fetchEnvironment : IO Environment := do
  let names := [filterVariable, formatVariable, fileVariable]
  let entries ← names.mapM fun name => return (name, ← IO.getEnv name)
  return fun name => (entries.lookup name).join

/-- The input stream, for the command that reads it. -/
def fetchInput : Command → IO ByteArray
  | .filter => do fetchRest (← IO.getStdin) ByteArray.empty
  | _ => return ByteArray.empty

/-- The files, for the command that reads one. It asks for no other. -/
def fetchFiles : Command → IO FileReader
  | .symbolize path _ _ => do
      let contents ← fetchFile path
      return fun asked => if asked = path then contents else .error .notFound
  | _ => return fun _ => .error .notFound

/-! ### Log files -/

/-- Does the path lead to a directory? Directories alone hold themselves under the name `.`. -/
def isDirectory (path : String) : IO Bool := do
  try
    let _ ← IO.FS.Handle.mk (path ++ "/.") .read
    return true
  catch _ => return false

/-- The current day, in universal time. -/
def today : IO String := do
  let days := (← Std.Time.Timestamp.now).toDaysSinceUnixEpoch
  return (Std.Time.PlainDate.ofEpochDay days).toLeanDateString

/-- The path of the file that a log file's path stands for. -/
def fetchLogPath (path : String) : IO (Except LogFileFault String) := do
  if ← isDirectory path then
    return .ok (PathName.join path (datedName (← today)))
  else if (PathName.fileName? path).isNone then
    return .error (.noFileName path)
  else
    return .ok path

/-- Make a directory and what leads to it. The empty path is the working directory. -/
def makeDirectory (path : String) : IO (Except FileFault Unit) := do
  try
    if path != "" then
      IO.FS.createDirAll path
    return .ok ()
  catch error => return .error (fileFault error)

/-- A file opened for writing after its end. -/
def openForAppending (path : String) : IO (Except FileFault IO.FS.Handle) := do
  try
    return .ok (← IO.FS.Handle.mk path .append)
  catch error => return .error (fileFault error)

/-- A log file opened for writing after its end. -/
def openLog (path : String) : IO (Except LogFileFault IO.FS.Handle) := do
  match ← fetchLogPath path with
  | .error fault => return .error fault
  | .ok file =>
      match ← makeDirectory (PathName.directory file) with
      | .error fault => return .error (.noDirectory fault)
      | .ok () => return (← openForAppending file).mapError .notOpened

/-- The log file of the settings, if they name one. -/
def openLog? (settings : Settings) : IO (Except LogFileFault (Option IO.FS.Handle)) := do
  match settings.file with
  | none => return .ok none
  | some path => return (← openLog path).map some

/-! ### Carrying out -/

/-- Print what a session printed, logged and complained about. -/
def present (session : Session) (log : Option IO.FS.Handle) : IO UInt32 := do
  if let some log := log then
    log.putStr (fileText session.format session.events)
  IO.print session.output
  IO.eprint session.errorText
  return UInt32.ofNat session.code

/-- Carry out a request. -/
def carryOut (invocation : Invocation) : IO UInt32 := do
  let environment ← fetchEnvironment
  let settings := invocation.settings environment
  match settings.filter environment with
  | .error place => present (filterSession place) none
  | .ok filter =>
      match ← openLog? settings with
      | .error fault => present (logFileSession fault) none
      | .ok log =>
          let input ← fetchInput invocation.command
          let files ← fetchFiles invocation.command
          let outcome := invocation.run equipment filter input files
          present (outcome.session settings.format none) log

end SymbolTrace.Program

/-- Run the program on the words of its command line. -/
def main (words : List String) : IO UInt32 := do
  match SymbolTrace.CommandLine.parse words with
  | .error stop => SymbolTrace.Program.present stop.session none
  | .ok invocation => SymbolTrace.Program.carryOut invocation
