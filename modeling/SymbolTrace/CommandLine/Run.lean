import SymbolTrace.CommandLine.Arguments
import SymbolTrace.Image.Load
import SymbolTrace.Logging.FilterText
import SymbolTrace.Logging.LogFile
import SymbolTrace.RunningText
import SymbolTrace.TextLines

/-!
# Carrying out commands

A command takes the input stream and the files it may read, and gives back what it prints, the
events it logs and, if it fails, why. Nothing here touches the world: what is printed and logged
is a value.

* `Equipment`: what the commands use that comes from elsewhere.
* `symbolLine`: one line of the `demangle` command.
* `filterLines`: the output of the `filter` command.
* `symbolize`: the output of the `symbolize` command.
* `Command.run`: any command.
-/

namespace SymbolTrace.CommandLine

open Logging Mangling

/-- What the commands use that comes from elsewhere. -/
structure Equipment where
  reader : ObjectReader
  /-- The demangler for the schemes of other toolchains. -/
  secondary : SecondaryDemangler

/-- What carrying out a command gives. -/
structure Outcome where
  /-- The text printed. -/
  output : String
  /-- What the command failed with. -/
  failure : Option String
  /-- The events logged, filtered by nothing yet. -/
  events : List Event
deriving DecidableEq, Repr

/-- The exit code of an outcome. -/
def Outcome.code (outcome : Outcome) : Nat :=
  if outcome.failure.isSome then 1 else 0

/-! ### Events -/

/-- Where the commands log from. -/
def commandTarget : String := "wdemangle"

/-- Where the crash handler logs from. -/
def crashTarget : String := "wdemangle_core::crash"

/-- Where images log from. -/
def imageTarget : String := "wdemangle_core::symbols::image"

/-- The crash handler is in place. -/
def handlerInstalled : Event := ⟨.debug, crashTarget, "crash handler installed", []⟩

/-- How the log spells the kind of a symbol. -/
def kindTag : Option Kind → String
  | none => "None"
  | some .type => "Some(Type)"
  | some .closure => "Some(Closure)"
  | some (.function .free) => "Some(Function(Free))"
  | some (.function .method) => "Some(Function(Method))"
  | some (.function .initializer) => "Some(Function(Initializer))"
  | some (.function .deinitializer) => "Some(Function(Deinitializer))"

/-- A symbol was not decoded. -/
def decodeFailed (symbol : String) (error : DecodeError) : Event where
  level := .debug
  target := commandTarget
  message := "decode failed"
  fields := [("symbol", .text symbol), ("kind", .text (kindTag (Kind.ofSymbol? symbol))),
    ("error", .text error.message)]

/-- A symbol is named by the whole chain of demanglers. -/
def chainUsed (name : NamedSymbol) : Event where
  level := .debug
  target := commandTarget
  message := "fallback chain"
  fields := [("symbol", .text name.raw), ("language", .text name.language.label)]

/-- A file is about to be loaded. -/
def loadingSymbols (path : String) : Event :=
  ⟨.info, commandTarget, "Loading symbols from " ++ path, []⟩

/-- An image was loaded. -/
def imageLoaded (image : Image) : Event where
  level := .debug
  target := imageTarget
  message := "loaded binary image"
  fields := [("path", .text image.path), ("load_address", .text image.loadAddress.text),
    ("slide", .integer image.slide.toInt)]

/-- An address as the log spells it. -/
def addressTag (a : Address) : String :=
  "Address(" ++ a.toNat.repr ++ ")"

/-- An image was mapped at a given address. -/
def imageMapped (image : Image) : Event where
  level := .debug
  target := commandTarget
  message := "image mapped"
  fields := [("range", .text
    ("(" ++ addressTag image.loadAddress ++ ", " ++ addressTag image.endAddress ++ ")"))]

/-- The symbol table of an image was read. -/
def tableRead (image : Image) : Event where
  level := .debug
  target := imageTarget
  message := "read symbol table"
  fields := [("path", .text image.path), ("count", .integer image.symbols.length)]

/-! ### Demangle -/

variable [Allocator]

/-- The line printed for a symbol, given its shown form if it has one. -/
def namedLine (symbol : String) : Option String → String
  | some shown => symbol ++ " => " ++ shown
  | none => "could not demangle " ++ symbol

/-- The line printed for a symbol. With `all`, the secondary demangler is asked too. -/
def symbolLine (secondary : SecondaryDemangler) (all : Bool) (symbol : String) : String :=
  if all then namedLine symbol (NamedSymbol.ofRaw secondary symbol).demangled
  else namedLine symbol (demangle symbol).toOption

/-- The events logged for a symbol. -/
def demangleEvents (secondary : SecondaryDemangler) (all : Bool) (symbol : String) : List Event :=
  if all then [chainUsed (NamedSymbol.ofRaw secondary symbol)]
  else
    match demangle symbol with
    | .ok _ => []
    | .error error => [decodeFailed symbol error]

/-- A text followed by a line break. -/
def terminated (line : String) : String := line ++ "\n"

/-! ### Filter -/

/-- The lines of an input stream made readable, and whether all of it was text. -/
def filterLines (input : ByteArray) : String × Bool :=
  let (lines, complete) := TextLines.ofBytes input
  (String.join (lines.map fun line => terminated (RunningText.demangleWords line).text), complete)

/-- What an input stream that is not text is answered with. -/
def notText : String := "stream did not contain valid UTF-8"

/-! ### Symbolize -/

/-- The renderer of recorded addresses: every address is rendered. -/
def recordedRenderer (secondary : SecondaryDemangler) (image : Image) (addresses : List Address) :
    Renderer where
  resolve := (ImageList.empty.add image).resolve
  secondary := secondary
  maxDepth := addresses.length

/-- Render addresses against the symbols of a file. -/
def symbolize (equipment : Equipment) (files : FileReader) (path : String)
    (loadAddress : Option Address) (addresses : List Address) : Outcome :=
  match Image.load equipment.reader files path loadAddress with
  | .error fault => ⟨"", some fault.message, [loadingSymbols path]⟩
  | .ok image =>
      { output := (recordedRenderer equipment.secondary image addresses).report addresses
        failure := none
        events := [loadingSymbols path, imageLoaded image] ++
          (if loadAddress.isSome then [imageMapped image] else []) ++
          (if addresses.any fun a => (image.toFile? a).isSome then [tableRead image]
            else []) }

/-! ### Commands -/

/-- The renderer of the program's own stack. -/
def ownRenderer (secondary : SecondaryDemangler) (maxDepth : Nat) : Renderer where
  resolve := fun _ => none
  secondary := secondary
  maxDepth := maxDepth

/-- Carry out a command. -/
def Command.run (equipment : Equipment) (input : ByteArray) (files : FileReader) :
    Command → Outcome
  | demangle symbols all =>
      { output := String.join
          (symbols.map fun symbol => terminated (symbolLine equipment.secondary all symbol))
        failure := none
        events := symbols.flatMap (demangleEvents equipment.secondary all) }
  | filter =>
      let (output, complete) := filterLines input
      ⟨output, if complete then none else some notText, []⟩
  | symbolize path loadAddress addresses =>
      CommandLine.symbolize equipment files path loadAddress addresses
  | trace maxDepth =>
      let renderer := ownRenderer equipment.secondary maxDepth
      ⟨renderer.report (renderer.unwound Unwinder.nothing), none, []⟩

/-- The settings of a request: those of the environment, overridden by its flags. -/
def Invocation.settings (invocation : Invocation) (environment : Environment) : Settings :=
  (Settings.ofEnvironment environment).override invocation.level invocation.format

/-- Carry out a request and keep the events that get through the filter. -/
def Invocation.run (equipment : Equipment) (invocation : Invocation) (filter : Filter)
    (input : ByteArray) (files : FileReader) : Outcome :=
  let outcome := invocation.command.run equipment input files
  { outcome with events := (handlerInstalled :: outcome.events).filter filter.passes }

/-! ### Sessions -/

/-- A file that received log events. -/
structure LogFile where
  /-- The components of its path below the working directory. -/
  components : List String
  format : Format
  events : List Event
deriving DecidableEq, Repr

/-- What is written to a log file. -/
def LogFile.text (file : LogFile) : String :=
  fileText file.format file.events

/-- All that the program leaves behind. -/
structure Session where
  code : Nat
  output : String
  /-- The sentence that says what went wrong. -/
  complaint : Option String
  /-- The format of the console, and the events logged there. -/
  format : Format
  events : List Event
  logFile : Option LogFile

/-- What is written to the error stream: the events, then what went wrong. -/
def Session.errorText (session : Session) : String :=
  consoleText session.format session.events ++ (session.complaint.map terminated).getD ""

/-- A session that ends before anything is logged. -/
def Session.brief (code : Nat) (output : String) (complaint : Option String) : Session :=
  ⟨code, output, complaint, .pretty, [], none⟩

end SymbolTrace.CommandLine
