import SymbolTrace.Address.Parse
import SymbolTrace.CommandLine.Command
import SymbolTrace.StackTrace
import SymbolTrace.Text.Similarity

/-!
# Reading the command line

Words are read from left to right. A word that starts with two dashes is an option, one with a
single dash and more is a flag, and every other word is a value: of the option that waits for
one, or of the next argument of the command. After a lone double dash every word is a value.

Values are gathered as they come and judged later: when another option or argument turns up, or
at the end. So the first fault reported is not always the leftmost one; a word that is not
understood at all is reported at once, whatever values are still to be judged. The flags about
logging may stand before the command as well as after it, and the ones after it win.

* `parse`: the request that the words of a command line make, or why there is none.
-/

namespace SymbolTrace.CommandLine

/-- What help is asked for. -/
inductive HelpTopic where
  | program
  | command (name : CommandName)
  | help
deriving DecidableEq, Repr

/-- Why reading ended without a request to carry out. -/
inductive Stop where
  | faulty (fault : UsageFault)
  | help (topic : HelpTopic)
  | version
  /-- There is no word at all that says what to do. -/
  | nothingAsked
deriving DecidableEq, Repr

/-! ### Judged values -/

/-- The values that have been judged so far. -/
structure Supplied where
  level : Option Logging.Level
  format : Option Logging.Format
  all : Bool
  loadAddress : Option Address
  maxDepth : Option Nat
  symbols : List String
  binary : Option String
  addresses : List Address
deriving DecidableEq, Repr

namespace Supplied

/-- No values. -/
def nothing : Supplied where
  level := none
  format := none
  all := false
  loadAddress := none
  maxDepth := none
  symbols := []
  binary := none
  addresses := []

/-- The one value of an option that has none yet, as `parse` understands it. -/
def single {α : Type} (parameter : Parameter) (present : Bool) (values : List String)
    (parse : String → Except String α) : Except UsageFault α :=
  match values with
  | [] => .error (.missingValue parameter)
  | value :: _ =>
      if present then .error (.repeated parameter.label)
      else
        match parse value with
        | .ok value => .ok value
        | .error reason => .error (.invalidValue value parameter reason)

/-- The addresses that words stand for. -/
def parseAddresses : List String → Except UsageFault (List Address)
  | [] => .ok []
  | word :: words =>
      match Address.parse word with
      | .error fault => .error (.invalidValue word .addresses fault.message)
      | .ok address => do
          let addresses ← parseAddresses words
          return address :: addresses

/-- Judge the values gathered for a parameter. -/
def supply (supplied : Supplied) (parameter : Parameter) (values : List String) :
    Except UsageFault Supplied :=
  match parameter with
  | .level => do
      let level ← single .level supplied.level.isSome values fun text =>
        (Logging.Level.parse text).mapError Logging.Fault.message
      return { supplied with level := some level }
  | .format => do
      let format ← single .format supplied.format.isSome values fun text =>
        (Logging.Format.parse text).mapError Logging.Fault.message
      return { supplied with format := some format }
  | .loadAddress => do
      let address ← single .loadAddress supplied.loadAddress.isSome values fun text =>
        (Address.parse text).mapError AddressFault.message
      return { supplied with loadAddress := some address }
  | .maxDepth => do
      let depth ← single .maxDepth supplied.maxDepth.isSome values fun text =>
        (Numeral.readDecimal text).mapError Numeral.Fault.message
      return { supplied with maxDepth := some depth }
  | .symbols => .ok { supplied with symbols := supplied.symbols ++ values }
  | .binary =>
      match values with
      | [] | "" :: _ => .error (.missingValue .binary)
      | path :: _ => .ok { supplied with binary := some path }
  | .addresses => do
      let addresses ← parseAddresses values
      return { supplied with addresses := supplied.addresses ++ addresses }

end Supplied

/-! ### Reading words -/

/-- What has been read so far. -/
structure Progress where
  supplied : Supplied
  /-- Values gathered for a parameter and not judged yet. -/
  pending : Option (Parameter × List String)
  /-- Does an option wait for its value? -/
  waiting : Bool
  /-- Has the double dash been read? -/
  onlyValues : Bool
deriving DecidableEq, Repr

namespace Progress

/-- Nothing read. -/
def start : Progress := ⟨Supplied.nothing, none, false, false⟩

/-- Judge the values that are pending. -/
def settle (progress : Progress) : Except Stop Progress :=
  match progress.pending with
  | none => .ok { progress with waiting := false }
  | some (parameter, values) =>
      match progress.supplied.supply parameter values with
      | .ok supplied => .ok ⟨supplied, none, false, progress.onlyValues⟩
      | .error fault => .error (.faulty fault)

/-- Gather one more value for the parameter that is pending, or judge that one first. -/
def gather (progress : Progress) (parameter : Parameter) (word : String) :
    Except Stop Progress :=
  match progress.pending with
  | some (other, values) =>
      if other = parameter then
        .ok { progress with pending := some (parameter, values ++ [word]), waiting := false }
      else do
        let progress ← progress.settle
        return { progress with pending := some (parameter, [word]) }
  | none => .ok { progress with pending := some (parameter, [word]), waiting := false }

end Progress

/-- What an option or flag does. -/
inductive Switch where
  /-- It takes a value. -/
  | takes (parameter : Parameter)
  | all
  | help
  | version
deriving DecidableEq, Repr

/-- The option with a long name; some belong to one command, or stand only before it. -/
def longSwitch? (command : Option CommandName) (name : String) : Option Switch :=
  match name, command with
  | "log-level", _ => some (.takes .level)
  | "log-format", _ => some (.takes .format)
  | "help", _ => some .help
  | "version", none => some .version
  | "all", some .demangle => some .all
  | "load-address", some .symbolize => some (.takes .loadAddress)
  | "max-depth", some .trace => some (.takes .maxDepth)
  | _, _ => none

/-- The flag with a one-letter name. -/
def shortSwitch? (command : Option CommandName) (name : Char) : Option Switch :=
  match name, command with
  | 'h', _ => some .help
  | 'V', none => some .version
  | _, _ => none

/-- The help that is asked for after a command, or before any. -/
def helpTopic : Option CommandName → HelpTopic
  | none => .program
  | some name => .command name

/-- Carry out a flag, once the values before it are judged. -/
def throwSwitch (command : Option CommandName) (progress : Progress) (switch : Switch) :
    Except Stop Progress := do
  let progress ← progress.settle
  match switch with
  | .takes parameter => return { progress with pending := some (parameter, []), waiting := true }
  | .all =>
      if progress.supplied.all then throw (.faulty (.repeated "--all"))
      else return { progress with supplied := { progress.supplied with all := true } }
  | .help => throw (.help (helpTopic command))
  | .version => throw .version

/-- Does the command take values that belong to no option? -/
def takesValues : Option CommandName → Bool
  | some .demangle | some .symbolize => true
  | _ => false

/-- The long names of the options that a command knows. -/
def longNames (command : Option CommandName) : List String :=
  ["log-level", "log-format", "help", "version", "all", "load-address", "max-depth"].filter
    fun name => (longSwitch? command name).isSome

/-- May the name of an unknown option be meant as a value? It may not if it looks like the name of
an option. -/
def mayBeValue (command : Option CommandName) (name : String) : Bool :=
  takesValues command &&
    !(longNames command).any fun known => 0.7 < Text.similarity name.toList known.toList

/-- Read the rest of a word that starts with two dashes. -/
def readLong (command : Option CommandName) (progress : Progress) (word : List Char) :
    Except Stop Progress :=
  let name := String.ofList (word.takeWhile (· ≠ '='))
  let attached := match word.dropWhile (· ≠ '=') with
    | [] => none
    | _ :: value => some (String.ofList value)
  match longSwitch? command name, attached with
  | none, _ =>
      .error (.faulty (.unexpectedArgument ("--" ++ name) (mayBeValue command name)))
  | some (.takes parameter), some value => do
      let progress ← progress.settle
      let progress ← progress.gather parameter value
      progress.settle
  | some _, some value => .error (.faulty (.unexpectedValue value ("--" ++ name)))
  | some switch, none => throwSwitch command progress switch

/-- Read a flag of one letter. -/
def readShort (command : Option CommandName) (progress : Progress) (name : Char) :
    Except Stop Progress :=
  match shortSwitch? command name with
  | none => .error (.faulty (.unexpectedArgument (String.ofList ['-', name]) (takesValues command)))
  | some switch => throwSwitch command progress switch

/-- The argument that the next plain word belongs to. -/
def nextArgument? (command : Option CommandName) (progress : Progress) : Option Parameter :=
  match command with
  | some .demangle => some .symbols
  | some .symbolize =>
      if progress.supplied.binary.isSome || (progress.pending.map (·.1)) == some .binary then
        some .addresses
      else some .binary
  | _ => none

/-- Does a word name a command, the request for help included? -/
def namesCommand (word : String) : Bool :=
  (CommandName.parse? word).isSome || word == "help"

/-- Read a word that belongs to an argument. -/
def readArgument (command : Option CommandName) (progress : Progress) (word : String) :
    Except Stop Progress :=
  match nextArgument? command progress with
  | some parameter => progress.gather parameter word
  | none =>
      if command.isNone && !(progress.onlyValues && namesCommand word) then
        .error (.faulty (.unknownCommand word))
      else .error (.faulty (.unexpectedArgument word false))

/-- Read a word that names no command. -/
def readWord (command : Option CommandName) (progress : Progress) (word : String) :
    Except Stop Progress :=
  if progress.onlyValues then readArgument command progress word
  else
    match word.toList, progress.waiting, progress.pending with
    | ['-', '-'], _, _ => .ok { progress with onlyValues := true }
    | '-' :: '-' :: rest, _, _ => readLong command progress rest
    | '-' :: name :: _, _, _ => readShort command progress name
    | _, true, some (parameter, _) => progress.gather parameter word
    | _, _, _ => readArgument command progress word

/-! ### Requests -/

/-- Read the words after a command. -/
def readCommandWords (name : CommandName) (progress : Progress) :
    List String → Except Stop Progress
  | [] => progress.settle
  | word :: words => do
      let progress ← readWord (some name) progress word
      readCommandWords name progress words

/-- The command that the values make, if none is missing. -/
def Supplied.command (supplied : Supplied) : CommandName → Except Stop Command
  | .demangle =>
      if supplied.symbols.isEmpty then .error (.faulty .missingArguments)
      else .ok (.demangle supplied.symbols supplied.all)
  | .filter => .ok .filter
  | .symbolize =>
      match supplied.binary with
      | none => .error (.faulty .missingArguments)
      | some binary =>
          if supplied.addresses.isEmpty then .error (.faulty .missingArguments)
          else .ok (.symbolize binary supplied.loadAddress supplied.addresses)
  | .trace => .ok (.trace (supplied.maxDepth.getD maxUnwindDepth))

/-- The request that a command and the words after it make; what stands before the command is
judged last. -/
def readCommand (name : CommandName) (before : Progress) (words : List String) :
    Except Stop Invocation := do
  let after ← readCommandWords name Progress.start words
  let command ← after.supplied.command name
  let before ← before.settle
  return {
    level := after.supplied.level.or before.supplied.level
    format := after.supplied.format.or before.supplied.format
    command }

/-- The help that the words after a request for help ask for. -/
def readHelp : List String → Stop
  | [] => .help .program
  | word :: rest =>
      match CommandName.parse? word, rest with
      | some name, [] => .help (.command name)
      | none, _ =>
          if word = "help" then
            match rest with
            | [] => .help .help
            | next :: _ => .faulty (.unknownCommand next)
          else .faulty (.unknownCommand word)
      | some _, next :: _ => .faulty (.unknownCommand next)

/-- Read words up to a command and then the command. -/
def readWords (progress : Progress) : List String → Except Stop Invocation
  | [] => do
      let progress ← progress.settle
      if progress.supplied.level.isNone && progress.supplied.format.isNone then
        throw .nothingAsked
      else throw (.faulty .missingCommand)
  | word :: words =>
      if progress.onlyValues || progress.waiting then do
        let progress ← readWord none progress word
        readWords progress words
      else
        match CommandName.parse? word with
        | some name => readCommand name progress words
        | none =>
            if word = "help" then .error (readHelp words)
            else do
              let progress ← readWord none progress word
              readWords progress words

/-- The request that the words of a command line make. -/
def parse (words : List String) : Except Stop Invocation :=
  readWords Progress.start words

end SymbolTrace.CommandLine
