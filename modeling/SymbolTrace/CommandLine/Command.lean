import SymbolTrace.Address
import SymbolTrace.Logging.Level
import SymbolTrace.Text.Styled

/-!
# Commands

What the program can be asked to do.
-/

namespace SymbolTrace.CommandLine

open Text

/-- A request to the program. -/
inductive Command where
  /-- Decode each symbol, or name it by the whole chain of demanglers. -/
  | demangle (symbols : List String) (all : Bool)
  /-- Copy the input, decoding the symbols in its text. -/
  | filter
  /-- Render addresses recorded elsewhere against the symbols of a file. -/
  | symbolize (binary : String) (loadAddress : Option Address) (addresses : List Address)
  /-- Print the program's own stack trace. -/
  | trace (maxDepth : Nat)
deriving DecidableEq, Repr

/-- A command, with the flags about logging. -/
structure Invocation where
  level : Option Logging.Level
  format : Option Logging.Format
  command : Command
deriving DecidableEq, Repr

/-- The name of a command. -/
inductive CommandName where
  | demangle
  | filter
  | symbolize
  | trace
deriving DecidableEq, Repr

/-- The name as it is written. -/
def CommandName.label : CommandName → String
  | demangle => "demangle"
  | filter => "filter"
  | symbolize => "symbolize"
  | trace => "trace"

/-- The command that a word names. -/
def CommandName.parse? : String → Option CommandName
  | "demangle" => some demangle
  | "filter" => some filter
  | "symbolize" => some symbolize
  | "trace" => some trace
  | _ => none

/-- What a word of the command line may supply a value for. -/
inductive Parameter where
  | level
  | format
  | loadAddress
  | maxDepth
  | symbols
  | binary
  | addresses
deriving DecidableEq, Repr

/-- A parameter as it is shown in messages. -/
def Parameter.label : Parameter → String
  | level => "--log-level <LOG_LEVEL>"
  | format => "--log-format <LOG_FORMAT>"
  | loadAddress => "--load-address <LOAD_ADDRESS>"
  | maxDepth => "--max-depth <MAX_DEPTH>"
  | symbols => "<SYMBOLS>..."
  | binary => "<BINARY>"
  | addresses => "<ADDRESSES>..."

/-- What is wrong with a command line. -/
inductive UsageFault where
  | missingArguments
  | missingCommand
  | unknownCommand (word : String)
  /-- The word may be meant as a value. -/
  | unexpectedArgument (word : String) (mayBeValue : Bool)
  | unexpectedValue (value option : String)
  | repeated (option : String)
  | missingValue (parameter : Parameter)
  | invalidValue (value : String) (parameter : Parameter) (reason : String)
deriving DecidableEq, Repr

/-- What the program calls itself. -/
def programName : String := "wdemangle"

/-! ### Messages -/

/-- Something that is wrong, in quotes and in yellow. -/
def quotedFault (word : String) : String := "'" ++ inStyles [33] word ++ "'"

/-- Something to be typed, in quotes and in bold letters. -/
def quotedLiteral (word : String) : String := "'" ++ inStyles [1] word ++ "'"

/-- Something that would be right, in quotes and in green. -/
def quotedAdvice (word : String) : String := "'" ++ inStyles [32] word ++ "'"

/-- What is wrong, in a sentence. -/
def UsageFault.message : UsageFault → String
  | missingArguments => "the following required arguments were not provided:"
  | missingCommand =>
      quotedFault programName ++ " requires a subcommand but one was not provided"
  | unknownCommand word => "unrecognized subcommand " ++ quotedFault word
  | unexpectedArgument word _ => "unexpected argument " ++ quotedFault word ++ " found"
  | unexpectedValue value option =>
      "unexpected value " ++ quotedFault value ++ " for " ++ quotedLiteral option ++
        " found; no more were expected"
  | repeated option =>
      "the argument " ++ quotedFault option ++ " cannot be used multiple times"
  | missingValue parameter =>
      "a value is required for " ++ quotedFault parameter.label ++ " but none was supplied"
  | invalidValue value parameter reason =>
      "invalid value " ++ quotedFault value ++ " for " ++ quotedLiteral parameter.label ++
        ": " ++ reason

/-- The line of advice after the sentence, if there is any. -/
def UsageFault.advice? : UsageFault → Option String
  | unexpectedArgument word true =>
      some ("  " ++ inStyles [32] "tip:" ++ " to pass " ++ quotedFault word ++
        " as a value, use " ++ quotedAdvice ("-- " ++ word))
  | _ => none

/-- All that is printed about a faulty command line, a blank line between its parts. The stream
that it goes to is not taken for a console, so the styles are taken out again, together with the
instructions to consoles in the words that it quotes. -/
def UsageFault.report (fault : UsageFault) : String :=
  plain ("\n\n".intercalate (
    [inStyles [1, 31] "error:" ++ " " ++ fault.message] ++ fault.advice?.toList ++
      ["For more information, try " ++ quotedLiteral "--help" ++ "."]))

end SymbolTrace.CommandLine
