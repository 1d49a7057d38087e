import SymbolTrace.CommandLine.Arguments

/-!
# Help texts

What is printed when help or the version is asked for. Help consists of titled lists, which give
the meaning of each entry in a column of its own.
-/

namespace SymbolTrace.CommandLine

/-- The name of the program and its version. -/
def versionLine : String := "wdemangle 0.0.0"

/-! ### Lists -/

/-- An entry of a help text and what it means. -/
structure HelpEntry where
  /-- What stands in front of the name: a short flag, or the blanks in place of one. -/
  lead : String
  name : String
  meaning : String

/-- An entry that nothing stands in front of. -/
def HelpEntry.plain (name meaning : String) : HelpEntry := ⟨"", name, meaning⟩

/-- An option that has no short flag. -/
def HelpEntry.option (name meaning : String) : HelpEntry := ⟨"    ", name, meaning⟩

/-- The length of the longest name. -/
def longestName (entries : List HelpEntry) : Nat :=
  (entries.map fun entry => entry.name.length).foldl max 0

/-- The text of an entry, in lists whose longest name has a given length. -/
def HelpEntry.text (longest : Nat) (entry : HelpEntry) : String :=
  "  " ++ entry.lead ++ padRight (longest + 2) entry.name ++ entry.meaning ++ "\n"

/-- A titled list. -/
def helpList (title : String) (entries : List HelpEntry) : String :=
  String.join ((title ++ ":\n") :: entries.map (HelpEntry.text (longestName entries)))

/-! ### Entries -/

/-- The option that sets the level. -/
def levelEntry : HelpEntry :=
  .option Parameter.level.label "Log level (overrides RUST_LOG)"

/-- The option that sets the format. -/
def formatEntry : HelpEntry :=
  .option Parameter.format.label "Log format: pretty or json (overrides WDEMANGLE_LOG_FORMAT)"

/-- The flag that asks for help. -/
def helpEntry : HelpEntry := ⟨"-h, ", "--help", "Print help"⟩

/-- The flag that asks for the version. -/
def versionEntry : HelpEntry := ⟨"-V, ", "--version", "Print version"⟩

/-- What a command does. -/
def CommandName.summary : CommandName → String
  | demangle => "Decode each symbol given on the command line"
  | filter => "Copy stdin to stdout, decoding every `_W` symbol found in the text"
  | symbolize => "Render recorded addresses against a binary's symbol table"
  | trace => "Print this process's own stack trace"

/-- The words that a command takes, as they stand in its help. -/
def CommandName.usage : CommandName → String
  | demangle => "demangle [OPTIONS] <SYMBOLS>..."
  | filter => "filter [OPTIONS]"
  | symbolize => "symbolize [OPTIONS] <BINARY> <ADDRESSES>..."
  | trace => "trace [OPTIONS]"

/-- The arguments of a command. -/
def CommandName.arguments : CommandName → List HelpEntry
  | demangle => [.plain Parameter.symbols.label "Mangled symbols, e.g. `_WFM3Foo3bar_`"]
  | filter => []
  | symbolize => [
      .plain Parameter.binary.label "Executable or shared library the addresses came from",
      .plain Parameter.addresses.label
        "Return addresses, newest first (hex format: 0x1000 or decimal)"]
  | trace => []

/-- The options of a command, in the order they are listed in. -/
def CommandName.options : CommandName → List HelpEntry
  | demangle =>
      [.option "--all" "Fall back to the Rust and C++ demanglers for non-`_W` symbols",
        levelEntry, formatEntry, helpEntry]
  | filter => [levelEntry, formatEntry, helpEntry]
  | symbolize =>
      [.option Parameter.loadAddress.label
          "Where the binary's lowest segment was mapped (hex format: 0x1000 or decimal)",
        levelEntry, formatEntry, helpEntry]
  | trace =>
      [levelEntry,
        .option Parameter.maxDepth.label "Maximum number of frames to print [default: 256]",
        formatEntry, helpEntry]

/-- The summary of the request for help. -/
def helpSummary : String := "Print this message or the help of the given subcommand(s)"

/-- The commands with their summaries. -/
def commandEntries : List HelpEntry :=
  ([.demangle, .filter, .symbolize, .trace].map fun (name : CommandName) =>
    .plain name.label name.summary) ++ [.plain "help" helpSummary]

/-! ### Topics -/

/-- The lines that every help text starts with. -/
def helpHead (summary usage : String) : String :=
  summary ++ "\n\nUsage: wdemangle " ++ usage ++ "\n\n"

/-- The help text of a topic. -/
def HelpTopic.text : HelpTopic → String
  | program =>
      helpHead "Decode `_W` mangled symbols and render stack traces" "[OPTIONS] <COMMAND>" ++
        helpList "Commands" commandEntries ++ "\n" ++
        helpList "Options" [levelEntry, formatEntry, helpEntry, versionEntry]
  | help =>
      helpHead helpSummary "help [COMMAND]..." ++
        helpList "Arguments" [.plain "[COMMAND]..." "Print help for the subcommand(s)"]
  | command name =>
      helpHead name.summary name.usage ++
        (if name.arguments.isEmpty then ""
          else helpList "Arguments" name.arguments ++ "\n") ++
        helpList "Options" name.options

end SymbolTrace.CommandLine
