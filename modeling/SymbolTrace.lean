import SymbolTrace.Crash.DescriptorWriter
import SymbolTrace.Crash.Execution
import SymbolTrace.Main
import SymbolTrace.StackTrace.RecordedSymbols
import SymbolTrace.Proofs.Mangling.Answer
import SymbolTrace.Proofs.Mangling.Grammar
import SymbolTrace.Proofs.Mangling.Recognition
import SymbolTrace.Proofs.Mangling.Encoding
import SymbolTrace.Proofs.Image.Translation
import SymbolTrace.Proofs.Mangling.Extension
import SymbolTrace.Proofs.RunningText.Replacement
import SymbolTrace.Proofs.StackTrace.Paths
import SymbolTrace.Proofs.CommandLine.Symbolize
import SymbolTrace.Image.Registry
import SymbolTrace.Proofs.Image.Registry
import SymbolTrace.Text.Utf8
import SymbolTrace.Proofs.TextLines.WholeText
import SymbolTrace.Proofs.CommandLine.Filter
import SymbolTrace.Proofs.Crash.OneReport
import SymbolTrace.Proofs.Mangling.Cursor
import SymbolTrace.Proofs.Mangling.CursorSafety
import SymbolTrace.Proofs.Mangling.CursorRun
import SymbolTrace.Proofs.Mangling.NestingLimit
import SymbolTrace.Proofs.Mangling.ShownSize
import SymbolTrace.Proofs.RunningText.Safety
import SymbolTrace.Proofs.Image.SymbolTable
import SymbolTrace.Proofs.Image.MappedRange
import SymbolTrace.Proofs.Image.Lookup
import SymbolTrace.Proofs.RunningText.Separator
import SymbolTrace.Proofs.RunningText.Termination
import SymbolTrace.Proofs.Mangling.Classification
import SymbolTrace.Proofs.Naming.FallbackChain
import SymbolTrace.Proofs.Address.Reading
import SymbolTrace.Proofs.StackTrace.Line
import SymbolTrace.Proofs.StackTrace.LimitedSink
import SymbolTrace.Proofs.Image.LoadOrder
import SymbolTrace.Proofs.Crash.Transfer
import SymbolTrace.Proofs.PathName.BaseName
import SymbolTrace.Proofs.Mangling.ContextFree
