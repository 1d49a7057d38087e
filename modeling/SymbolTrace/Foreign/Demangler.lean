import SymbolTrace.Foreign.Itanium
import SymbolTrace.Foreign.RustName
import SymbolTrace.Naming

/-!
# The demangler for foreign names

The readers of Rust and of Itanium names as one secondary demangler. Of the Itanium scheme it knows
plain names and parameters with one-letter codes. Only the program itself is tied to it: whatever
else shows names takes the secondary demangler as a parameter.
-/

namespace SymbolTrace.Foreign

/-- The demangler for Rust and Itanium names. -/
def demangler : SecondaryDemangler :=
  shapedDemangler RustName.demangle? Itanium.demangle?

end SymbolTrace.Foreign
