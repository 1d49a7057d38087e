import SymbolTrace.Logging.Event

/-!
# Log filters

A filter is a list of directives. Each lets events up to a level through: everywhere, or from the
targets that start with a given text, and perhaps only events that are logged with a certain
value. The most specific directive decides, a later one wins over an earlier one that is just as
specific, and where no directive applies nothing is logged.
-/

namespace SymbolTrace.Logging

/-- Which events may be logged. -/
structure Directive where
  /-- What a target has to start with. -/
  targetPrefix : String
  /-- The name of a value that has to be logged with the event. -/
  valueName : Option String
  /-- The greatest verbosity let through; zero lets nothing through. -/
  verbosity : Nat
deriving DecidableEq, Repr

/-- Directives, the later ones taking precedence. -/
abbrev Filter := List Directive

namespace Directive

/-- A directive about all targets that start with a text. -/
def about (targetPrefix : String) (verbosity : Nat) : Directive :=
  ⟨targetPrefix, none, verbosity⟩

/-- Does the directive speak about an event? -/
def appliesTo (directive : Directive) (event : Event) : Bool :=
  directive.targetPrefix.toList.isPrefixOf event.target.toList &&
    directive.valueName.all event.hasValue

/-- Is a choice of a value at least as specific as another one? Names count in their order. -/
def valueAtLeast : Option String → Option String → Bool
  | _, none => true
  | none, some _ => false
  | some name, some other => other ≤ name

/-- Is the directive at least as specific as another one? The length of the target counts
first. -/
def isAtLeast (directive other : Directive) : Bool :=
  let length := directive.targetPrefix.length
  other.targetPrefix.length < length ||
    (other.targetPrefix.length = length && valueAtLeast directive.valueName other.valueName)

end Directive

namespace Filter

/-- The filter that lets a level through everywhere. -/
def ofLevel (level : Level) : Filter := [.about "" level.verbosity]

/-- The more specific of a directive and the best one so far. -/
def moreSpecific (best : Option Directive) (directive : Directive) : Option Directive :=
  match best with
  | none => some directive
  | some other => if directive.isAtLeast other then some directive else some other

/-- The directive that decides about an event. -/
def decisive? (filter : Filter) (event : Event) : Option Directive :=
  (filter.filter (·.appliesTo event)).foldl moreSpecific none

/-- Does the event get through? -/
def passes (filter : Filter) (event : Event) : Bool :=
  match filter.decisive? event with
  | none => false
  | some directive => event.level.verbosity ≤ directive.verbosity

end Filter

end SymbolTrace.Logging
