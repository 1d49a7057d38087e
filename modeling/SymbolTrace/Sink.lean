/-!
# Sinks that may refuse

Text goes out in fragments to a sink. A sink may have room for a limited number of bytes: it
refuses any fragment that would take it past the limit and keeps what it took before. Whoever
writes several fragments stops at the first refusal.
-/

namespace SymbolTrace

/-- A place that text is written to. -/
structure Sink where
  /-- The number of bytes there is room for, if there is a limit. -/
  limit : Option Nat
  /-- Does a flush go through? -/
  flushes : Bool
  /-- The text taken so far. -/
  written : String
deriving DecidableEq, Repr

namespace Sink

/-- A sink that takes everything. -/
def unlimited : Sink := ⟨none, true, ""⟩

/-- A sink with room for a number of bytes. -/
def ofLimit (limit : Option Nat) : Sink := ⟨limit, true, ""⟩

/-- Is there room for the fragment? -/
def hasRoom (sink : Sink) (fragment : String) : Bool :=
  match sink.limit with
  | none => true
  | some limit => sink.written.utf8ByteSize + fragment.utf8ByteSize ≤ limit

/-- How writing ended, and the sink as it was left. -/
structure Outcome where
  accepted : Bool
  sink : Sink
deriving DecidableEq, Repr

/-- Write one fragment, entirely or not at all. -/
def write (sink : Sink) (fragment : String) : Outcome :=
  if sink.hasRoom fragment then
    ⟨true, { sink with written := sink.written ++ fragment }⟩
  else
    ⟨false, sink⟩

/-- Write fragments in order, up to the first refusal. -/
def writeAll (sink : Sink) : List String → Outcome
  | [] => ⟨true, sink⟩
  | fragment :: rest =>
      let outcome := sink.write fragment
      if outcome.accepted then outcome.sink.writeAll rest else outcome

end Sink

end SymbolTrace
