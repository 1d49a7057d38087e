import SymbolTrace.Naming
import SymbolTrace.StackTrace
import SymbolTrace.Text.Utf8

/-!
# Crash reports

A process that meets a fatal condition writes one report, a headline and a stack trace, and
dies. The first condition to reach the guard raises it, and nothing lowers it: whatever reaches the
guard after that, on whatever thread and however far the report has come, ends the process at once.

The process is followed in small steps. A condition that is met pushes an activation of the reporter
onto its thread, on top of the code that it interrupts, which may be the reporter itself; the
activation then takes its own steps, between which anything may happen on any thread. A report goes
out in pieces, and a piece in one or more calls that each take a part of what they are offered.

A signal is reported only where its handler is registered. Delivery takes the handler out again, so
that the same signal, met once more, ends the process by itself.

* `Event`, `Event.pieces`: a fatal condition and its report.
* `Execution`: all threads of the process, the guard and what was written.
* `Execution.step?`: one step; `Execution.run?`: any number of them, in any order.
-/

namespace SymbolTrace.Crash

open Text

/-! ### Fatal conditions -/

/-- A signal that is reported. -/
inductive Signal where
  | segmentationFault
  | illegalInstruction
deriving DecidableEq, Repr

namespace Signal

/-- The number of a signal. -/
def number : Signal → Nat
  | segmentationFault => 11
  | illegalInstruction => 4

/-- What a report calls the signal. -/
def description : Signal → String
  | segmentationFault => "Segmentation fault"
  | illegalInstruction => "Illegal instruction"

end Signal

/-- The signal that ends a process after a report. -/
def abortSignal : Nat := 6

/-- What is fatal. -/
inductive Cause where
  | signal (which : Signal)
  /-- The program itself gave up. -/
  | fatalError (message : String)
deriving DecidableEq, Repr

/-- The first line of a report. -/
def Cause.headline : Cause → String
  | .signal which => which.description
  | .fatalError message => "fatal error: " ++ message

/-- A fatal condition as it is met on some thread: its cause, what is known about addresses and
about names of other schemes, and the stack at that point. -/
structure Event where
  cause : Cause
  resolve : Resolver
  secondary : SecondaryDemangler
  unwinder : Unwinder

/-- A piece of a report. -/
inductive Piece where
  | headline (cause : Cause)
  | verbatim (text : String)
deriving DecidableEq, Repr

namespace Piece

/-- What is written for a piece. -/
def text : Piece → String
  | headline cause => cause.headline
  | verbatim text => text

/-- The bytes of a piece. -/
def bytes (piece : Piece) : List UInt8 := utf8 piece.text.toList

/-- Is the piece a headline? -/
def isHeadline : Piece → Bool
  | headline _ => true
  | verbatim _ => false

end Piece

namespace Event

variable [Mangling.Allocator]

/-- How the stack of an event becomes frames. -/
def renderer (event : Event) : Renderer where
  resolve := event.resolve
  secondary := event.secondary

/-- The frames of the stack. -/
def frames (event : Event) : List Frame :=
  event.renderer.unwoundFrames event.unwinder

/-- The pieces of a line: its fragments and the line break. -/
def linePieces (fragments : List String) : List Piece :=
  (fragments ++ [Renderer.lineBreak]).map .verbatim

/-- The report: an empty line, the headline, and the trace. -/
def pieces (event : Event) : List Piece :=
  linePieces [] ++ .headline event.cause :: linePieces [] ++ linePieces [traceTitle] ++
    event.frames.flatMap fun frame => linePieces frame.fragments

end Event

/-! ### Executions -/

/-- An activation of the reporter. -/
inductive Activation where
  /-- The guard was not looked at yet. -/
  | entered (event : Event)
  /-- The guard is raised. These pieces are still to be written; of the first one, so many bytes
  are out already. -/
  | writing (pending : List Piece) (taken : Nat)

/-- A thread of the process. -/
abbrev Thread := Nat

/-- A process in the course of its execution, and what its reporter has done. -/
structure Execution where
  /-- The signals whose handler is registered. -/
  handles : Signal → Bool
  /-- The guard: the event that raised it. -/
  guard : Option Event
  /-- The reporter's activations on each thread, the innermost first. Below the last one stands the
  code of the program. -/
  activations : Thread → List Activation
  /-- The pieces that were written to their end. -/
  finished : List Piece
  /-- All bytes written. -/
  output : List UInt8
  /-- The signal that ended the process. -/
  death : Option Nat

/-- Something that happens on a thread. -/
inductive Action where
  /-- The program's own code takes a step. -/
  | work (thread : Thread)
  /-- The program's own code registers the handler of a signal. -/
  | register (thread : Thread) (signal : Signal)
  /-- A fatal condition is met. -/
  | meet (thread : Thread) (event : Event)
  /-- The innermost activation takes a step. If it offers bytes, so many of them are taken. -/
  | advance (thread : Thread) (count : Nat)

namespace Execution

/-- A process in which nothing has gone wrong. -/
def start : Execution where
  handles _ := false
  guard := none
  activations _ := []
  finished := []
  output := []
  death := none

variable [Mangling.Allocator] (execution : Execution)

/-- The process, ended by a signal. -/
def dying (signal : Nat) : Execution := { execution with death := some signal }

/-- The process with other activations on a thread. -/
def onThread (thread : Thread) (stack : List Activation) : Execution :=
  { execution with
    activations := fun other => if other = thread then stack else execution.activations other }

/-- The process with the handler of a signal registered or not. -/
def setHandler (signal : Signal) (registered : Bool) : Execution :=
  { execution with
    handles := fun other => if other = signal then registered else execution.handles other }

/-- Push an activation of the reporter. -/
def enter (thread : Thread) (event : Event) : Execution :=
  execution.onThread thread (.entered event :: execution.activations thread)

/-- A fatal condition is met. A signal that has no handler ends the process. -/
def meet (thread : Thread) (event : Event) : Execution :=
  match event.cause with
  | .signal signal =>
      if execution.handles signal then (execution.setHandler signal false).enter thread event
      else execution.dying signal.number
  | .fatalError _ => execution.enter thread event

/-- Some of the bytes that are left of a piece are taken, all of them or the first few. -/
def takeBytes (thread : Thread) (piece : Piece) (pending : List Piece) (taken count : Nat)
    (below : List Activation) : Execution :=
  let offered := piece.bytes.drop taken
  if count = offered.length then
    { execution.onThread thread (.writing pending 0 :: below) with
      finished := execution.finished ++ [piece]
      output := execution.output ++ offered }
  else
    { execution.onThread thread (.writing (piece :: pending) (taken + count) :: below) with
      output := execution.output ++ offered.take count }

/-- One step of the innermost activation of a thread. A call takes at least one byte and at most
what it is offered; for an empty piece no call is made. -/
def advance? (thread : Thread) (count : Nat) : Option Execution :=
  match execution.activations thread with
  | [] => none
  | .entered event :: below =>
      if execution.guard.isSome then some (execution.dying abortSignal)
      else some { execution.onThread thread (.writing event.pieces 0 :: below) with
        guard := some event }
  | .writing [] _ :: _ => some (execution.dying abortSignal)
  | .writing (piece :: pending) taken :: below =>
      let offered := (piece.bytes.drop taken).length
      if count ≤ offered ∧ (0 < count ∨ offered = 0) then
        some (execution.takeBytes thread piece pending taken count below)
      else none

/-- One step. Nothing happens in a dead process, and the program's own code takes no step on a
thread on which the reporter is active. -/
def step? (action : Action) : Option Execution :=
  if execution.death.isSome then none
  else match action with
    | .work thread => if (execution.activations thread).isEmpty then some execution else none
    | .register thread signal =>
        if (execution.activations thread).isEmpty then some (execution.setHandler signal true)
        else none
    | .meet thread event => some (execution.meet thread event)
    | .advance thread count => execution.advance? thread count

/-- The process after a sequence of actions, if all of them can happen. -/
def run? (execution : Execution) : List Action → Option Execution
  | [] => some execution
  | action :: actions => (execution.step? action).bind (run? · actions)

/-- The headlines that were written. -/
def headlines : List Piece := execution.finished.filter Piece.isHeadline

end Execution

/-! ### Undisturbed reports -/

/-- The actions of a report in which nothing else happens and each call takes all it is offered. -/
def Event.reportActions [Mangling.Allocator] (event : Event) (thread : Thread) : List Action :=
  .meet thread event :: .advance thread 0 ::
    event.pieces.map (fun piece => .advance thread piece.bytes.length) ++ [.advance thread 0]

end SymbolTrace.Crash
