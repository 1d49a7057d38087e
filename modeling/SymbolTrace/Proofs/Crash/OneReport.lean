import Mathlib.Data.List.Basic
import SymbolTrace.Crash.Execution

/-!
# One report, then death

However many fatal conditions a process meets, on whatever threads and between whatever calls of a
report under way, it writes the report of one of them at most, the one that raised the guard, and no
thread that met one ever runs the program's code again.

The invariant is `OneReport`: there is one writing activation in the whole process once the guard is
raised, and none before; what it has written and what it is about to write make up the report. All
proofs go through `Step`, which lists what an action can do.

## Main results

* `step?_eq_some_iff`: the steps, as a relation.
* `oneReport_of_run?`: the invariant holds of every process that can come about.
* `interrupted_of_run?`: what an activation interrupts stays interrupted.
* `length_le_stepsLeft`: a thread that met a condition has so many steps left at most.
* `one_report_then_death`: all of it together.
-/

namespace SymbolTrace.Crash

open Text

/-! ### Reports as text -/

namespace Event

/-- The pieces of a line come to its bytes. -/
theorem flatMap_bytes_linePieces (fragments : List String) :
    (linePieces fragments).flatMap Piece.bytes = utf8 (String.join fragments ++ "\n").toList := by
  induction fragments with
  | nil => rfl
  | cons fragment fragments ih =>
      rw [String.join_cons, String.append_assoc, String.toList_append, utf8_append, ← ih]
      rfl

/-- The pieces of frames come to the bytes of their lines. -/
theorem flatMap_bytes_frames (frames : List Frame) :
    (frames.flatMap fun frame => linePieces frame.fragments).flatMap Piece.bytes =
      utf8 (String.join (frames.map fun frame => frame.line ++ "\n")).toList := by
  induction frames with
  | nil => rfl
  | cons frame frames ih =>
      have hline := flatMap_bytes_linePieces frame.fragments
      rw [← Frame.line] at hline
      rw [List.flatMap_cons, List.flatMap_append, ih, hline, List.map_cons, String.join_cons,
        ← utf8_append, ← String.toList_append]

variable [Mangling.Allocator]

/-- The text of a report. -/
def report (event : Event) : String :=
  "\n" ++ event.cause.headline ++ "\nCurrent stack trace:\n" ++
    String.join (event.frames.map fun frame => frame.line ++ "\n")

/-- The pieces of a report make its text. -/
theorem flatMap_bytes_pieces (event : Event) :
    event.pieces.flatMap Piece.bytes = utf8 event.report.toList := by
  have htitle : "\nCurrent stack trace:\n" = "\n" ++ (traceTitle ++ "\n") := by decide +kernel
  simp only [pieces, List.flatMap_append, List.flatMap_cons, flatMap_bytes_frames,
    flatMap_bytes_linePieces,
    report, htitle, String.toList_append, utf8_append, String.join_cons, String.join_nil,
    Piece.bytes, Piece.text, String.append_empty, String.empty_append, List.append_assoc]

/-- A report has one headline. -/
theorem filter_isHeadline_pieces (event : Event) :
    event.pieces.filter Piece.isHeadline = [.headline event.cause] := by
  have hline : ∀ fragments, (linePieces fragments).filter Piece.isHeadline = [] := by
    intro fragments
    simp [linePieces, Piece.isHeadline]
  have hframes : (event.frames.flatMap fun frame => linePieces frame.fragments).filter
      Piece.isHeadline = [] := by
    rw [List.filter_flatMap]
    simp [hline]
  simp only [pieces, List.filter_append, List.filter_cons, hline, hframes]
  rfl

end Event

namespace Execution

variable {execution next later : Execution}

/-! ### Activations -/

/-- A condition that is met ends the process or pushes an activation. -/
theorem meet_eq (execution : Execution) (thread : Thread) (event : Event) :
    (∃ signal, execution.meet thread event = execution.dying signal) ∨
      ∃ handles, execution.meet thread event =
        { execution with handles }.enter thread event := by
  cases hcause : event.cause with
  | fatalError message => exact .inr ⟨execution.handles, by simp only [meet, hcause]⟩
  | signal signal =>
      simp only [meet, hcause]
      split
      · exact .inr ⟨_, rfl⟩
      · exact .inl ⟨_, rfl⟩

/-- The pieces that a writing activation has still to write, and how much of the first is out. -/
def reportOf? : Activation → Option (List Piece × Nat)
  | .entered _ => none
  | .writing pending taken => some (pending, taken)

/-- The reports that are being written on a thread. -/
def reports (execution : Execution) (thread : Thread) : List (List Piece × Nat) :=
  (execution.activations thread).filterMap reportOf?

/-- Only the reports of the thread whose stack changes can change. -/
theorem reports_onThread (thread other : Thread) (stack : List Activation) :
    (execution.onThread thread stack).reports other =
      if other = thread then stack.filterMap reportOf? else execution.reports other := by
  simp only [reports, onThread]
  split <;> rfl

@[simp] theorem filterMap_reportOf?_writing (pending : List Piece) (taken : Nat)
    (below : List Activation) :
    (Activation.writing pending taken :: below).filterMap reportOf? =
      (pending, taken) :: below.filterMap reportOf? := rfl

/-- The activation on top of a thread is the only one that writes, if none below it does and none
on another thread. -/
theorem reports_onThread_writing {thread : Thread} {below : List Activation}
    (hbelow : below.filterMap reportOf? = [])
    (hother : ∀ other, other ≠ thread → execution.reports other = []) (pending : List Piece)
    (taken : Nat) :
    (execution.onThread thread (.writing pending taken :: below)).reports thread =
        [(pending, taken)] ∧
      ∀ other, other ≠ thread →
        (execution.onThread thread (.writing pending taken :: below)).reports other = [] := by
  constructor
  · rw [reports_onThread, if_pos rfl, filterMap_reportOf?_writing, hbelow]
  · intro other hne
    rw [reports_onThread, if_neg hne, hother other hne]

/-- An activation that has just been entered writes nothing. -/
theorem reports_enter (thread other : Thread) (event : Event) :
    (execution.enter thread event).reports other = execution.reports other := by
  rw [enter, reports_onThread]
  split
  case isTrue hother => rw [hother]; rfl
  case isFalse => rfl

/-- The reporter is active on a thread, on top of these activations, which it interrupted. -/
def Interrupted (execution : Execution) (thread : Thread) (below : List Activation) : Prop :=
  ∃ above, above ≠ [] ∧ execution.activations thread = above ++ below

/-- Code stays interrupted while nothing happens on its thread. -/
theorem Interrupted.congr {thread : Thread} {below : List Activation}
    (h : execution.Interrupted thread below)
    (hactivations : next.activations thread = execution.activations thread) :
    next.Interrupted thread below := by
  obtain ⟨above, hne, habove⟩ := h
  exact ⟨above, hne, hactivations.trans habove⟩

/-- A step of the innermost activation touches no other. -/
theorem Interrupted.onThread {thread other : Thread} {below rest : List Activation}
    {top top' : Activation} (h : execution.Interrupted thread below)
    (htop : execution.activations other = top :: rest) :
    (execution.onThread other (top' :: rest)).Interrupted thread below := by
  obtain ⟨above, hne, habove⟩ := h
  simp only [Interrupted, Execution.onThread]
  split
  case isTrue hthread =>
    rw [hthread, htop] at habove
    cases above with
    | nil => exact absurd rfl hne
    | cons first above =>
        exact ⟨top' :: above, List.cons_ne_nil _ _, by rw [(List.cons.inj habove).2]; rfl⟩
  case isFalse => exact ⟨above, hne, habove⟩

/-- A thread with interrupted code is doing something. -/
theorem Interrupted.activations_ne_nil {thread : Thread} {below : List Activation}
    (h : execution.Interrupted thread below) : execution.activations thread ≠ [] := by
  obtain ⟨above, hne, habove⟩ := h
  rw [habove]
  exact List.append_ne_nil_of_left_ne_nil hne below

section

variable [Mangling.Allocator]

/-! ### Steps as a relation -/

/-- What an action does to a process that is alive. -/
inductive Step (execution : Execution) : Action → Execution → Prop where
  | work {thread : Thread} (interrupted : execution.activations thread = []) :
      Step execution (.work thread) execution
  | register {thread : Thread} {signal : Signal} (interrupted : execution.activations thread = []) :
      Step execution (.register thread signal) (execution.setHandler signal true)
  | meet {thread : Thread} {event : Event} :
      Step execution (.meet thread event) (execution.meet thread event)
  /-- Somebody else raised the guard. -/
  | guarded {thread : Thread} {count : Nat} {event first : Event} {below : List Activation}
      (top : execution.activations thread = .entered event :: below)
      (raised : execution.guard = some first) :
      Step execution (.advance thread count) (execution.dying abortSignal)
  | raise {thread : Thread} {count : Nat} {event : Event} {below : List Activation}
      (top : execution.activations thread = .entered event :: below)
      (lowered : execution.guard = none) :
      Step execution (.advance thread count)
        { execution.onThread thread (.writing event.pieces 0 :: below) with guard := some event }
  | take {thread : Thread} {piece : Piece} {pending : List Piece} {taken count : Nat}
      {below : List Activation}
      (top : execution.activations thread = .writing (piece :: pending) taken :: below)
      (fits : count ≤ (piece.bytes.drop taken).length)
      (some_taken : 0 < count ∨ (piece.bytes.drop taken).length = 0) :
      Step execution (.advance thread count)
        (execution.takeBytes thread piece pending taken count below)
  /-- The report is complete. -/
  | abort {thread : Thread} {count taken : Nat} {below : List Activation}
      (top : execution.activations thread = .writing [] taken :: below) :
      Step execution (.advance thread count) (execution.dying abortSignal)

/-- The function and the relation agree on what a thread may do next. -/
theorem advance?_eq_some_iff {thread : Thread} {count : Nat} :
    execution.advance? thread count = some next ↔
      Step execution (.advance thread count) next := by
  constructor
  · intro h
    simp only [advance?] at h
    split at h
    case h_1 => cases h
    case h_2 event below top =>
      split at h
      case isTrue raised =>
        cases h
        exact .guarded top (Option.eq_some_of_isSome raised)
      case isFalse lowered =>
        cases h
        exact .raise top (by simpa using lowered)
    case h_3 taken below top =>
      cases h
      exact .abort top
    case h_4 piece pending taken below top =>
      split at h
      case isTrue hcount =>
        cases h
        exact .take top hcount.1 hcount.2
      case isFalse => cases h
  · intro h
    cases h with
    | guarded top raised => simp [advance?, top, raised]
    | raise top lowered => simp [advance?, top, lowered]
    | take top fits some_taken =>
        simp only [advance?, top]
        rw [if_pos ⟨fits, some_taken⟩]
    | abort top => simp [advance?, top]

/-- The steps of a process. -/
theorem step?_eq_some_iff {action : Action} :
    execution.step? action = some next ↔ execution.death = none ∧ Step execution action next := by
  cases hdeath : execution.death with
  | some signal => simp [step?, hdeath]
  | none =>
      cases action with
      | work thread =>
          simp only [step?, hdeath, Option.isSome_none, Bool.false_eq_true, if_false, true_and,
            List.isEmpty_iff, Option.ite_none_right_eq_some, Option.some.injEq]
          constructor
          · rintro ⟨interrupted, rfl⟩
            exact .work interrupted
          · intro h
            cases h with
            | work interrupted => exact ⟨interrupted, rfl⟩
      | register thread signal =>
          simp only [step?, hdeath, Option.isSome_none, Bool.false_eq_true, if_false, true_and,
            List.isEmpty_iff, Option.ite_none_right_eq_some, Option.some.injEq]
          constructor
          · rintro ⟨interrupted, rfl⟩
            exact .register interrupted
          · intro h
            cases h with
            | register interrupted => exact ⟨interrupted, rfl⟩
      | meet thread event =>
          simp only [step?, hdeath, Option.isSome_none, Bool.false_eq_true, if_false, true_and,
            Option.some.injEq]
          constructor
          · rintro rfl
            exact .meet
          · intro h
            cases h with
            | meet => rfl
      | advance thread count =>
          simp only [step?, hdeath, Option.isSome_none, Bool.false_eq_true, if_false, true_and]
          exact advance?_eq_some_iff

/-- What every step keeps, every run keeps. -/
theorem run?_keeps {P : Execution → Prop}
    (hstep : ∀ {execution next action}, execution.step? action = some next → P execution → P next)
    {actions : List Action} (hrun : execution.run? actions = some later) (h : P execution) :
    P later := by
  induction actions generalizing execution with
  | nil => exact Option.some.inj hrun ▸ h
  | cons action actions ih =>
      obtain ⟨next, hnext, hrun⟩ := Option.bind_eq_some_iff.1 hrun
      exact ih hrun (hstep hnext h)

/-- An action of a run takes place in a process on the way. -/
theorem exists_step_of_mem {action : Action} {actions : List Action} (hmem : action ∈ actions)
    (hrun : execution.run? actions = some later) :
    ∃ before passed next, execution.run? before = some passed ∧
      passed.step? action = some next := by
  induction actions generalizing execution with
  | nil => cases hmem
  | cons first actions ih =>
      obtain ⟨next, hnext, hrun⟩ := Option.bind_eq_some_iff.1 hrun
      cases hmem with
      | head => exact ⟨[], execution, next, rfl, hnext⟩
      | tail _ hmem =>
          obtain ⟨before, passed, after, hbefore, hafter⟩ := ih hmem hrun
          exact ⟨first :: before, passed, after, by simp [run?, hnext, hbefore], hafter⟩

/-! ### One report -/

/-- The bytes of the first piece. -/
def firstBytes : List Piece → List UInt8
  | [] => []
  | piece :: _ => piece.bytes

/-- The report of an event is being written on one thread, and none on another. -/
structure Writes (execution : Execution) (event : Event) (thread : Thread) (pending : List Piece)
    (taken : Nat) : Prop where
  reports_eq : execution.reports thread = [(pending, taken)]
  reports_other : ∀ other, other ≠ thread → execution.reports other = []
  pieces_eq : execution.finished ++ pending = event.pieces
  output_eq : execution.output =
    execution.finished.flatMap Piece.bytes ++ (firstBytes pending).take taken

/-- Nothing is written before the guard is raised, and the report of the event that raised it from
then on. -/
def OneReport (execution : Execution) : Prop :=
  match execution.guard with
  | none => (∀ thread, execution.reports thread = []) ∧ execution.finished = [] ∧
      execution.output = []
  | some event => ∃ thread pending taken, execution.Writes event thread pending taken

/-- The invariant says nothing but this about a process. -/
theorem OneReport.congr (h : execution.OneReport) (hguard : next.guard = execution.guard)
    (hreports : ∀ thread, next.reports thread = execution.reports thread)
    (hfinished : next.finished = execution.finished) (houtput : next.output = execution.output) :
    next.OneReport := by
  unfold OneReport at h ⊢
  rw [hguard]
  cases hraised : execution.guard with
  | none =>
      rw [hraised] at h
      simpa only [hreports, hfinished, houtput] using h
  | some event =>
      rw [hraised] at h
      obtain ⟨thread, pending, taken, h⟩ := h
      exact ⟨thread, pending, taken, (hreports thread).trans h.reports_eq,
        fun other hother => (hreports other).trans (h.reports_other other hother),
        hfinished ▸ h.pieces_eq, by rw [houtput, hfinished]; exact h.output_eq⟩

/-- Raising the guard begins a report. -/
theorem OneReport.raise {thread : Thread} {event : Event} {below : List Activation}
    (h : execution.OneReport) (top : execution.activations thread = .entered event :: below)
    (lowered : execution.guard = none) :
    OneReport { execution.onThread thread (.writing event.pieces 0 :: below) with
      guard := some event } := by
  simp only [OneReport, lowered] at h
  obtain ⟨hnone, hfinished, houtput⟩ := h
  have hbelow : below.filterMap reportOf? = [] := by
    have hthread := hnone thread
    rwa [reports, top, List.filterMap_cons_none rfl] at hthread
  obtain ⟨hthread, hother⟩ :=
    reports_onThread_writing hbelow (fun other _ => hnone other) event.pieces 0
  refine ⟨thread, event.pieces, 0, hthread, hother, ?_, ?_⟩
  · show execution.finished ++ event.pieces = event.pieces
    rw [hfinished, List.nil_append]
  · show execution.output = execution.finished.flatMap Piece.bytes ++ _
    rw [hfinished, houtput, List.take_zero]
    rfl

/-- A call that takes bytes goes on with the report. -/
theorem OneReport.takeBytes {thread : Thread} {piece : Piece} {pending : List Piece} {taken : Nat}
    {below : List Activation} (h : execution.OneReport)
    (top : execution.activations thread = .writing (piece :: pending) taken :: below)
    (count : Nat) :
    (execution.takeBytes thread piece pending taken count below).OneReport := by
  have hreports : execution.reports thread =
      (piece :: pending, taken) :: below.filterMap reportOf? := by
    rw [reports, top, filterMap_reportOf?_writing]
  unfold OneReport at h
  cases hguard : execution.guard with
  | none =>
      rw [hguard] at h
      cases hreports.symm.trans (h.1 thread)
  | some event =>
      rw [hguard] at h
      obtain ⟨writer, _, _, hwrites⟩ := h
      -- No other thread has a report under way, so this is the one.
      obtain rfl : thread = writer := by
        by_contra hne
        cases hreports.symm.trans (hwrites.reports_other thread hne)
      obtain ⟨hhead, hbelow⟩ := List.cons.inj (hreports.symm.trans hwrites.reports_eq)
      cases hhead
      have hpieces := hwrites.pieces_eq
      have houtput : execution.output =
          execution.finished.flatMap Piece.bytes ++ piece.bytes.take taken := hwrites.output_eq
      have hactive := reports_onThread_writing hbelow hwrites.reports_other
      simp only [Execution.takeBytes]
      split
      case isTrue =>
        simp only [OneReport, onThread, hguard]
        obtain ⟨hthread, hother⟩ := hactive pending 0
        refine ⟨thread, pending, 0, hthread, hother, ?_, ?_⟩
        · simpa using hpieces
        · simp [houtput, List.append_assoc]
      case isFalse =>
        simp only [OneReport, onThread, hguard]
        obtain ⟨hthread, hother⟩ := hactive (piece :: pending) (taken + count)
        refine ⟨thread, piece :: pending, taken + count, hthread, hother, hpieces, ?_⟩
        simp [houtput, firstBytes, List.take_add, List.append_assoc]

/-- Every step keeps the invariant. -/
theorem OneReport.step {action : Action} (hstep : execution.step? action = some next)
    (h : execution.OneReport) : next.OneReport := by
  cases (step?_eq_some_iff.1 hstep).2 with
  | work => exact h
  | register => exact h.congr rfl (fun _ => rfl) rfl rfl
  | @meet thread event =>
      obtain ⟨signal, hmeet⟩ | ⟨handles, hmeet⟩ := execution.meet_eq thread event
      · rw [hmeet]
        exact h.congr rfl (fun _ => rfl) rfl rfl
      · rw [hmeet]
        exact h.congr rfl (fun other => reports_enter thread other event) rfl rfl
  | guarded => exact h.congr rfl (fun _ => rfl) rfl rfl
  | raise top lowered => exact h.raise top lowered
  | take top => exact h.takeBytes top _
  | abort => exact h.congr rfl (fun _ => rfl) rfl rfl

/-- The invariant holds of every process that can come about. -/
theorem oneReport_of_run? {actions : List Action} (hrun : start.run? actions = some execution) :
    execution.OneReport :=
  run?_keeps OneReport.step hrun ⟨fun _ => rfl, rfl, rfl⟩

/-- What was written is the beginning of the report. -/
theorem Writes.output_prefix {event : Event} {thread : Thread} {pending : List Piece} {taken : Nat}
    (h : execution.Writes event thread pending taken) :
    execution.output <+: utf8 event.report.toList := by
  rw [← event.flatMap_bytes_pieces, ← h.pieces_eq, h.output_eq, List.flatMap_append,
    List.prefix_append_right_inj]
  cases pending with
  | nil => simp [firstBytes]
  | cons piece pending =>
      exact (List.take_prefix taken piece.bytes).trans (List.prefix_append piece.bytes _)

/-- Of the headlines of a report, one is written at most. -/
theorem Writes.length_headlines_le {event : Event} {thread : Thread} {pending : List Piece}
    {taken : Nat} (h : execution.Writes event thread pending taken) :
    execution.headlines.length ≤ 1 := by
  have hfilter := event.filter_isHeadline_pieces
  rw [← h.pieces_eq, List.filter_append] at hfilter
  have hlength := congrArg List.length hfilter
  rw [List.length_append, List.length_singleton] at hlength
  exact hlength ▸ Nat.le_add_right _ _

/-! ### Interrupted code -/

/-- Nothing lowers the guard or raises it again. -/
theorem guard_of_step? {action : Action} (hstep : execution.step? action = some next)
    {event : Event} (raised : execution.guard = some event) : next.guard = some event := by
  cases (step?_eq_some_iff.1 hstep).2 with
  | raise top lowered =>
      rw [raised] at lowered
      cases lowered
  | @meet thread event =>
      obtain ⟨signal, hmeet⟩ | ⟨handles, hmeet⟩ := execution.meet_eq thread event
      all_goals rw [hmeet]; exact raised
  | take =>
      unfold takeBytes
      dsimp only
      split
      all_goals exact raised
  | _ => exact raised

/-- Every step leaves interrupted what is interrupted. -/
theorem Interrupted.step {action : Action} {thread : Thread} {below : List Activation}
    (hstep : execution.step? action = some next) (h : execution.Interrupted thread below) :
    next.Interrupted thread below := by
  cases (step?_eq_some_iff.1 hstep).2 with
  | @meet other event =>
      obtain ⟨signal, hmeet⟩ | ⟨handles, hmeet⟩ := execution.meet_eq other event
      · rw [hmeet]
        exact h.congr rfl
      · rw [hmeet]
        obtain ⟨above, hne, habove⟩ := h
        simp only [Interrupted, enter, Execution.onThread]
        split
        case isTrue hthread =>
          rw [hthread] at habove
          exact ⟨.entered event :: above, List.cons_ne_nil _ _, by rw [habove]; rfl⟩
        case isFalse => exact ⟨above, hne, habove⟩
  | raise top => exact (h.onThread top).congr rfl
  | @take _ _ _ _ _ _ top =>
      unfold takeBytes
      dsimp only
      split
      all_goals exact (h.onThread top).congr rfl
  | _ => exact h.congr rfl

/-- What an activation interrupts stays interrupted. -/
theorem interrupted_of_run? {actions : List Action} {thread : Thread} {below : List Activation}
    (hrun : execution.run? actions = some later) (h : execution.Interrupted thread below) :
    later.Interrupted thread below :=
  run?_keeps Interrupted.step hrun h

/-- The program's own code takes no step on an interrupted thread. -/
theorem Interrupted.not_mem_run? {actions : List Action} {thread : Thread} {below : List Activation}
    (h : execution.Interrupted thread below) (hrun : execution.run? actions = some later) :
    .work thread ∉ actions ∧ ∀ signal, .register thread signal ∉ actions := by
  have hnot : ∀ action ∈ actions, ∃ passed next, passed.activations thread ≠ [] ∧
      Step passed action next := by
    intro action hmem
    obtain ⟨before, passed, next, hbefore, hnext⟩ := exists_step_of_mem hmem hrun
    exact ⟨passed, next, (interrupted_of_run? hbefore h).activations_ne_nil,
      (step?_eq_some_iff.1 hnext).2⟩
  constructor
  · intro hmem
    obtain ⟨_, _, hne, hstep⟩ := hnot _ hmem
    cases hstep with
    | work interrupted => exact hne interrupted
  · intro signal hmem
    obtain ⟨_, _, hne, hstep⟩ := hnot _ hmem
    cases hstep with
    | register interrupted => exact hne interrupted

/-! ### Death -/

/-- An activation of a living process can always take its next step. -/
theorem exists_advance {thread : Thread} (alive : execution.death = none)
    (hactive : execution.activations thread ≠ []) :
    ∃ count next, execution.step? (.advance thread count) = some next := by
  simp only [step?_eq_some_iff, alive, true_and]
  match hstack : execution.activations thread with
  | [] => exact absurd hstack hactive
  | .entered event :: below =>
      cases hguard : execution.guard with
      | none => exact ⟨0, _, .raise hstack hguard⟩
      | some first => exact ⟨0, _, .guarded hstack hguard⟩
  | .writing [] taken :: below => exact ⟨0, _, .abort hstack⟩
  | .writing (piece :: pending) taken :: below =>
      exact ⟨_, _, .take hstack (Nat.le_refl _) (Nat.eq_zero_or_pos _).symm⟩

/-- A bound on the steps that write pieces and then end the process. -/
def stepsToWrite : List Piece → Nat → Nat
  | [], _ => 1
  | piece :: pending, taken => (piece.bytes.drop taken).length + 1 + stepsToWrite pending 0

/-- A bound on the steps that the innermost activation of a thread has left. -/
def stepsLeft (execution : Execution) (thread : Thread) : Nat :=
  match execution.activations thread with
  | [] => 0
  | .entered event :: _ => stepsToWrite event.pieces 0 + 1
  | .writing pending taken :: _ => stepsToWrite pending taken

omit [Mangling.Allocator] in
/-- Even with nothing left to write there is a step to die by. -/
theorem stepsToWrite_pos (pending : List Piece) (taken : Nat) : 0 < stepsToWrite pending taken := by
  cases pending with
  | nil => exact Nat.one_pos
  | cons piece pending =>
      rw [stepsToWrite]
      omega

/-- While a thread writes, its steps are those of the report. -/
theorem stepsLeft_onThread (execution : Execution) (thread : Thread) (pending : List Piece)
    (taken : Nat) (below : List Activation) :
    (execution.onThread thread (.writing pending taken :: below)).stepsLeft thread =
      stepsToWrite pending taken := by
  simp only [stepsLeft, onThread, if_true]

/-- Each step of an activation ends the process or leaves fewer. -/
theorem stepsLeft_lt_of_step? {thread : Thread} {count : Nat}
    (hstep : execution.step? (.advance thread count) = some next) :
    0 < execution.stepsLeft thread ∧
      (next.death ≠ none ∨ next.stepsLeft thread < execution.stepsLeft thread) := by
  cases (step?_eq_some_iff.1 hstep).2 with
  | guarded top =>
      simp only [stepsLeft, top]
      exact ⟨Nat.succ_pos _, .inl nofun⟩
  | abort top =>
      simp only [stepsLeft, top]
      exact ⟨Nat.one_pos, .inl nofun⟩
  | @raise _ _ event below top =>
      have hleft : execution.stepsLeft thread = stepsToWrite event.pieces 0 + 1 := by
        simp only [stepsLeft, top]
      have hnext := stepsLeft_onThread execution thread event.pieces 0 below
      rw [hleft]
      exact ⟨Nat.succ_pos _, .inr (Nat.lt_succ_of_le (Nat.le_of_eq hnext))⟩
  | @take _ piece pending taken _ below top fits some_taken =>
      have hleft : execution.stepsLeft thread = stepsToWrite (piece :: pending) taken := by
        simp only [stepsLeft, top]
      rw [hleft]
      refine ⟨stepsToWrite_pos _ _, .inr ?_⟩
      simp only [takeBytes]
      split
      case isTrue =>
        refine Nat.lt_of_le_of_lt
          (Nat.le_of_eq (stepsLeft_onThread execution thread pending 0 below)) ?_
        simp only [stepsToWrite]
        omega
      case isFalse hpart =>
        refine Nat.lt_of_le_of_lt (Nat.le_of_eq
          (stepsLeft_onThread execution thread (piece :: pending) (taken + count) below)) ?_
        simp only [stepsToWrite]
        rw [List.length_drop] at fits some_taken hpart ⊢
        rw [List.length_drop]
        omega

/-- A thread that met a condition has so many steps left at most, if it is left to itself. -/
theorem length_le_stepsLeft {thread : Thread} {counts : List Nat}
    (hrun : execution.run? (counts.map (.advance thread)) = some later) :
    counts.length ≤ execution.stepsLeft thread := by
  induction counts generalizing execution with
  | nil => exact Nat.zero_le _
  | cons count counts ih =>
      obtain ⟨next, hnext, hrun⟩ := Option.bind_eq_some_iff.1 hrun
      obtain ⟨hpos, hdead | hlt⟩ := stepsLeft_lt_of_step? hnext
      · cases counts with
        | nil => exact hpos
        | cons count counts =>
            obtain ⟨_, hafter, _⟩ := Option.bind_eq_some_iff.1 hrun
            exact absurd (step?_eq_some_iff.1 hafter).1 hdead
      · exact Nat.le_trans (Nat.succ_le_succ (ih hrun)) hlt

/-! ### All of it -/

/-- **One report, then death.** A process that can come about has written one headline at most, and
nothing but the beginning of the report of the event that raised the guard. Whatever happens
after that, that event remains the one. A thread on which a condition was met never runs the
program's code again, nor what the reporter itself was interrupted in; it can take a step until the
process is dead, and comes to that after a bounded number of steps of its own. -/
theorem one_report_then_death {actions : List Action} {execution : Execution}
    (reached : start.run? actions = some execution) :
    execution.headlines.length ≤ 1 ∧
    (execution.guard = none → execution.output = []) ∧
    (∀ event, execution.guard = some event → execution.output <+: utf8 event.report.toList) ∧
    ∀ more later, execution.run? more = some later →
      (∀ event, execution.guard = some event → later.guard = some event) ∧
      ∀ thread top below, execution.activations thread = top :: below →
        (.work thread ∉ more ∧ ∀ signal, .register thread signal ∉ more) ∧
        (∃ above, above ≠ [] ∧ later.activations thread = above ++ below) ∧
        ((∀ action, later.step? action = none) ↔ later.death ≠ none) ∧
        (later.death = none → ∃ count next, later.step? (.advance thread count) = some next) ∧
        ∀ (counts : List Nat) (final : Execution),
          later.run? (counts.map (.advance thread)) = some final →
          counts.length ≤ later.stepsLeft thread := by
  have hreport := oneReport_of_run? reached
  refine ⟨?headlines, ?silent, ?written, ?after⟩
  case headlines =>
    unfold OneReport at hreport
    split at hreport
    · rw [headlines, hreport.2.1]
      exact Nat.zero_le _
    · obtain ⟨_, _, _, hwrites⟩ := hreport
      exact hwrites.length_headlines_le
  case silent =>
    intro hguard
    simp only [OneReport, hguard] at hreport
    exact hreport.2.2
  case written =>
    intro event hguard
    simp only [OneReport, hguard] at hreport
    obtain ⟨_, _, _, hwrites⟩ := hreport
    exact hwrites.output_prefix
  case after =>
    intro more later hmore
    refine ⟨fun event hguard =>
      run?_keeps (P := fun passed => passed.guard = some event)
        (fun hstep raised => guard_of_step? hstep raised) hmore hguard, ?_⟩
    intro thread top below hactive
    have hinterrupted : execution.Interrupted thread below := ⟨[top], List.cons_ne_nil _ _, hactive⟩
    have hlater := interrupted_of_run? hmore hinterrupted
    have hadvance : later.death = none →
        ∃ count next, later.step? (.advance thread count) = some next :=
      fun halive => exists_advance halive hlater.activations_ne_nil
    refine ⟨hinterrupted.not_mem_run? hmore, hlater, ⟨?_, ?_⟩, hadvance, ?_⟩
    · intro hstuck halive
      obtain ⟨count, next, hstep⟩ := hadvance halive
      rw [hstuck] at hstep
      cases hstep
    · intro hdead action
      cases hstep : later.step? action with
      | none => rfl
      | some next => exact absurd (step?_eq_some_iff.1 hstep).1 hdead
    · intro counts final hrun
      exact length_le_stepsLeft hrun

end

/-- A signal met on a stack of which nothing is known. -/
def bareSignal (signal : Signal) : Event where
  cause := .signal signal
  resolve _ := none
  secondary _ := none
  unwinder := .nothing

attribute [local instance] Mangling.Allocator.unlimited

/-- A second signal, on another thread, cuts the report of the first one short. -/
theorem one_report_then_death_twoSignals :
    let before : List Action := [.register 0 .segmentationFault, .register 0 .illegalInstruction,
      .meet 0 (bareSignal .segmentationFault), .advance 0 0, .advance 0 1,
      .meet 1 (bareSignal .illegalInstruction)]
    let more : List Action := [.advance 0 7, .advance 1 0]
    ∃ execution later, start.run? before = some execution ∧ execution.run? more = some later ∧
      execution.headlines.length ≤ 1 ∧
      execution.output <+: utf8 (bareSignal .segmentationFault).report.toList ∧
      .work 0 ∉ more ∧ later.guard = some (bareSignal .segmentationFault) ∧
      (∀ action, later.step? action = none) ∧ later.output = utf8 "\nSegment".toList := by
  intro before more
  refine ⟨_, _, rfl, rfl, ?_⟩
  obtain ⟨hheadlines, -, hwritten, hafter⟩ := @one_report_then_death _ before _ rfl
  obtain ⟨hguard, hthread⟩ := hafter more _ rfl
  obtain ⟨⟨hwork, -⟩, -, ⟨-, hdead⟩, -⟩ := hthread 0 _ _ rfl
  exact ⟨hheadlines, hwritten _ rfl, hwork, hguard _ rfl, hdead nofun, by decide +kernel⟩

end Execution

end SymbolTrace.Crash
