import Mathlib.Tactic.SplitIfs
import SymbolTrace.Proofs.Mangling.Cursor

/-!
# Tasks of the cursor, one after another

`Carries` says of tasks that they come to an answer on a text, whatever was written before and
whatever is to be done after them. The steps then leave the tasks that stood below, and have read
and written what the answer says; after a failure the tasks below are left as well, with the
failure on its way out and everything else put back.

Tasks that carry answers are chained as readers are, and the statements here are the ways to do
so. What the readers of the grammar carry is in the module on runs of the cursor.

## Main results

* `Carries.single`, `Carries.step`, `Carries.number`: what a first step comes to.
* `Carries.seq`: tasks after each other.
* `Carries.nest`: tasks inside a function or tuple type.
* `Carries.item`: an item of a list, and the rest of the list.
-/

namespace SymbolTrace.Mangling

open Text

variable {α β : Type}

/-- An answer with the shown form of the value. -/
def Answer.shown (render : α → String) (answered : Answer α) : Answer String :=
  answered.andThen fun value rest => .ok (render value, rest)

/-- Only the last reader of a chain is shown. -/
theorem Answer.shown_andThen (render : β → String) (first : Answer α)
    (second : α → List Char → Answer β) :
    (first.andThen second).shown render =
      first.andThen fun value rest => (second value rest).shown render := by
  rcases first with fault | ⟨value, rest⟩ <;> rfl

/-- A text is its own shown form. -/
theorem Answer.shown_id (answered : Answer String) : answered.shown id = answered := by
  rcases answered with fault | ⟨shown, rest⟩ <;> rfl

/-- An answer with a text in front of what is shown. -/
def Answer.prepend (text : String) (answered : Answer String) : Answer String :=
  answered.shown (text ++ ·)

@[simp] theorem Answer.shown_ok (render : α → String) (value : α) (rest : List Char) :
    Answer.shown render (.ok (value, rest)) = .ok (render value, rest) := rfl

/-- What is put in front of a shown form may be part of it. -/
theorem Answer.prepend_shown (text : String) (render : α → String) (answered : Answer α) :
    (answered.shown render).prepend text = answered.shown (text ++ render ·) := by
  rcases answered with fault | ⟨value, rest⟩ <;> rfl

/-- What is put in front of a chain is put in front of its last reader. -/
theorem Answer.prepend_andThen (text : String) (first : Answer α)
    (second : α → List Char → Answer String) :
    (first.andThen second).prepend text =
      first.andThen fun value rest => (second value rest).prepend text :=
  shown_andThen _ first second

@[simp] theorem Answer.prepend_ok (text shown : String) (rest : List Char) :
    Answer.prepend text (.ok (shown, rest)) = .ok (text ++ shown, rest) := rfl

/-- Texts in front of each other are one text. -/
theorem Answer.prepend_prepend (text more : String) (answered : Answer String) :
    (answered.prepend more).prepend text = answered.prepend (text ++ more) := by
  rcases answered with fault | ⟨shown, rest⟩
  · rfl
  · simp only [prepend_ok, String.append_assoc]

@[simp] theorem Answer.prepend_empty (answered : Answer String) :
    answered.prepend "" = answered := by
  rcases answered with fault | ⟨shown, rest⟩
  · rfl
  · rw [prepend_ok, String.empty_append]

namespace Cursor

variable {limit : Option Nat} {input text : List Char} {state next : State} {depth : Nat}

/-! ### States that differ in little -/

namespace State

/-- The state with these tasks instead of its own. -/
def withTasks (state : State) (tasks : List Task) : State := { state with tasks }

/-- The state after some text was read and some written. -/
def advance (state : State) (position : Nat) (shown : String) : State :=
  { state with position, output := state.output ++ shown }

/-- The state after a failure in the middle of a text. -/
def failAt (state : State) (position : Nat) (output : String) (fault : DecodeError) : State :=
  { state with position, output, fault := some fault }

/-- The state after some text was read and nothing written. -/
def moveTo (state : State) (position : Nat) : State := { state with position }

/-- The state inside one more function or tuple type. -/
def deeper (state : State) : State := { state with depth := state.depth + 1 }

/-- Writing nothing is only moving the cursor. -/
theorem advance_empty (state : State) (position : Nat) :
    state.advance position "" = state.moveTo position := by
  rw [advance, String.append_empty, moveTo]

end State

/-! ### Reading numbers -/

/-- What comes of reading an optional number, where none is. -/
theorem readOptionalNumber_none (hunread : suffixAt? state.position input = some text)
    (hdigit : ∀ c, text.head? = some c → c.isDigit = false) (next : Option Nat → State → State) :
    state.readOptionalNumber input next = .next (next none state) := by
  have hnone : text.takeWhile Char.isDigit = [] := by
    cases text with
    | nil => rfl
    | cons c text => rw [List.takeWhile_cons_of_neg (by simp [hdigit c rfl])]
  simp only [State.readOptionalNumber, digitsAt?_eq hunread, numberOf, hnone, if_true]

/-- What comes of reading an optional number, where a digit is. -/
theorem readOptionalNumber_some {c : Char} {cs : List Char} (hdigit : c.isDigit = true)
    (hunread : suffixAt? state.position input = some (c :: cs)) (next : Option Nat → State → State) :
    match answer (readNumber (c :: cs)) with
    | .ok (value, rest) => ∃ position, suffixAt? position input = some rest ∧
        state.readOptionalNumber input next = .next (next (some value) (state.moveTo position))
    | .error fault => state.readOptionalNumber input next = .next (state.fail fault) := by
  have hrun : (c :: cs).takeWhile Char.isDigit = c :: cs.takeWhile Char.isDigit :=
    List.takeWhile_cons_of_pos hdigit
  have hrest : (c :: cs).dropWhile Char.isDigit = cs.dropWhile Char.isDigit :=
    List.dropWhile_cons_of_pos hdigit
  have hposition := suffixAt?_digits hunread
  simp only [hrun, hrest] at hposition
  simp only [State.readOptionalNumber, digitsAt?_eq hunread, hrun, numberOf, reduceCtorEq, if_false,
    answer_readNumber_cons, hdigit, if_true]
  split_ifs with hvalue
  · exact ⟨_, hposition, rfl⟩
  · rfl

/-- What comes of reading a number. -/
theorem readNumber_eq (hunread : suffixAt? state.position input = some text)
    (next : Nat → State → State) :
    match answer (readNumber text) with
    | .ok (value, rest) => ∃ position, suffixAt? position input = some rest ∧
        state.readNumber input next = .next (next value (state.moveTo position))
    | .error fault => state.readNumber input next = .next (state.fail fault) := by
  cases text with
  | nil => exact readOptionalNumber_none hunread (by simp) _
  | cons c cs =>
      by_cases hdigit : c.isDigit = true
      · exact readOptionalNumber_some hdigit hunread _
      · rw [answer_readNumber_cons, if_neg hdigit]
        refine readOptionalNumber_none hunread ?_ _
        rintro _ ⟨⟩
        simpa using hdigit

/-! ### Single steps -/

variable [Allocator]

/-- Without a failure the first task is done. -/
theorem step_of_tasks {task : Task} {tasks : List Task} (htasks : state.tasks = task :: tasks)
    (hfault : state.fault = none) :
    step limit input state = perform limit input task (state.withTasks tasks) := by
  simp only [step, State.withTasks, htasks, hfault]

/-- The same, with the tasks written out. -/
theorem step_cons {task : Task} {tasks : List Task} (hfault : state.fault = none) :
    step limit input (state.withTasks (task :: tasks)) =
      perform limit input task (state.withTasks tasks) := step_of_tasks rfl hfault

/-- After a failure the first task is given up. -/
theorem step_cons_of_fault {task : Task} {tasks : List Task} {fault : DecodeError}
    (hfault : state.fault = some fault) :
    step limit input (state.withTasks (task :: tasks)) = unwind task (state.withTasks tasks) := by
  simp only [step, State.withTasks, hfault]

/-! ### Runs -/

/-- From a state with some tasks on, the steps come to where these ones are left, and an answer says
what was read and written by then. -/
def Finishes (limit : Option Nat) (input : List Char) (state : State) (tasks below : List Task) :
    Answer String → Prop
  | .ok (shown, rest) => ∃ position, suffixAt? position input = some rest ∧
      Reaches limit input (state.withTasks tasks) ((state.advance position shown).withTasks below)
  | .error fault => ∃ position output,
      Reaches limit input (state.withTasks tasks)
        ((state.failAt position output fault).withTasks below)

/-- After some text was read and written, the rest of the steps come to the rest of the answer. -/
theorem Finishes.prepend {start tasks below : List Task} {position : Nat} {shown : String}
    {answered : Answer String}
    (hreaches : Reaches limit input (state.withTasks start)
      ((state.advance position shown).withTasks tasks))
    (h : Finishes limit input (state.advance position shown) tasks below answered) :
    Finishes limit input state start below (answered.prepend shown) := by
  rcases answered with fault | ⟨more, rest⟩
  · obtain ⟨last, output, hrest⟩ := h
    exact ⟨last, output, hreaches.trans hrest⟩
  · obtain ⟨last, hlast, hrest⟩ := h
    have hadvance : (state.advance position shown).advance last more =
        state.advance last (shown ++ more) := by
      simp only [State.advance, String.append_assoc]
    rw [hadvance] at hrest
    exact ⟨last, hlast, hreaches.trans hrest⟩

/-- Tasks come to an answer on a text, whatever was written before and whatever is to be done
after them. -/
def Carries (limit : Option Nat) (input : List Char) (tasks : List Task) (depth : Nat)
    (text : List Char) (answered : Answer String) : Prop :=
  ∀ (state : State) (below : List Task), state.fault = none → state.depth = depth →
    suffixAt? state.position input = some text →
      Finishes limit input state (tasks ++ below) below answered

/-- A task that is given up leaves no trace. -/
def Task.IsPlain (task : Task) : Prop := ∀ state, unwind task state = .next state

/-- After a failure such tasks are only taken off the stack. -/
theorem reaches_skip {tasks below : List Task} (hplain : ∀ task ∈ tasks, task.IsPlain)
    {fault : DecodeError} (hfault : state.fault = some fault) :
    Reaches limit input (state.withTasks (tasks ++ below)) (state.withTasks below) := by
  induction tasks with
  | nil => exact .refl
  | cons task tasks ih =>
      refine .head ((step_cons_of_fault hfault).trans (hplain task List.mem_cons_self _)) ?_
      exact ih fun task htask => hplain task (List.mem_cons_of_mem _ htask)

/-- What a step that does a task comes to, without other tasks. -/
def Yields (progress : Progress) (input : List Char) (state : State) : Answer String → Prop
  | .ok (shown, rest) => ∃ position, suffixAt? position input = some rest ∧
      progress = .next (state.advance position shown)
  | .error fault => ∃ position, progress = .next ((state.moveTo position).fail fault)

namespace Carries

/-- A task that is done in one step. -/
theorem single {task : Task} {answered : Answer String}
    (h : ∀ state, state.depth = depth → suffixAt? state.position input = some text →
      Yields (perform limit input task state) input state answered) :
    Carries limit input [task] depth text answered := by
  intro state below hfault hdepth hunread
  have hstep : Cursor.step limit input (state.withTasks (task :: below)) =
      perform limit input task (state.withTasks below) := step_cons hfault
  have hperform := h (state.withTasks below) hdepth hunread
  rcases answered with fault | ⟨shown, rest⟩
  · obtain ⟨position, hperform⟩ := hperform
    exact ⟨position, state.output, .single (hstep.trans hperform)⟩
  · obtain ⟨position, hposition, hperform⟩ := hperform
    exact ⟨position, hposition, .single (hstep.trans hperform)⟩

/-- A task that writes a text and leaves the rest to others. -/
theorem step {task : Task} {tasks : List Task} {unread : List Char} {answered : Answer String}
    (shown : String)
    (h : ∀ state, state.depth = depth → suffixAt? state.position input = some text →
      ∃ position, suffixAt? position input = some unread ∧
        perform limit input task state = .next ((state.advance position shown).push tasks))
    (hrest : Carries limit input tasks depth unread answered) :
    Carries limit input [task] depth text (answered.prepend shown) := by
  intro state below hfault hdepth hunread
  obtain ⟨position, hposition, hperform⟩ := h (state.withTasks below) hdepth hunread
  exact .prepend (.single ((step_cons hfault).trans hperform))
    (hrest (state.advance position shown) below hfault hdepth hposition)

/-- A task that writes nothing and leaves the rest to others. -/
theorem pass {task : Task} {tasks : List Task} {unread : List Char} {answered : Answer String}
    (h : ∀ state, state.depth = depth → suffixAt? state.position input = some text →
      ∃ position, suffixAt? position input = some unread ∧
        perform limit input task state = .next ((state.moveTo position).push tasks))
    (hrest : Carries limit input tasks depth unread answered) :
    Carries limit input [task] depth text answered := by
  rw [← answered.prepend_empty]
  simp only [← State.advance_empty] at h
  exact hrest.step "" h

/-- No tasks come to nothing. -/
theorem nil (text : List Char) : Carries limit input [] depth text (.ok ("", text)) := by
  intro state below _ _ hunread
  refine ⟨state.position, hunread, ?_⟩
  rw [State.advance_empty]
  exact .refl

/-- A text that is only written. -/
theorem write {tasks : List Task} {answered : Answer String} (shown : String)
    (hrest : Carries limit input tasks depth text answered) :
    Carries limit input (.write shown :: tasks) depth text (answered.prepend shown) := by
  intro state below hfault hdepth hunread
  exact .prepend (.single (step_cons hfault))
    (hrest (state.advance state.position shown) below hfault hdepth hunread)

/-- A task that reads a number and leaves the rest to others. -/
theorem number {task : Task} {tasks : Nat → List Task} {next : Nat → List Char → Answer String}
    (h : ∀ state, perform limit input task state =
      state.readNumber input fun value state => state.push (tasks value))
    (hrest : ∀ value rest, answer (readNumber text) = .ok (value, rest) →
      Carries limit input (tasks value) depth rest (next value rest)) :
    Carries limit input [task] depth text ((answer (readNumber text)).andThen next) := by
  rcases hnumber : answer (readNumber text) with fault | ⟨value, rest⟩
  · refine single fun state _ hunread => ?_
    have hread := readNumber_eq hunread fun value state => state.push (tasks value)
    rw [hnumber] at hread
    exact ⟨state.position, (h state).trans hread⟩
  · refine (hrest value rest hnumber).pass fun state _ hunread => ?_
    have hread := readNumber_eq hunread fun value state => state.push (tasks value)
    rw [hnumber] at hread
    obtain ⟨position, hposition, hread⟩ := hread
    exact ⟨position, hposition, (h state).trans hread⟩

/-- Tasks after each other. -/
theorem seq {first second : List Task} {answered : Answer α} {render : α → String}
    {next : α → List Char → Answer String} (hplain : ∀ task ∈ second, task.IsPlain)
    (hfirst : Carries limit input first depth text (answered.shown render))
    (hsecond : ∀ value rest, answered = .ok (value, rest) →
      Carries limit input second depth rest (next value rest)) :
    Carries limit input (first ++ second) depth text
      (answered.andThen fun value rest => (next value rest).prepend (render value)) := by
  intro state below hfault hdepth hunread
  have hfinish := hfirst state (second ++ below) hfault hdepth hunread
  rw [← List.append_assoc] at hfinish
  rcases answered with fault | ⟨value, rest⟩
  · -- nothing of the second tasks is left to see, they are only taken off the stack
    obtain ⟨position, output, hreaches⟩ := hfinish
    have hskip : Reaches limit input
        ((state.failAt position output fault).withTasks (second ++ below))
        ((state.failAt position output fault).withTasks below) := reaches_skip hplain rfl
    exact ⟨position, output, hreaches.trans hskip⟩
  · obtain ⟨position, hposition, hreaches⟩ := hfinish
    exact .prepend hreaches
      (hsecond value rest rfl (state.advance position (render value)) below hfault hdepth hposition)

/-- Tasks inside a function or tuple type. A failure closes the type as well. -/
theorem nest {task : Task} {tasks : List Task} {unread : List Char} {answered : Answer String}
    (h : ∀ state, state.depth = depth → suffixAt? state.position input = some text →
      ∃ position, suffixAt? position input = some unread ∧
        perform limit input task state =
          .next ((state.moveTo position).enter limit (tasks ++ [.close])))
    (hrest : Carries limit input tasks (depth + 1) unread answered) :
    Carries limit input [task] depth text
      ((openNested limit depth unread).andThen fun _ _ => answered) := by
  rw [openNested]
  rcases hroom : checkNesting limit depth with fault | ⟨⟩
  · refine single fun state hdepth hunread => ?_
    obtain ⟨position, -, hperform⟩ := h state hdepth hunread
    refine ⟨position, hperform.trans ?_⟩
    rw [State.enter, show (state.moveTo position).depth = depth from hdepth, hroom]
  · intro state below hfault hdepth hunread
    subst hdepth
    obtain ⟨position, hposition, hperform⟩ := h (state.withTasks below) rfl hunread
    have hopen : Cursor.step limit input (state.withTasks (task :: below)) =
        .next ((state.moveTo position).deeper.withTasks (tasks ++ .close :: below)) := by
      refine ((step_cons hfault).trans hperform).trans ?_
      rw [List.append_cons tasks .close below, State.enter,
        show ((state.withTasks below).moveTo position).depth = state.depth from rfl, hroom]
      rfl
    have hfinish := hrest (state.moveTo position).deeper (.close :: below) hfault rfl hposition
    -- the type is closed on either way out, so the count is what it was
    rcases answered with fault | ⟨shown, rest⟩
    · obtain ⟨last, output, hreaches⟩ := hfinish
      have hclose : Cursor.step limit input
          ((state.failAt last output fault).deeper.withTasks (.close :: below)) =
          .next ((state.failAt last output fault).withTasks below) := step_cons_of_fault rfl
      exact ⟨last, output, .head hopen (hreaches.tail hclose)⟩
    · obtain ⟨last, hlast, hreaches⟩ := hfinish
      have hclose : Cursor.step limit input
          ((state.advance last shown).deeper.withTasks (.close :: below)) =
          .next ((state.advance last shown).withTasks below) := step_cons hfault
      exact ⟨last, hlast, .head hopen (hreaches.tail hclose)⟩

/-- An item of a list, and the rest of the list. A failure puts back what was written before. -/
theorem item {listing : Listing} {read : List String} {answered : Answer α} {render : α → String}
    {next : α → List Char → Answer String} (hitems : text.head? ≠ some listing.terminator)
    (hitem : Carries limit input [listing.item] depth text (answered.shown render))
    (hrest : ∀ value rest, answered = .ok (value, rest) →
      Carries limit input [.items listing (read ++ [render value])] depth rest (next value rest)) :
    Carries limit input [.items listing read] depth text (answered.andThen next) := by
  intro state below hfault hdepth hunread
  have hstep : Cursor.step limit input (state.withTasks (.items listing read :: below)) =
      .next ({ state with output := "" }.withTasks
        (listing.item :: .collect listing read state.output :: below)) := by
    refine (step_cons hfault).trans ?_
    have hsees : ¬ sees input state.position listing.terminator = true := by
      rw [sees_iff hunread (by cases listing <;> decide)]
      exact hitems
    show (if sees input state.position listing.terminator = true then _ else _) = _
    rw [if_neg hsees]
    rfl
  have hfinish := hitem { state with output := "" } (.collect listing read state.output :: below)
    hfault hdepth hunread
  rcases answered with fault | ⟨value, rest⟩
  · obtain ⟨position, output, hreaches⟩ := hfinish
    refine ⟨position, state.output, .head hstep (hreaches.tail ?_)⟩
    exact step_cons_of_fault rfl
  · obtain ⟨position, hposition, hreaches⟩ := hfinish
    have hcollect : Cursor.step limit input
        ((({ state with output := "" }.advance position (render value))).withTasks
          (.collect listing read state.output :: below)) =
        .next ((state.moveTo position).withTasks
          (.items listing (read ++ [render value]) :: below)) := by
      have hfault' : ({ state with output := "" }.advance position (render value)).fault = none :=
        hfault
      refine (step_cons hfault').trans ?_
      simp only [perform, State.withTasks, State.advance, String.empty_append]
      rfl
    have hreaches : Reaches limit input (state.withTasks (.items listing read :: below))
        ((state.advance position "").withTasks
          (.items listing (read ++ [render value]) :: below)) := by
      rw [State.advance_empty]
      exact .head hstep (hreaches.tail hcollect)
    have hfinish := hrest value rest rfl (state.advance position "") below hfault hdepth hposition
    have hdone := Finishes.prepend hreaches hfinish
    rwa [Answer.prepend_empty] at hdone

/-- A list that the text breaks off in. -/
theorem itemEnd {listing : Listing} {read : List String}
    (hitem : Carries limit input [listing.item] depth [] (.error .truncated)) :
    Carries limit input [.items listing read] depth [] (.error .truncated) := by
  have hitem : Carries limit input [listing.item] depth []
      (Answer.shown id (.error .truncated)) := hitem
  have hrest : ∀ value rest, (.error .truncated : Answer String) = .ok (value, rest) →
      Carries limit input [.items listing (read ++ [id value])] depth rest (.error .truncated) := by
    intro value rest h
    cases h
  exact item (by simp) hitem hrest

end Carries

end Cursor

end SymbolTrace.Mangling
