import SymbolTrace.Proofs.Mangling.CursorSafety
import SymbolTrace.Proofs.Mangling.CursorTasks

/-!
# The cursor gets on

What the decoder has written says nothing about how far it is: a name of no bytes, as in `0`, is an
item of a list like any other and shows nothing. So progress is told by the cursor. Each task but a
few takes at least one byte before it is done (`Task.consumes`), if not in the next step then in
one after it: the steps up to there leave the cursor where it is, and hand over to tasks of lower
rank. `pendingWork` adds up the ranks of the tasks on the stack up to the first that takes a byte.

So in each step one of these gets less, the earlier ones not getting more: the bytes that are
unread; whether the decoder can still fail; the pending work, or after a failure the tasks that are
to be given up. No run goes on for ever, from whatever state.

## Main results

* `effect_of_perform`: all that doing a task can come to in one step.
* `measure_lt_of_step`, `wellFounded_step`: what each step makes less.
* `Returns.position_lt`: a reader that succeeds has moved the cursor, and not past the end.
* `Returns.sees_terminator`: a list that was read has taken its terminator.
* `Sound.exists_final`: every run comes to its end.
-/

namespace SymbolTrace

/-- Where no run goes on for ever, every run comes to a last place. -/
theorem exists_last {α : Type} {follows : α → α → Prop}
    (hfollows : WellFounded fun next place => follows place next) (place : α) :
    ∃ last, Relation.ReflTransGen follows place last ∧ ∀ next, ¬ follows last next := by
  induction place using hfollows.induction with
  | _ place ih =>
      by_cases hmore : ∃ next, follows place next
      · obtain ⟨next, hnext⟩ := hmore
        obtain ⟨last, hreaches, hend⟩ := ih next hnext
        exact ⟨last, .head hnext hreaches, hend⟩
      · exact ⟨place, .refl, fun next hnext => hmore ⟨next, hnext⟩⟩

namespace Mangling.Cursor

open Text

variable {limit : Option Nat} {input : List Char} {state next final : State}

/-! ### Numbers -/

/-- What reading an optional number comes to, if it is not refused. -/
theorem readOptionalNumber_cases {f : Option Nat → State → State}
    (h : state.readOptionalNumber input f = .next next) :
    next = state.fail .malformedInteger ∨ next = f none state ∨
      ∃ value position, state.position < position ∧ position ≤ byteCount input ∧
        next = f (some value) (state.moveTo position) := by
  unfold State.readOptionalNumber at h
  split at h
  · cases h
  · rename_i digits hdigits
    split at h
    · rename_i fault hnumber
      cases h
      obtain rfl := eq_malformedInteger_of_numberOf hnumber
      exact .inl rfl
    · cases h
      exact .inr (.inl rfl)
    · rename_i value position hnumber
      cases h
      obtain ⟨hlt, hle⟩ := position_lt_of_numberOf hdigits hnumber
      exact .inr (.inr ⟨value, position, hlt, hle, rfl⟩)

/-- What reading a number comes to, if it is not refused: a failure where the cursor stands, or a
number behind which the cursor goes on. -/
theorem readNumber_cases {f : Nat → State → State}
    (h : state.readNumber input f = .next next) :
    next = state.fail .malformedInteger ∨
      ∃ value position, state.position < position ∧ position ≤ byteCount input ∧
        next = f value (state.moveTo position) := by
  rcases readOptionalNumber_cases h with rfl | rfl | ⟨value, position, hlt, hle, rfl⟩
  · exact .inl rfl
  · exact .inl rfl
  · exact .inr ⟨value, position, hlt, hle, rfl⟩

/-! ### Calls -/

/-- A reader is called while as many types are open as are counted. -/
def State.call (state : State) (task : Task) : State :=
  state.withTasks (task :: List.replicate state.depth .close)

/-- A call from a place between characters, with no more types open than the limit allows, meets
no refusal. -/
theorem sound_call {task : Task} (hboundary : (suffixAt? state.position input).isSome = true)
    (hwithin : ∀ bound ∈ limit, state.depth ≤ bound) (hfault : state.fault = none)
    (htask : task.isOrdinary = true) : Sound limit input (state.call task) where
  boundary := Option.isSome_iff_exists.1 hboundary
  depth_eq := by
    have hne : task ≠ .close := by
      rintro rfl
      cases htask
    show state.depth = (task :: List.replicate state.depth .close).count .close
    rw [List.count_cons_of_ne hne, List.count_replicate_self]
  sizes_lt := by
    intro size hname
    rcases List.mem_cons.1 hname with rfl | hname
    · cases htask
    · exact absurd (List.mem_replicate.1 hname).2 nofun
  within := hwithin
  reason := fun bound hreason => by
    rw [show (state.call task).fault = none from hfault] at hreason
    cases hreason

/-! ### What a task comes to -/

/-- Is a byte taken before the task is done, by it or by tasks that it hands over to? -/
def Task.consumes : Task → Bool
  | width => false
  | nameBytes _ => false
  | close => false
  | result => false
  | closureMark => false
  | write _ => false
  | _ => true

/-- Tasks hand over to tasks of lower rank, until the cursor moves. -/
def Task.rank : Task → Nat
  | collect _ _ _ => 5
  | items _ _ => 4
  | type => 3
  | form => 2
  | argument => 2
  | function => 2
  | _ => 1

/-- Each item of a list takes a byte. -/
theorem Listing.consumes_item (listing : Listing) : listing.item.consumes = true := by
  cases listing <;> rfl

/-- An item comes to a byte sooner than the loop around it. -/
theorem Listing.rank_item_lt (listing : Listing) : listing.item.rank < 4 := by
  cases listing <;> decide

/-- What doing a task may come to in one step. The tasks below it stay. -/
inductive Effect (input : List Char) (task : Task) (state next : State) : Prop
  /-- The cursor moves inside the text. -/
  | moves (pushed : List Task) :
      next.tasks = pushed ++ state.tasks → next.fault = state.fault →
      state.position < next.position → next.position ≤ byteCount input →
      Effect input task state next
  /-- A task that has to take a byte leaves this to one of lower rank. -/
  | hands (first : Task) (pushed : List Task) :
      task.consumes = true → first.consumes = true → first.rank < task.rank →
      next.tasks = first :: pushed ++ state.tasks → next.fault = state.fault →
      next.position = state.position → Effect input task state next
  /-- A task that need not take a byte is done. -/
  | finishes :
      task.consumes = false → next.tasks = state.tasks → next.fault = state.fault →
      next.position = state.position → Effect input task state next
  /-- A failure, perhaps behind a marker. -/
  | fails :
      next.tasks = state.tasks → next.fault.isSome = true → state.position ≤ next.position →
      next.position = state.position ∨ next.position ≤ byteCount input →
      Effect input task state next

namespace Effect

variable {task : Task}

/-- A failure is an effect of any task. -/
theorem fail (fault : DecodeError) : Effect input task state (state.fail fault) :=
  .fails rfl rfl (Nat.le_refl _) (.inl rfl)

/-- The cursor moves behind a marker that it sees. -/
theorem bump {marker : Char} (hsees : sees input state.position marker = true) (pushed : List Task)
    (htasks : next.tasks = pushed ++ state.tasks) (hfault : next.fault = state.fault)
    (hposition : next.position = state.position + 1) : Effect input task state next := by
  have hlt := lt_byteCount_of_sees hsees
  exact .moves pushed htasks hfault (by omega) (by omega)

/-- A function or tuple type is opened behind its marker, or nests too deeply. -/
theorem enter {marker : Char} (hsees : sees input state.position marker = true)
    (limit : Option Nat) (tasks : List Task) :
    Effect input task state (state.bump.enter limit tasks) := by
  have hlt := lt_byteCount_of_sees hsees
  unfold State.enter
  split
  · exact .fails rfl rfl (Nat.le_succ _) (.inr hlt)
  · exact .bump hsees tasks rfl rfl rfl

/-- The tasks below stay, whatever a task comes to. -/
theorem exists_pushed (h : Effect input task state next) :
    ∃ pushed, next.tasks = pushed ++ state.tasks := by
  cases h with
  | moves pushed htasks _ _ _ => exact ⟨pushed, htasks⟩
  | hands first pushed _ _ _ htasks _ _ => exact ⟨first :: pushed, htasks⟩
  | finishes _ htasks _ _ => exact ⟨[], htasks⟩
  | fails htasks _ _ _ => exact ⟨[], htasks⟩

end Effect

/-- Giving up a task moves nothing and puts nothing on the stack. -/
theorem of_unwind {task : Task} (h : unwind task state = .next next) :
    next.tasks = state.tasks ∧ next.fault = state.fault ∧ next.position = state.position := by
  cases task with
  | collect listing read saved => cases h; exact ⟨rfl, rfl, rfl⟩
  | close =>
      simp only [unwind, State.close] at h
      split_ifs at h
      cases h
      exact ⟨rfl, rfl, rfl⟩
  | _ => cases h; exact ⟨rfl, rfl, rfl⟩

section

variable [Allocator]

/-- All that doing a task can come to in one step. -/
theorem effect_of_perform {task : Task} (h : perform limit input task state = .next next) :
    Effect input task state next := by
  cases task with
  | declaration =>
      simp only [perform] at h
      split_ifs at h with hT hC hF <;> cases h
      · exact .bump hT [.type] rfl rfl rfl
      · exact .fail _
      · exact .bump hF [.function] rfl rfl rfl
      · exact .fail _
  | function =>
      simp only [perform] at h
      split_ifs at h with hD hM hI <;> cases h
      · exact .bump hD _ rfl rfl rfl
      · exact .bump hM _ rfl rfl rfl
      · exact .bump hI _ rfl rfl rfl
      · exact .hands .name signatureTasks rfl rfl (by decide) rfl rfl rfl
  | type =>
      simp only [perform] at h
      split_ifs at h with hP <;> cases h
      · exact .bump hP [.pointerCount, .form] rfl rfl rfl
      · exact .hands .form [] rfl rfl (by decide) rfl rfl rfl
  | pointerCount =>
      rcases readNumber_cases h with rfl | ⟨count, position, hlt, hle, rfl⟩
      · exact .fail _
      · exact .moves [.pointerEnd count] rfl rfl hlt hle
  | pointerEnd count =>
      simp only [perform] at h
      split_ifs at h with hT hcount hend <;> cases h
      · exact .bump hT [] rfl rfl rfl
      all_goals exact .fail _
  | form =>
      simp only [perform] at h
      split_ifs at h with hend hF ht hs <;> cases h
      · exact .fail _
      · exact .enter hF limit _
      · exact .enter ht limit _
      · exact .bump hs [.builtin] rfl rfl rfl
      · exact .hands .name [] rfl rfl (by decide) rfl rfl rfl
  | builtin =>
      simp only [perform] at h
      split at h
      · cases h
        exact .fail _
      · rename_i byte hbyte
        have hlt := lt_byteCount_of_byteAt? hbyte
        split_ifs at h with hi
        · cases h
          exact .bump hi [.width] rfl rfl rfl
        · split at h
          · cases h
            exact .moves [] rfl rfl (Nat.lt_succ_self _) hlt
          · split at h <;> cases h
            exact .fail _
  | width =>
      simp only [perform] at h
      rcases readOptionalNumber_cases h with rfl | rfl | ⟨value, position, hlt, hle, rfl⟩
      · exact .fail _
      · exact .finishes rfl rfl rfl rfl
      · exact .moves [] rfl rfl hlt hle
  | name =>
      rcases readNumber_cases h with rfl | ⟨size, position, hlt, hle, rfl⟩
      · exact .fail _
      · exact .moves [.nameBytes size] rfl rfl hlt hle
  | nameBytes size =>
      simp only [perform] at h
      split at h
      · cases h
        exact .fail _
      · rename_i name hname
        cases h
        have hle := le_byteCount_of_slice? hname
        rcases Nat.eq_zero_or_pos size with rfl | hsize
        · exact .finishes rfl rfl rfl rfl
        · exact .moves [] rfl rfl (Nat.lt_add_of_pos_right hsize) hle
  | items listing read =>
      simp only [perform] at h
      split_ifs at h with hend <;> cases h
      · exact .bump hend [] rfl rfl rfl
      · exact .hands listing.item [.collect listing read state.output] rfl listing.consumes_item
          listing.rank_item_lt rfl rfl rfl
  | collect listing read saved =>
      cases h
      exact .hands (.items listing (read ++ [state.output])) [] rfl rfl (Nat.lt_succ_self 4) rfl rfl
        rfl
  | close =>
      simp only [perform, State.close] at h
      split_ifs at h
      cases h
      exact .finishes rfl rfl rfl rfl
  | argument =>
      simp only [perform] at h
      split_ifs at h with hend hS hE <;> cases h
      · exact .fail _
      · exact .bump hS _ rfl rfl rfl
      · exact .bump hE _ rfl rfl rfl
      · exact .hands .name [.write ": ", .type] rfl rfl (by decide) rfl rfl rfl
  | result =>
      simp only [perform] at h
      split_ifs at h with hR <;> cases h
      · exact .bump hR [.type] rfl rfl rfl
      · exact .finishes rfl rfl rfl rfl
  | closureMark =>
      simp only [perform] at h
      split_ifs at h with hC <;> cases h
      · exact .bump hC [] rfl rfl rfl
      · exact .finishes rfl rfl rfl rfl
  | write text =>
      cases h
      exact .finishes rfl rfl rfl rfl

/-- A step takes the first task off the stack, and does it or gives it up. -/
theorem step_cases (h : step limit input state = .next next) :
    ∃ task below, state.tasks = task :: below ∧
      ((state.fault = none ∧ Effect input task (state.withTasks below) next) ∨
        (state.fault.isSome = true ∧ next.tasks = below ∧ next.fault = state.fault ∧
          next.position = state.position)) := by
  unfold step at h
  split at h
  case h_1 => cases h
  case h_2 task below htasks hfault =>
    exact ⟨task, below, htasks, .inl ⟨hfault, effect_of_perform h⟩⟩
  case h_3 task below fault htasks hfault =>
    refine ⟨task, below, htasks, .inr ⟨by rw [hfault, Option.isSome_some], ?_⟩⟩
    obtain ⟨hbelow, hkept, hposition⟩ := of_unwind h
    exact ⟨hbelow, hkept, hposition⟩

/-- A failure stays on its way out. -/
theorem fault_of_step {fault : DecodeError} (h : step limit input state = .next next)
    (hfault : state.fault = some fault) : next.fault = some fault := by
  obtain ⟨-, -, -, ⟨hnone, -⟩ | ⟨-, -, hkept, -⟩⟩ := step_cases h
  · rw [hnone] at hfault
    cases hfault
  · rw [hkept, hfault]

/-- A failure stays to the end. -/
theorem fault_of_reaches {fault : DecodeError} (hreaches : Reaches limit input state next)
    (hfault : state.fault = some fault) : next.fault = some fault :=
  hreaches.keeps fault_of_step hfault

/-- After a failure there is one. -/
theorem isSome_fault_of_step (h : step limit input state = .next next)
    (hsome : state.fault.isSome = true) : next.fault.isSome = true := by
  obtain ⟨fault, hfault⟩ := Option.isSome_iff_exists.1 hsome
  rw [fault_of_step h hfault, Option.isSome_some]

/-- A type is closed in the same way with a failure on its way out and without one. -/
theorem of_step_close {below : List Task} (htasks : state.tasks = .close :: below)
    (h : step limit input state = .next next) :
    next.tasks = below ∧ next.position = state.position := by
  have hclose : State.close (state.withTasks below) = .next next := by
    rcases hfault : state.fault with _ | fault
    · rwa [step_of_tasks htasks hfault] at h
    · have hstate : state = state.withTasks (.close :: below) := by
        rw [← htasks]
        rfl
      rw [hstate, step_cons_of_fault hfault] at h
      exact h
  unfold State.close at hclose
  split_ifs at hclose
  cases hclose
  exact ⟨rfl, rfl⟩

end

/-! ### What gets less -/

/-- The ranks of the tasks up to the first that takes a byte. -/
def pendingWork : List Task → Nat
  | [] => 0
  | task :: tasks => task.rank + if task.consumes then 0 else pendingWork tasks

/-- The unread bytes; whether the decoder can still fail; and the tasks that come before the next
byte, or after a failure all of them. -/
def State.measure (input : List Char) (state : State) : Nat × Nat × Nat :=
  match state.fault with
  | none => (byteCount input - state.position, 1, pendingWork state.tasks)
  | some _ => (byteCount input - state.position, 0, state.tasks.length)

/-- In lexicographic order. -/
abbrev MeasureLt : Nat × Nat × Nat → Nat × Nat × Nat → Prop :=
  Prod.Lex (· < ·) (Prod.Lex (· < ·) (· < ·))

/-- Every task is some work. -/
theorem rank_pos (task : Task) : 0 < task.rank := by
  cases task <;> exact Nat.succ_pos _

/-- With less to read there may be more to do. -/
theorem measureLt_of_unread_lt {unread unread' : Nat} {rest rest' : Nat × Nat}
    (h : unread' < unread) : MeasureLt (unread', rest') (unread, rest) := Prod.Lex.left _ _ h

/-- With as much to read there has to be less to do. -/
theorem measureLt_of_work_lt {unread flag work work' : Nat} (h : work' < work) :
    MeasureLt (unread, flag, work') (unread, flag, work) :=
  Prod.Lex.right _ (Prod.Lex.right _ h)

/-- Before a failure the work up to the next byte counts. -/
theorem State.measure_of_none (hfault : state.fault = none) :
    state.measure input = (byteCount input - state.position, 1, pendingWork state.tasks) := by
  rw [measure, hfault]

/-- After a failure all tasks count. -/
theorem State.measure_of_isSome (hfault : state.fault.isSome = true) :
    state.measure input = (byteCount input - state.position, 0, state.tasks.length) := by
  obtain ⟨fault, hfault⟩ := Option.isSome_iff_exists.1 hfault
  rw [measure, hfault]

variable [Allocator]

/-- Every step makes the measure less. -/
theorem measure_lt_of_step (h : step limit input state = .next next) :
    MeasureLt (next.measure input) (state.measure input) := by
  obtain ⟨task, below, htasks, ⟨hnone, heffect⟩ | ⟨hsome, hbelow, hkept, hposition⟩⟩ := step_cases h
  · rw [State.measure_of_none hnone, htasks, pendingWork]
    have hrank := rank_pos task
    cases heffect with
    | moves pushed _ hfault hlt hle =>
        rw [State.measure_of_none (hfault.trans hnone)]
        have hlt : state.position < next.position := hlt
        exact measureLt_of_unread_lt (by omega)
    | hands first pushed hconsumes hfirst hlower htasks hfault hposition =>
        rw [State.measure_of_none (hfault.trans hnone), htasks, hposition, List.cons_append,
          pendingWork, if_pos hfirst, if_pos hconsumes]
        exact measureLt_of_work_lt (by omega)
    | finishes hconsumes htasks hfault hposition =>
        rw [State.measure_of_none (hfault.trans hnone), htasks, hposition, hconsumes]
        exact measureLt_of_work_lt (Nat.lt_add_of_pos_left hrank)
    | fails _ hfault hle hin =>
        rw [State.measure_of_isSome hfault]
        have hle : state.position ≤ next.position := hle
        have hin : next.position = state.position ∨ next.position ≤ byteCount input := hin
        rcases Nat.eq_or_lt_of_le hle with heq | hlt
        · rw [heq]
          exact Prod.Lex.right _ (Prod.Lex.left _ _ Nat.zero_lt_one)
        · exact measureLt_of_unread_lt (by omega)
  · rw [State.measure_of_isSome hsome, State.measure_of_isSome (hkept ▸ hsome), hposition, hbelow,
      htasks]
    exact measureLt_of_work_lt (Nat.lt_succ_self _)

/-- No run goes on for ever. -/
theorem wellFounded_step (limit : Option Nat) (input : List Char) :
    WellFounded fun next state => step limit input state = .next next := by
  have hmeasure : WellFounded MeasureLt :=
    (Prod.lex Nat.lt_wfRel (Prod.lex Nat.lt_wfRel Nat.lt_wfRel)).wf
  exact Subrelation.wf measure_lt_of_step (InvImage.wf (State.measure input) hmeasure)

/-- A run that meets no refusal comes to where nothing is left to be done. -/
theorem Sound.exists_final (h : Sound limit input state) :
    ∃ final, Reaches limit input state final ∧ final.tasks = [] ∧
      Cursor.step limit input final = .done final.result := by
  obtain ⟨final, hreaches, hlast⟩ := exists_last (wellFounded_step limit input) state
  rcases (h.reaches hreaches).step with ⟨htasks, hdone⟩ | hkeeps
  · exact ⟨final, hreaches, htasks, hdone⟩
  · cases hstep : Cursor.step limit input final with
    | next next => exact absurd hstep (hlast next)
    | done result => rw [hstep] at hkeeps; cases hkeeps
    | panicked => rw [hstep] at hkeeps; cases hkeeps

/-! ### Readers -/

/-- A reader that was called in the first state succeeds in the second. -/
structure Returns (limit : Option Nat) (input : List Char) (task : Task) (state final : State) :
    Prop where
  reaches : Reaches limit input (state.call task) final
  tasks_eq : final.tasks = List.replicate state.depth .close
  fault_eq : final.fault = none

/-- A task that carries an answer returns with what the answer says. -/
theorem Carries.returns {task : Task} {text rest : List Char} {shown : String}
    (h : Carries limit input [task] state.depth text (.ok (shown, rest)))
    (hunread : suffixAt? state.position input = some text) (hfault : state.fault = none) :
    ∃ final, Returns limit input task state final ∧ suffixAt? final.position input = some rest ∧
      final.output = state.output ++ shown := by
  obtain ⟨position, hposition, hreaches⟩ :=
    h state (List.replicate state.depth .close) hfault rfl hunread
  exact ⟨_, ⟨hreaches, rfl, hfault⟩, hposition, rfl⟩

/-- Between two steps a call is at fault, or it still owes a byte, or the cursor has moved from
where it started and is not past the end. -/
def Underway (input : List Char) (start : Nat) (state : State) : Prop :=
  state.fault.isSome = true ∨
    (state.position = start ∧ ∃ task ∈ state.tasks, task.consumes = true) ∨
    (start < state.position ∧ state.position ≤ byteCount input)

/-- A step of a reader that has not come back leaves it underway. -/
theorem Underway.step {start : Nat} (h : Underway input start state)
    (hstep : Cursor.step limit input state = .next next) : Underway input start next := by
  obtain ⟨task, below, htasks, ⟨hnone, heffect⟩ | ⟨hsome, -, hkept, -⟩⟩ := step_cases hstep
  · have hunder : (state.position = start ∧ ∃ owing ∈ task :: below, owing.consumes = true) ∨
        (start < state.position ∧ state.position ≤ byteCount input) := by
      rw [← htasks]
      exact h.resolve_left (by rw [hnone]; nofun)
    cases heffect with
    | moves pushed _ _ hlt hle =>
        have hlt : state.position < next.position := hlt
        have hstart : start ≤ state.position := by
          rcases hunder with ⟨rfl, -⟩ | ⟨hmoved, -⟩
          · exact Nat.le_refl _
          · exact Nat.le_of_lt hmoved
        exact .inr (.inr ⟨Nat.lt_of_le_of_lt hstart hlt, hle⟩)
    | hands first pushed _ hfirst _ htasks _ hposition =>
        have hposition : next.position = state.position := hposition
        refine .inr ?_
        rw [hposition]
        refine hunder.imp_left fun ⟨hstart, _⟩ => ⟨hstart, first, ?_, hfirst⟩
        rw [htasks]
        exact List.mem_cons_self
    | finishes hconsumes htasks _ hposition =>
        have hposition : next.position = state.position := hposition
        refine .inr ?_
        rw [hposition, htasks]
        refine hunder.imp_left fun ⟨hstart, owing, hmem, howes⟩ => ⟨hstart, owing, ?_, howes⟩
        -- what is owed is owed below
        refine (List.mem_cons.1 hmem).resolve_left ?_
        rintro rfl
        rw [hconsumes] at howes
        cases howes
    | fails _ hfault _ _ => exact .inl hfault
  · exact .inl (hkept ▸ hsome)

/-- A reader that has to take a byte moves the cursor, and not past the end. -/
theorem Returns.position_lt {task : Task} (h : Returns limit input task state final)
    (hconsumes : task.consumes = true) :
    state.position < final.position ∧ final.position ≤ byteCount input := by
  have hcalled : Underway input state.position (state.call task) :=
    .inr (.inl ⟨rfl, task, List.mem_cons_self, hconsumes⟩)
  rcases h.reaches.keeps (fun hstep h => h.step hstep) hcalled with hsome |
    ⟨-, owing, hmem, howes⟩ | hmoved
  · rw [h.fault_eq] at hsome
    cases hsome
  · -- only closing tasks are left, which owe nothing
    rw [h.tasks_eq] at hmem
    rw [(List.mem_replicate.1 hmem).2] at howes
    cases howes
  · exact hmoved

/-! ### Lists -/

/-- Is this the task of the list's loop, in front of an item or behind one? -/
def Task.isLoop (listing : Listing) : Task → Bool
  | items listing' _ => listing' == listing
  | collect listing' _ _ => listing' == listing
  | _ => false

/-- Between two steps the loop of a list is at fault, or its task lies above the closing tasks, or
it has taken its terminator and nothing after it. -/
def LoopUnderway (input : List Char) (listing : Listing) (state : State) : Prop :=
  state.fault.isSome = true ∨
    (∃ above loop below, state.tasks = above ++ loop :: below ∧ loop.isLoop listing = true ∧
      ∀ task ∈ below, task = .close) ∨
    ((∀ task ∈ state.tasks, task = .close) ∧ 0 < state.position ∧
      sees input (state.position - 1) listing.terminator = true)

/-- A step of the loop itself. -/
theorem loopUnderway_of_perform {listing : Listing} {loop : Task}
    (hloop : loop.isLoop listing = true) (hbelow : ∀ task ∈ state.tasks, task = .close)
    (h : perform limit input loop state = .next next) : LoopUnderway input listing next := by
  cases loop with
  | items listing' read =>
      obtain rfl : listing' = listing := eq_of_beq hloop
      simp only [perform] at h
      split_ifs at h with hend <;> cases h
      · exact .inr (.inr ⟨hbelow, Nat.succ_pos _, hend⟩)
      · exact .inr (.inl ⟨[listing'.item], .collect listing' read state.output, state.tasks, rfl,
          hloop, hbelow⟩)
  | collect listing' read saved =>
      cases h
      exact .inr (.inl ⟨[], .items listing' (read ++ [state.output]), state.tasks, rfl, hloop,
        hbelow⟩)
  | _ => cases hloop

/-- A step inside a loop over a list leaves the loop underway. -/
theorem LoopUnderway.step {listing : Listing} (h : LoopUnderway input listing state)
    (hstep : Cursor.step limit input state = .next next) : LoopUnderway input listing next := by
  rcases h with hsome | ⟨above, loop, below, htasks, hloop, hbelow⟩ | ⟨hclosing, hpos, hsees⟩
  · exact .inl (isSome_fault_of_step hstep hsome)
  · rcases hfault : state.fault with _ | fault
    case some => exact .inl (isSome_fault_of_step hstep (by rw [hfault, Option.isSome_some]))
    cases above with
    | nil =>
        rw [step_of_tasks htasks hfault] at hstep
        exact loopUnderway_of_perform hloop hbelow hstep
    | cons task above =>
        rw [step_of_tasks htasks hfault] at hstep
        -- whatever the task above the loop comes to, the loop stays below it
        obtain ⟨pushed, hpushed⟩ := (effect_of_perform hstep).exists_pushed
        refine .inr (.inl ⟨pushed ++ above, loop, below, ?_, hloop, hbelow⟩)
        rw [hpushed, List.append_assoc]
        rfl
  · obtain ⟨task, below, htasks, -⟩ := step_cases hstep
    rw [htasks, List.forall_mem_cons] at hclosing
    obtain ⟨rfl, hbelow⟩ := hclosing
    obtain ⟨hnext, hposition⟩ := of_step_close htasks hstep
    refine .inr (.inr ⟨hnext ▸ hbelow, ?_⟩)
    rw [hposition]
    exact ⟨hpos, hsees⟩

/-- A list that was read ends with its terminator, which is the last byte taken. -/
theorem Returns.sees_terminator {listing : Listing} {read : List String}
    (h : Returns limit input (.items listing read) state final) :
    sees input (final.position - 1) listing.terminator = true := by
  have hclosing : ∀ task ∈ List.replicate state.depth Task.close, task = .close :=
    fun _ htask => (List.mem_replicate.1 htask).2
  have hcalled : LoopUnderway input listing (state.call (.items listing read)) :=
    .inr (.inl ⟨[], _, _, rfl, beq_self_eq_true listing, hclosing⟩)
  rcases h.reaches.keeps (fun hstep h => h.step hstep) hcalled with hsome |
    ⟨above, loop, below, htasks, hloop, -⟩ | ⟨-, -, hsees⟩
  · rw [h.fault_eq] at hsome
    cases hsome
  · -- only closing tasks are left, and the loop is none
    rw [h.tasks_eq] at htasks
    have hmem : loop ∈ List.replicate state.depth Task.close :=
      htasks ▸ List.mem_append_right above List.mem_cons_self
    rw [hclosing loop hmem] at hloop
    cases hloop
  · exact hsees

end Mangling.Cursor

end SymbolTrace
