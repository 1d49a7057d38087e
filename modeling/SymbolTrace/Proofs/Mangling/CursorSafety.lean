import Mathlib.Tactic.SplitIfs
import SymbolTrace.Proofs.Mangling.Cursor

/-!
# The cursor is never lost

Between two steps the cursor lies between characters and not past the end, and the count of open
types is the number of closing tasks on the stack (`Sound`). Every step keeps this, because the
cursor is moved only over ASCII characters, runs of digits and parts that were taken out of the
text. It is all that looking at the text and closing types need, so that no step panics. That
types nest too deeply is said only where there is a limit, and of this limit.

## Main results

* `Sound.step`: a step from a sound state does not panic and comes to a sound state.
* `sound_of_reaches`: the decoder passes through sound states only.
* `Sound.safe`: what cannot go wrong in them.
-/

namespace SymbolTrace.Mangling.Cursor

open Text

/-- The number of function and tuple types that are being read. -/
def State.openTypes (state : State) : Nat := state.tasks.count .close

/-- A task that closes no type and takes out no name. -/
def Task.isOrdinary : Task → Bool
  | close => false
  | nameBytes _ => false
  | _ => true

/-- A state as it occurs between two steps. -/
structure Sound (limit : Option Nat) (input : List Char) (state : State) : Prop where
  boundary : ∃ unread, suffixAt? state.position input = some unread
  depth_eq : state.depth = state.openTypes
  sizes_lt : ∀ size, .nameBytes size ∈ state.tasks → size < numberBound
  within : ∀ bound ∈ limit, state.depth ≤ bound
  /-- Types nest too deeply only for the limit. -/
  reason : ∀ bound, state.fault = some (.nestingTooDeep bound) → limit = some bound

/-- A step that comes to a state of a kind. -/
def Progress.GoesOn (P : State → Prop) : Progress → Prop
  | .next state => P state
  | .done _ => False
  | .panicked => False

variable {limit : Option Nat} {input : List Char} {state next : State}

/-- At the start nothing is open and nothing is read. -/
theorem sound_start (limit : Option Nat) (input : List Char) : Sound limit input .start where
  boundary := ⟨input, suffixAt?_byteCount [] input⟩
  depth_eq := rfl
  sizes_lt := by simp [State.start]
  within := fun _ _ => Nat.zero_le _
  reason := nofun

/-! ### Ordinary tasks -/

/-- Ordinary tasks close nothing. -/
theorem count_close_of_ordinary {tasks : List Task} (htasks : tasks.all Task.isOrdinary = true) :
    tasks.count .close = 0 :=
  List.count_eq_zero.2 fun hclose => Bool.false_ne_true (List.all_eq_true.1 htasks _ hclose)

/-- Ordinary tasks take out no names. -/
theorem nameBytes_mem_append_iff {tasks below : List Task} {size : Nat}
    (htasks : tasks.all Task.isOrdinary = true) :
    .nameBytes size ∈ tasks ++ below ↔ .nameBytes size ∈ below := by
  rw [List.mem_append]
  exact or_iff_right fun hname => Bool.false_ne_true (List.all_eq_true.1 htasks _ hname)

/-! ### What changes a state -/

namespace Sound

/-- What is written, and what is known of the declaration, does not matter. -/
theorem congr (h : Sound limit input state) (hposition : next.position = state.position)
    (hdepth : next.depth = state.depth) (htasks : next.tasks = state.tasks)
    (hfault : next.fault = state.fault) : Sound limit input next where
  boundary := hposition ▸ h.boundary
  depth_eq := by rw [hdepth, State.openTypes, htasks, h.depth_eq, State.openTypes]
  sizes_lt := htasks ▸ h.sizes_lt
  within := hdepth ▸ h.within
  reason := hfault ▸ h.reason

/-- Ordinary tasks may be added. -/
theorem push (h : Sound limit input state) {tasks : List Task}
    (htasks : tasks.all Task.isOrdinary = true) : Sound limit input (state.push tasks) where
  boundary := h.boundary
  depth_eq := by
    show state.depth = (tasks ++ state.tasks).count .close
    rw [List.count_append, count_close_of_ordinary htasks, Nat.zero_add, h.depth_eq,
      State.openTypes]
  sizes_lt := fun size hname => h.sizes_lt size ((nameBytes_mem_append_iff htasks).1 hname)
  within := h.within
  reason := h.reason

/-- A name may be taken out if its size is a machine word. -/
theorem pushName (h : Sound limit input state) {size : Nat} (hsize : size < numberBound) :
    Sound limit input (state.push [.nameBytes size]) where
  boundary := h.boundary
  depth_eq := by
    show state.depth = (.nameBytes size :: state.tasks).count .close
    rw [List.count_cons_of_ne (show Task.nameBytes size ≠ .close from nofun), h.depth_eq,
      State.openTypes]
  sizes_lt := by
    rintro _ (_ | ⟨_, hname⟩)
    · exact hsize
    · exact h.sizes_lt _ hname
  within := h.within
  reason := h.reason

/-- A text may be written. -/
theorem write (h : Sound limit input state) (text : String) :
    Sound limit input (state.write text) := h.congr rfl rfl rfl rfl

/-- A state may fail for any reason but nesting, and for that one with a limit. -/
theorem fail (h : Sound limit input state) {fault : DecodeError}
    (hfault : ∀ bound, fault = .nestingTooDeep bound → limit = some bound) :
    Sound limit input (state.fail fault) where
  boundary := h.boundary
  depth_eq := h.depth_eq
  sizes_lt := h.sizes_lt
  within := h.within
  reason := fun bound hreason => hfault bound (Option.some.inj hreason)

/-- The kind of the declaration may change. -/
theorem withKind (h : Sound limit input state) (kind : Kind) :
    Sound limit input { state with kind } := h.congr rfl rfl rfl rfl

/-- What is shown may be replaced. -/
theorem withOutput (h : Sound limit input state) (output : String) :
    Sound limit input { state with output } := h.congr rfl rfl rfl rfl

/-- The cursor may be moved to any place between characters. -/
theorem moveTo (h : Sound limit input state) {position : Nat} {unread : List Char}
    (hposition : suffixAt? position input = some unread) :
    Sound limit input { state with position } where
  boundary := ⟨unread, hposition⟩
  depth_eq := h.depth_eq
  sizes_lt := h.sizes_lt
  within := h.within
  reason := h.reason

/-- The cursor is moved by one byte only over an ASCII character. -/
theorem bump (h : Sound limit input state) {marker : Char}
    (hsees : sees input state.position marker = true) (hmarker : marker.toNat < 128) :
    Sound limit input state.bump := by
  obtain ⟨unread, hunread⟩ := h.boundary
  obtain ⟨rest, rfl⟩ := List.head?_eq_some_iff.1 ((sees_iff hunread hmarker).1 hsees)
  exact h.moveTo (suffixAt?_succ hunread hmarker)

/-- The letter of a builtin type is an ASCII character. -/
theorem bumpLetter (h : Sound limit input state) {byte : UInt8} {code : Builtin}
    (hbyte : byteAt? input state.position = some byte)
    (hcode : Builtin.ofLetter? (Char.ofUInt8 byte) = some code) :
    Sound limit input state.bump := by
  obtain ⟨unread, hunread⟩ := h.boundary
  cases unread with
  | nil =>
      rw [byteAt?_eq hunread] at hbyte
      cases hbyte
  | cons c rest =>
      rw [ofLetter?_of_byteAt? hunread hbyte] at hcode
      exact h.moveTo (suffixAt?_succ hunread (toNat_lt_of_ofLetter? hcode))

/-- The limit is looked at before a type is opened. -/
theorem enter (h : Sound limit input state) (tasks : List Task)
    (htasks : tasks.all Task.isOrdinary = true) :
    Sound limit input (state.enter limit (tasks ++ [.close])) := by
  unfold State.enter
  split
  case h_1 fault hroom =>
    obtain ⟨bound, rfl, -, rfl⟩ := checkNesting_eq_error_iff.1 hroom
    exact h.fail fun bound' hfault => congrArg some (DecodeError.nestingTooDeep.inj hfault)
  case h_2 hroom =>
    refine ⟨h.boundary, ?_, fun size hname => ?_, fun bound hbound => ?_, h.reason⟩
    · show state.depth + 1 = (tasks ++ [Task.close] ++ state.tasks).count .close
      rw [List.count_append, List.count_append, count_close_of_ordinary htasks, h.depth_eq,
        State.openTypes, List.count_singleton_self, Nat.zero_add, Nat.add_comm]
    · rw [State.push, List.append_assoc] at hname
      have hname := (nameBytes_mem_append_iff htasks).1 hname
      exact h.sizes_lt size ((List.mem_cons.1 hname).resolve_left nofun)
    · rw [Option.mem_def] at hbound
      rw [hbound, checkNesting] at hroom
      by_cases hlt : state.depth < bound
      · exact hlt
      · simp [hlt] at hroom

/-- What is done after an optional number starts from a sound state, with a machine word if there is
one. -/
theorem readOptionalNumber (h : Sound limit input state) {next : Option Nat → State → State}
    (hnext : ∀ value state, (∀ n ∈ value, n < numberBound) → Sound limit input state →
      Sound limit input (next value state)) :
    (state.readOptionalNumber input next).GoesOn (Sound limit input) := by
  obtain ⟨unread, hunread⟩ := h.boundary
  simp only [State.readOptionalNumber, digitsAt?_eq hunread]
  split
  case h_1 fault hnumber =>
    obtain rfl := eq_malformedInteger_of_numberOf hnumber
    exact h.fail nofun
  case h_2 => exact hnext none state nofun h
  case h_3 value position hnumber =>
    obtain ⟨-, hvalue, rfl⟩ := numberOf_eq_some hnumber
    refine hnext _ _ ?_ (h.moveTo (suffixAt?_digits hunread))
    rintro _ ⟨⟩
    exact hvalue

/-- What is done after a number starts from a sound state, with a machine word. -/
theorem readNumber (h : Sound limit input state) {next : Nat → State → State}
    (hnext : ∀ value state, value < numberBound → Sound limit input state →
      Sound limit input (next value state)) :
    (state.readNumber input next).GoesOn (Sound limit input) := by
  refine h.readOptionalNumber fun value state hvalue hstate => ?_
  cases value with
  | none => exact hstate.fail nofun
  | some value => exact hnext value state (hvalue value rfl) hstate

/-- Taking a task off the stack keeps what is needed, if it closes nothing. -/
theorem pop {task : Task} {tasks : List Task} (h : Sound limit input state)
    (htasks : state.tasks = task :: tasks) (htask : task ≠ .close) :
    Sound limit input { state with tasks } where
  boundary := h.boundary
  depth_eq := by
    show state.depth = tasks.count .close
    rw [h.depth_eq, State.openTypes, htasks, List.count_cons_of_ne htask]
  sizes_lt := fun size hname => h.sizes_lt size (htasks ▸ List.mem_cons_of_mem task hname)
  within := h.within
  reason := h.reason

/-- A type is closed only while one is open. -/
theorem close {tasks : List Task} (h : Sound limit input state)
    (htasks : state.tasks = .close :: tasks) :
    (State.close { state with tasks }).GoesOn (Sound limit input) := by
  have hdepth := h.depth_eq
  rw [State.openTypes, htasks, List.count_cons_self] at hdepth
  unfold State.close
  rw [if_neg (show state.depth ≠ 0 by omega)]
  refine ⟨h.boundary, ?_, fun size hname => ?_, fun bound hbound => ?_, h.reason⟩
  · show state.depth - 1 = tasks.count .close
    omega
  · exact h.sizes_lt size (htasks ▸ List.mem_cons_of_mem _ hname)
  · exact Nat.le_trans (Nat.sub_le _ _) (h.within bound hbound)

end Sound

/-! ### Steps -/

variable [Allocator]

namespace Sound

/-- A task that closes nothing keeps what is needed. -/
theorem perform (h : Sound limit input state) {task : Task} (htask : task ≠ .close) :
    (perform limit input task state).GoesOn (Sound limit input) := by
  obtain ⟨unread, hunread⟩ := h.boundary
  cases task with
  | declaration =>
      simp only [Cursor.perform]
      split_ifs with hT hC hF
      · exact (h.bump hT (by decide)).push rfl
      · exact h.fail nofun
      · exact (h.bump hF (by decide)).push rfl
      · exact h.fail nofun
  | function =>
      simp only [Cursor.perform]
      split_ifs with hD hM hI
      · exact ((h.bump hD (by decide)).withKind _).push rfl
      · exact ((h.bump hM (by decide)).withKind _).push rfl
      · exact ((h.bump hI (by decide)).withKind _).push rfl
      · exact (h.withKind _).push rfl
  | type =>
      simp only [Cursor.perform]
      split_ifs with hP
      · exact (h.bump hP (by decide)).push rfl
      · exact h.push rfl
  | pointerCount => exact h.readNumber fun value state _ hstate => hstate.push rfl
  | pointerEnd count =>
      simp only [Cursor.perform]
      split_ifs with hT
      · exact (h.bump hT (by decide)).write _
      all_goals exact h.fail nofun
  | form =>
      simp only [Cursor.perform]
      split_ifs with hend hF ht hs
      · exact h.fail nofun
      · exact (h.bump hF (by decide)).enter [.items .parameters [], .write arrow, .type] rfl
      · exact (h.bump ht (by decide)).enter [.items .fields []] rfl
      · exact (h.bump hs (by decide)).push rfl
      · exact h.push rfl
  | builtin =>
      simp only [Cursor.perform]
      split
      case h_1 => exact h.fail nofun
      case h_2 byte hbyte =>
        split_ifs with hi
        · exact ((h.bump hi (by decide)).write _).push rfl
        · split
          case h_1 code hcode => exact (h.bumpLetter hbyte hcode).write _
          case h_2 =>
            rw [hunread]
            exact h.fail nofun
  | width =>
      simp only [Cursor.perform]
      exact h.readOptionalNumber fun value state _ hstate => hstate.write _
  | name => exact h.readNumber fun value state hvalue hstate => hstate.pushName hvalue
  | nameBytes size =>
      simp only [Cursor.perform, slice?_eq hunread]
      split
      case h_1 => exact h.fail nofun
      case h_2 name hname =>
        obtain ⟨⟨name, rest⟩, hsplit, rfl⟩ := Option.map_eq_some_iff.1 hname
        obtain ⟨rfl, rfl⟩ := splitBytes?_eq_some_iff.1 hsplit
        exact (h.moveTo (suffixAt?_add hunread)).write _
  | items listing read =>
      simp only [Cursor.perform]
      split_ifs with hend
      · exact (h.bump hend (by cases listing <;> decide)).write _
      · exact (h.withOutput "").push (by cases listing <;> rfl)
  | collect listing read saved => exact (h.withOutput saved).push rfl
  | close => exact absurd rfl htask
  | argument =>
      simp only [Cursor.perform]
      split_ifs with hend hS hE
      · exact h.fail nofun
      · exact (h.bump hS (by decide)).push rfl
      · exact (h.bump hE (by decide)).push rfl
      · exact (h.write _).push rfl
  | result =>
      simp only [Cursor.perform]
      split_ifs with hR
      · exact ((h.bump hR (by decide)).write _).push rfl
      · exact h
  | closureMark =>
      simp only [Cursor.perform]
      split_ifs with hC
      · exact (h.bump hC (by decide)).congr rfl rfl rfl rfl
      · exact h
  | write text => exact h.write text

/-- A step from a sound state ends the run if nothing is left to be done, and comes to a sound state
otherwise. -/
theorem step (h : Sound limit input state) :
    (state.tasks = [] ∧ step limit input state = .done state.result) ∨
      (Cursor.step limit input state).GoesOn (Sound limit input) := by
  unfold Cursor.step
  split
  case h_1 htasks => exact .inl ⟨htasks, rfl⟩
  case h_2 task tasks htasks _ =>
    right
    by_cases htask : task = .close
    · subst htask
      exact h.close htasks
    · exact (h.pop htasks htask).perform htask
  case h_3 task tasks _ htasks _ =>
    right
    unfold unwind
    split
    case h_1 saved => exact (h.pop htasks nofun).withOutput saved
    case h_2 => exact h.close htasks
    case h_3 hclose => exact h.pop htasks hclose

/-- A sound state does not panic. -/
theorem step_ne_panicked (h : Sound limit input state) :
    Cursor.step limit input state ≠ .panicked := by
  intro hpanic
  rcases h.step with ⟨-, hdone⟩ | hkeeps
  · rw [hdone] at hpanic
    cases hpanic
  · rwa [hpanic] at hkeeps

/-- A run ends only with what is reported when nothing is left to be done. -/
theorem result_eq (h : Sound limit input state) {result : Except DecodeError Demangled}
    (hdone : Cursor.step limit input state = .done result) : result = state.result := by
  rcases h.step with ⟨-, hresult⟩ | hkeeps
  · rw [hresult] at hdone
    exact (Progress.done.inj hdone).symm
  · rw [hdone] at hkeeps
    cases hkeeps

end Sound

/-- Any number of steps keeps a state sound. -/
theorem Sound.reaches (h : Sound limit input state) (hreaches : Reaches limit input state next) :
    Sound limit input next := by
  refine hreaches.keeps (fun hstep hsound => ?_) h
  rcases hsound.step with ⟨-, hdone⟩ | hkeeps
  · rw [hdone] at hstep
    cases hstep
  · rwa [hstep] at hkeeps

/-- The decoder passes through sound states only. -/
theorem sound_of_reaches (hreaches : Reaches limit input .start state) :
    Sound limit input state :=
  (sound_start limit input).reaches hreaches

/-! ### What cannot go wrong -/

/-- Nothing that the decoder does next is refused by the text, by machine words or by the count. -/
structure Safe (limit : Option Nat) (input : List Char) (state : State) : Prop where
  position_le : state.position ≤ byteCount input
  boundary : (suffixAt? state.position input).isSome = true
  digits : (digitsAt? input state.position).isSome = true
  /-- A name ends inside the text, or it is refused for being cut off. -/
  nameEnd : ∀ size below, state.tasks = .nameBytes size :: below → state.fault = none →
    size < UInt64.size ∧
      (state.position + size ≤ byteCount input ∨
        step limit input state = .next (State.fail { state with tasks := below } .truncated))
  /-- As many types are counted as are still to be closed. -/
  depth_eq : state.depth = state.openTypes
  step_ne_panicked : step limit input state ≠ .panicked

/-- A name ends inside the text, or else the next step refuses it. -/
theorem Sound.nameEnd {size : Nat} {below : List Task} (h : Sound limit input state)
    (htasks : state.tasks = .nameBytes size :: below) (hfault : state.fault = none) :
    state.position + size ≤ byteCount input ∨
      Cursor.step limit input state =
        .next (State.fail { state with tasks := below } .truncated) := by
  obtain ⟨unread, hunread⟩ := h.boundary
  rcases hsplit : splitBytes? size unread with _ | ⟨name, rest⟩
  · right
    simp only [Cursor.step, htasks, hfault, Cursor.perform, slice?_eq hunread, hsplit,
      Option.map_none]
  · left
    obtain ⟨rfl, rfl⟩ := splitBytes?_eq_some_iff.1 hsplit
    obtain ⟨front, rfl, hfront⟩ := suffixAt?_eq_some_iff.1 hunread
    simp only [byteCount_append]
    omega

/-- In a sound state nothing can go wrong. -/
theorem Sound.safe (h : Sound limit input state) : Safe limit input state := by
  obtain ⟨unread, hunread⟩ := h.boundary
  obtain ⟨front, hinput, hposition⟩ := suffixAt?_eq_some_iff.1 hunread
  exact {
    position_le := by
      rw [hinput, byteCount_append, hposition]
      exact Nat.le_add_right _ _
    boundary := by rw [hunread, Option.isSome_some]
    digits := by rw [digitsAt?_eq hunread, Option.isSome_some]
    nameEnd := fun size below htasks hfault =>
      ⟨h.sizes_lt size (htasks ▸ List.mem_cons_self), h.nameEnd htasks hfault⟩
    depth_eq := h.depth_eq
    step_ne_panicked := h.step_ne_panicked }

end SymbolTrace.Mangling.Cursor
