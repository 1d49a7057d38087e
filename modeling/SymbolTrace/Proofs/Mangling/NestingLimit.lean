import SymbolTrace.Proofs.Mangling.CursorRun
import SymbolTrace.Proofs.Mangling.Progress
import SymbolTrace.Proofs.Mangling.Recognition

/-!
# The nesting limit

The limit on open function and tuple types does what it says and nothing else. A decoder with the
limit and one without it take the same steps until the second opens a type that the first may not
open (`Blocked`). From there on the first is bound to report that the types nest too deeply, and
where this never happens both report the same.

The count of open types is all that the limit looks at, and it counts the types that the next one
would lie in. So neighbours do not add up: of a declaration that the grammar has, only the greatest
nesting of its types matters.

## Main results

* `Cursor.step_eq_or_blocked`: one step of both decoders.
* `Cursor.reaches_or_blocked`: any number of steps of both.
* `nesting_limit_exact`: what the limit means for what is reported.
-/

namespace SymbolTrace.Mangling

open Text

namespace Cursor

variable {bound : Nat} {state : State}

/-! ### Opening a type -/

/-- Entering a type opens the one type that the tasks will close. -/
theorem openTypes_enter {tasks : List Task} (htasks : tasks.count .close = 1) :
    (state.enter none tasks).openTypes = state.openTypes + 1 := by
  show (tasks ++ state.tasks).count .close = state.tasks.count .close + 1
  rw [List.count_append, htasks, Nat.add_comm]

/-- Below the limit a type is entered as if there were none. -/
theorem enter_of_lt (hroom : state.depth < bound) (tasks : List Task) :
    state.enter (some bound) tasks = state.enter none tasks := by
  simp only [State.enter, checkNesting, if_pos hroom]

/-- At the limit no type is entered. -/
theorem enter_of_le (hfull : bound ≤ state.depth) (tasks : List Task) :
    state.enter (some bound) tasks = state.fail (.nestingTooDeep bound) := by
  simp only [State.enter, checkNesting, if_neg (Nat.not_lt.2 hfull)]

end Cursor

section

variable [Allocator]

namespace Cursor

variable {limit : Option Nat} {bound : Nat} {input : List Char} {state next final : State}
  {fault : DecodeError} {result : Except DecodeError Demangled}

/-! ### Both decoders, step by step -/

/-- The limit stands in the way of a step that opens one more type. -/
structure Blocked (bound : Nat) (input : List Char) (state : State) : Prop where
  fault_eq : state.fault = none
  full : bound ≤ state.depth
  opens : ∃ next, step none input state = .next next ∧ next.openTypes = state.openTypes + 1
  refused : ∃ next, step (some bound) input state = .next next ∧
    next.fault = some (.nestingTooDeep bound)

/-- A task opens a type, whatever the limit says to that, or it does not look at the limit. -/
theorem perform_cases (input : List Char) (task : Task) (state : State) :
    (task = .form ∧ ∃ tasks, tasks.count .close = 1 ∧
        ∀ limit, perform limit input task state = .next (state.bump.enter limit tasks)) ∨
      ∀ limit, perform limit input task state = perform none input task state := by
  by_cases htask : task = .form
  case neg =>
    right
    cases task with
    | form => exact absurd rfl htask
    | _ => exact fun _ => rfl
  subst htask
  by_cases hend : (byteAt? input state.position).isNone = true
  · right
    simp only [perform, if_pos hend, implies_true]
  by_cases hF : sees input state.position 'F' = true
  · left
    refine ⟨rfl, [.items .parameters [], .write arrow, .type, .close], rfl, fun limit => ?_⟩
    simp only [perform, if_neg hend, if_pos hF]
  by_cases ht : sees input state.position 't' = true
  · left
    refine ⟨rfl, [.items .fields [], .close], rfl, fun limit => ?_⟩
    simp only [perform, if_neg hend, if_neg hF, if_pos ht]
  · right
    simp only [perform, if_neg hend, if_neg hF, if_neg ht, implies_true]

/-- A decoder with the limit takes the step of the one without it, except where it is blocked. -/
theorem step_eq_or_blocked (bound : Nat) (input : List Char) (state : State) :
    step (some bound) input state = step none input state ∨ Blocked bound input state := by
  rcases hfault : state.fault with _ | fault
  case some =>
    left
    cases htasks : state.tasks <;> simp only [step, htasks, hfault]
  rcases htasks : state.tasks with _ | ⟨task, below⟩
  · left
    simp only [step, htasks, hfault]
  have hstep : ∀ limit, step limit input state = perform limit input task (state.withTasks below) :=
    fun _ => step_of_tasks htasks hfault
  rcases perform_cases input task (state.withTasks below) with
    ⟨rfl, tasks, hclose, hopen⟩ | hsame
  case inr => exact .inl (by rw [hstep, hstep, hsame])
  rcases Nat.lt_or_ge state.depth bound with hroom | hfull
  · have hroom : (state.withTasks below).bump.depth < bound := hroom
    exact .inl (by rw [hstep, hstep, hopen, hopen, enter_of_lt hroom])
  · have hopened : (state.withTasks below).bump.openTypes = state.openTypes := by
      rw [State.openTypes, State.openTypes, htasks,
        List.count_cons_of_ne (show Task.form ≠ .close by simp)]
      rfl
    have hfull' : bound ≤ (state.withTasks below).bump.depth := hfull
    refine .inr ⟨hfault, hfull, ⟨_, (hstep none).trans (hopen none), ?_⟩,
      ⟨_, (hstep _).trans (hopen _), ?_⟩⟩
    · rw [openTypes_enter hclose, hopened]
    · rw [enter_of_le hfull']
      rfl

/-! ### Whole runs -/

/-- A run that ends passes through every state that comes after its start. -/
theorem reaches_final (hreaches : Reaches limit input state next)
    (hfinal : Reaches limit input state final) (hdone : step limit input final = .done result) :
    Reaches limit input next final := by
  induction hreaches using Relation.ReflTransGen.head_induction_on with
  | refl => exact hfinal
  | head hstep _ ih =>
      rcases hfinal.cases_head with rfl | ⟨other, hother, hrest⟩
      · rw [hstep] at hdone
        cases hdone
      · rw [hstep] at hother
        cases hother
        exact ih hrest

/-- There is one result. -/
theorem Ends.unique {other : Except DecodeError Demangled} (h : Ends limit input state result)
    (h' : Ends limit input state other) : result = other := by
  obtain ⟨final, hreaches, hdone⟩ := h
  obtain ⟨final', hreaches', hdone'⟩ := h'
  rcases (reaches_final hreaches hreaches' hdone').cases_head with rfl | ⟨next, hnext, -⟩
  · rw [hdone] at hdone'
    exact Progress.done.inj hdone'
  · rw [hdone] at hnext
    cases hnext

/-- A failure on the way is what is reported. -/
theorem Ends.of_fault (h : Ends limit input .start result)
    (hreaches : Reaches limit input .start next) (hfault : next.fault = some fault) :
    result = .error fault := by
  obtain ⟨final, hfinal, hdone⟩ := h
  have hfault' := fault_of_reaches (reaches_final hreaches hfinal hdone) hfault
  rw [(sound_of_reaches hfinal).result_eq hdone, State.result, hfault']

/-- Where the decoder without the limit comes to, the one with it comes to as well, unless it is
blocked before. -/
theorem reaches_or_blocked (bound : Nat) (hreaches : Reaches none input .start state) :
    Reaches (some bound) input .start state ∨
      ∃ earlier, Reaches none input .start earlier ∧ Reaches (some bound) input .start earlier ∧
        Blocked bound input earlier := by
  induction hreaches with
  | refl => exact .inl .refl
  | tail hbefore hstep ih =>
      rcases ih with hreaches | hblocked
      · rcases step_eq_or_blocked bound input _ with hsame | hblocked
        · exact .inl (hreaches.tail (hsame.trans hstep))
        · exact .inr ⟨_, hbefore, hreaches, hblocked⟩
      · exact .inr hblocked

/-- The limit is met exactly if a type is opened inside as many as it allows. -/
theorem exists_blocked_iff (bound : Nat) (input : List Char) :
    (∃ state, Reaches none input .start state ∧ Reaches (some bound) input .start state ∧
        Blocked bound input state) ↔
      ∃ state next, Reaches none input .start state ∧ step none input state = .next next ∧
        next.openTypes = state.openTypes + 1 ∧ state.fault = none ∧ state.openTypes = bound := by
  constructor
  · rintro ⟨state, hreaches, hbounded, hblocked⟩
    obtain ⟨next, hstep, hopen⟩ := hblocked.opens
    have hsound := sound_of_reaches hbounded
    have hfull : state.openTypes = bound := by
      rw [← hsound.depth_eq]
      exact Nat.le_antisymm (hsound.within bound rfl) hblocked.full
    exact ⟨state, next, hreaches, hstep, hopen, hblocked.fault_eq, hfull⟩
  · rintro ⟨state, next, hreaches, hstep, hopen, -, hfull⟩
    rcases reaches_or_blocked bound hreaches with hbounded | hblocked
    · rcases step_eq_or_blocked bound input state with hsame | hblocked
      · -- with room the next state would hold one type too many
        have hsound := sound_of_reaches (hbounded.tail (hsame.trans hstep))
        have hdepth := hsound.within bound rfl
        rw [hsound.depth_eq, hopen, hfull] at hdepth
        exact absurd hdepth (Nat.not_succ_le_self bound)
      · exact ⟨state, hreaches, hbounded, hblocked⟩
    · exact hblocked

/-- A decoder that is blocked on the way reports it. -/
theorem Ends.of_blocked (h : Ends (some bound) input .start result)
    (hreaches : Reaches (some bound) input .start state) (hblocked : Blocked bound input state) :
    result = .error (.nestingTooDeep bound) := by
  obtain ⟨next, hstep, hfault⟩ := hblocked.refused
  exact h.of_fault (hreaches.tail hstep) hfault

/-- A decoder that is never blocked reports what the one without the limit reports. -/
theorem Ends.of_not_blocked (h : Ends none input .start result)
    (hfree : ¬ ∃ state, Reaches none input .start state ∧ Reaches (some bound) input .start state ∧
      Blocked bound input state) : Ends (some bound) input .start result := by
  obtain ⟨final, hreaches, hdone⟩ := h
  have hbounded : Reaches (some bound) input .start final :=
    (reaches_or_blocked bound hreaches).resolve_right hfree
  refine ⟨final, hbounded, ?_⟩
  rcases step_eq_or_blocked bound input final with hsame | hblocked
  · rw [hsame, hdone]
  · exact absurd ⟨final, hreaches, hbounded, hblocked⟩ hfree

/-- Without a limit types never nest too deeply. -/
theorem Ends.ne_nestingTooDeep (h : Ends none input .start result) :
    result ≠ .error (.nestingTooDeep bound) := by
  rintro rfl
  obtain ⟨final, hreaches, hdone⟩ := h
  have hsound := sound_of_reaches hreaches
  have hresult := hsound.result_eq hdone
  rcases hfault : final.fault with _ | fault
  · rw [State.result, hfault] at hresult
    cases hresult
  · rw [State.result, hfault] at hresult
    cases hresult
    cases hsound.reason bound hfault

/-- The decoder of a symbol opens a function or tuple type in a state that it passes through. -/
def Opens (limit : Option Nat) (symbol : String) (state : State) : Prop :=
  ∃ body next, afterSentinel? symbol.toList = some body ∧ Reaches limit body .start state ∧
    step limit body state = .next next ∧ next.openTypes = state.openTypes + 1

/-- The decoder is blocked exactly if one without the limit opens a type inside as many as the
limit allows. -/
theorem exists_opens_iff {symbol : String} {body : List Char}
    (hbody : afterSentinel? symbol.toList = some body) :
    (∃ state, Opens none symbol state ∧ state.fault = none ∧ state.openTypes = bound) ↔
      ∃ state, Reaches none body .start state ∧ Reaches (some bound) body .start state ∧
        Blocked bound body state := by
  rw [exists_blocked_iff]
  constructor
  · rintro ⟨state, ⟨body', next, hbody', hreaches, hstep, hopen⟩, hfault, hfull⟩
    obtain rfl : body = body' := Option.some.inj (hbody.symm.trans hbody')
    exact ⟨state, next, hreaches, hstep, hopen, hfault, hfull⟩
  · rintro ⟨state, next, hreaches, hstep, hopen, hfault, hfull⟩
    exact ⟨state, ⟨body, next, hbody, hreaches, hstep, hopen⟩, hfault, hfull⟩

end Cursor

/-! ### What is reported -/

/-- Nothing behind a missing sentinel is read, under any limit. -/
theorem demangledWithin_of_afterSentinel?_none {symbol : String}
    (hbody : afterSentinel? symbol.toList = none) (limit : Option Nat) :
    demangledWithin limit symbol = .error .unrecognizedFormat := by
  rw [demangledWithin, decodeWithin, hbody]
  rfl

/-- A symbol is refused for its nesting exactly if a decoder without a limit comes to open one type
too many, before any failure. -/
theorem demangledWithin_eq_nestingTooDeep_iff (bound : Nat) (symbol : String) :
    demangledWithin (some bound) symbol = .error (.nestingTooDeep bound) ↔
      ∃ state, Cursor.Opens none symbol state ∧ state.fault = none ∧ state.openTypes = bound := by
  rcases hbody : afterSentinel? symbol.toList with _ | body
  · rw [demangledWithin_of_afterSentinel?_none hbody]
    refine iff_of_false nofun ?_
    rintro ⟨state, ⟨body, next, hbody', -⟩, -⟩
    rw [hbody] at hbody'
    cases hbody'
  have hbounded := Cursor.ends_demangledWithin (some bound) hbody
  have hunlimited := Cursor.ends_demangledWithin none hbody
  rw [Cursor.exists_opens_iff hbody]
  constructor
  · intro hdeep
    -- a decoder that is never blocked reports what the other one does, and that is not this
    refine Classical.byContradiction fun hfree => ?_
    rw [hbounded.unique (hunlimited.of_not_blocked hfree)] at hdeep
    exact hunlimited.ne_nestingTooDeep hdeep
  · rintro ⟨state, -, hreaches, hblocked⟩
    exact hbounded.of_blocked hreaches hblocked

/-- The limit shows only in the symbols that it refuses. -/
theorem demangledWithin_eq_of_ne {bound : Nat} {symbol : String}
    (h : demangledWithin (some bound) symbol ≠ .error (.nestingTooDeep bound)) :
    demangledWithin (some bound) symbol = demangledWithin none symbol := by
  rcases hbody : afterSentinel? symbol.toList with _ | body
  · rw [demangledWithin_of_afterSentinel?_none hbody, demangledWithin_of_afterSentinel?_none hbody]
  rw [Ne, demangledWithin_eq_nestingTooDeep_iff, Cursor.exists_opens_iff hbody] at h
  exact (Cursor.ends_demangledWithin (some bound) hbody).unique
    ((Cursor.ends_demangledWithin none hbody).of_not_blocked h)

/-- Types that a limit admits are admitted without it. -/
theorem TypeExpr.Admitted.unlimited {limit : Option Nat} {depth : Nat} {type : TypeExpr}
    (h : type.Admitted limit depth) : type.Admitted none depth :=
  ⟨nofun, h.pointers⟩

/-- Of a declaration read without a limit, only the greatest nesting of its types matters. -/
theorem demangled_eq_ok_iff_nesting {symbol : String} {d : Declaration}
    (h : decodeWithin none symbol = .ok d) :
    demangled symbol = .ok d.demangled ↔ d.nesting ≤ maxNesting := by
  rw [decodeWithin_eq_map_answerSymbol] at h
  rcases hanswer : answerSymbol none symbol.toList with fault | ⟨d', next⟩
  · rw [hanswer] at h
    cases h
  obtain rfl : d' = d := by
    rw [hanswer] at h
    exact Except.ok.inj h
  obtain ⟨w, hsymbol, hw, hadmitted⟩ := answerSymbol_eq_ok_iff.1 hanswer
  rw [demangled_eq_ok_iff_decode]
  constructor
  · rintro ⟨d, hdecode, -⟩
    obtain ⟨next', hanswer'⟩ := decode_eq_ok_iff.1 hdecode
    obtain ⟨w', hsymbol', hw', hadmitted'⟩ := answerSymbol_eq_ok_iff.1 hanswer'
    -- the same declaration is read with the limit
    have hunlimited := answerSymbol_eq_ok_iff.2
      ⟨w', hsymbol', hw', fun type htype => (hadmitted' type htype).unlimited⟩
    rw [hanswer] at hunlimited
    cases hunlimited
    exact (forall_types_admitted_iff.1 hadmitted').1
  · intro hnesting
    have hpointers : ∀ count ∈ d'.pointerCounts, Allocator.holdsRun count :=
      (all_admitted_iff.1 hadmitted).2
    have hlimited := forall_types_admitted_iff.2 ⟨hnesting, hpointers⟩
    exact ⟨d', decode_eq_ok_iff.2 ⟨next, answerSymbol_eq_ok_iff.2 ⟨w, hsymbol, hw, hlimited⟩⟩, rfl⟩

/-- **The nesting limit is exact and otherwise invisible.** The decoder comes to what is reported,
and never are more types open on the way than the limit allows. A symbol is refused for its nesting
exactly if a decoder without the limit opens a type while that many are open, before it meets any
failure; every other symbol is reported as without the limit. So neighbouring types do not add up:
of a symbol that is decoded without the limit, only the greatest nesting of a type matters. -/
theorem nesting_limit_exact (symbol : String) :
    (∀ body, afterSentinel? symbol.toList = some body →
      Cursor.Ends (some maxNesting) body .start (demangled symbol) ∧
      ∀ state, Cursor.Reaches (some maxNesting) body .start state →
        state.openTypes ≤ maxNesting) ∧
    (demangled symbol = .error (.nestingTooDeep maxNesting) ↔
      ∃ state, Cursor.Opens none symbol state ∧ state.fault = none ∧
        state.openTypes = maxNesting) ∧
    (demangled symbol ≠ .error (.nestingTooDeep maxNesting) →
      demangled symbol = demangledWithin none symbol) ∧
    ∀ d, decodeWithin none symbol = .ok d →
      (demangled symbol = .ok d.demangled ↔ d.nesting ≤ maxNesting) := by
  refine ⟨fun body hbody => ⟨?run, ?within⟩, ?refused, ?other,
    fun d => demangled_eq_ok_iff_nesting⟩
  case run =>
    rw [demangled_eq_demangledWithin]
    exact Cursor.ends_demangledWithin (some maxNesting) hbody
  case within =>
    intro state hreaches
    have hsound := Cursor.sound_of_reaches hreaches
    exact hsound.depth_eq ▸ hsound.within maxNesting rfl
  case refused =>
    rw [demangled_eq_demangledWithin]
    exact demangledWithin_eq_nestingTooDeep_iff maxNesting symbol
  case other =>
    rw [demangled_eq_demangledWithin]
    exact demangledWithin_eq_of_ne

end

attribute [local instance] Allocator.unlimited

example : demangledWithin (some 1) "_WTttTT" = .error (.nestingTooDeep 1) := by cbv

-- neighbours inside one tuple
example : demangledWithin (some 2) "_WTttTtTT" = .ok ⟨.type, "((), ())", false⟩ := by cbv

end SymbolTrace.Mangling
