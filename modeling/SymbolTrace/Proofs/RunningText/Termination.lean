import SymbolTrace.Proofs.Mangling.Progress
import SymbolTrace.Proofs.Mangling.Recognition
import SymbolTrace.Proofs.RunningText.Safety

/-!
# Reading ends

Decoding a symbol and making text readable end on every text because each reader and each round
gets on: it takes at least a byte, and does not go past the end. This is said of the readers, which
leave less than they were given; of the cursor, which can stand anywhere when a reader is called;
and of the passes over a running text. What shows for a reader may be empty, as the name `0` is, so
nothing here is about what is written.

The recursion of the readers and of the passes is on the text that is unread. No count of steps
bounds it from outside.

## Main results

* `readers_get_on`: the readers.
* `Cursor.getsOn`: the cursor, in any state.
* `RunningText.Pass.getsOn`: the passes.
* `RunningText.reading_terminates`: all of them, and that they end.
-/

namespace SymbolTrace.Mangling

open Text

/-! ### Readers -/

/-- What is left is the end of the text, and shorter by a byte at least. -/
structure LeavesLess (text rest : List Char) : Prop where
  suffix : rest <:+ text
  lt : byteCount rest < byteCount text

/-- Taking something away leaves less. -/
theorem leavesLess_append {taken : List Char} (htaken : taken ≠ []) (rest : List Char) :
    LeavesLess (taken ++ rest) rest where
  suffix := List.suffix_append taken rest
  lt := by
    have hlength := List.length_pos_iff.2 htaken
    have hbytes := length_le_byteCount taken
    rw [byteCount_append]
    omega

section

variable [Allocator]

/-- Readers of single things leave less than they are given, and readers of lists take the
terminator as well. -/
structure ReadersGetOn (limit : Option Nat) : Prop where
  number : ∀ text value rest, answer (readNumber text) = .ok (value, rest) → LeavesLess text rest
  name : ∀ text name rest, answer (readName text) = .ok (name, rest) → LeavesLess text rest
  type : ∀ depth text type rest, answer (TypeExpr.read limit depth text) = .ok (type, rest) →
    LeavesLess text rest
  argument : ∀ text argument rest, answer (Argument.read limit text) = .ok (argument, rest) →
    LeavesLess text rest
  types : ∀ depth terminator text types rest,
    answer (TypeExpr.readUntil limit depth terminator text) = .ok (types, rest) →
      ∃ items, text = items ++ terminator :: rest
  arguments : ∀ text arguments rest,
    answer (Argument.readAll limit text) = .ok (arguments, rest) →
      ∃ items, text = items ++ '_' :: rest

/-- The readers get on, each by what it spells. -/
theorem readers_get_on (limit : Option Nat) : ReadersGetOn limit where
  number text value rest h := by
    obtain ⟨digits, rfl, hdigits⟩ := answer_readNumber_eq_ok_iff.1 h
    exact leavesLess_append hdigits.ne_nil rest
  name text name rest h := by
    obtain ⟨w, rfl, hw⟩ := answer_readName_eq_ok_iff.1 h
    obtain ⟨c, cs, rfl, -⟩ := hw.exists_cons
    exact leavesLess_append (List.cons_ne_nil c cs) rest
  type depth text type rest h := by
    obtain ⟨w, rfl, hw, -⟩ := answer_readType_eq_ok_iff.1 h
    obtain ⟨c, cs, rfl, -⟩ := hw.exists_cons
    exact leavesLess_append (List.cons_ne_nil c cs) rest
  argument text argument rest h := by
    obtain ⟨w, rfl, hw, -⟩ := answer_readArgument_eq_ok_iff.1 h
    obtain ⟨c, cs, rfl, -⟩ := hw.exists_cons
    exact leavesLess_append (List.cons_ne_nil c cs) rest
  types depth terminator text types rest h := by
    obtain ⟨w, htext, -⟩ := (spelled_of_readType limit).2.2 depth terminator text h
    exact ⟨w, htext⟩
  arguments text arguments rest h := by
    obtain ⟨w, htext, -⟩ := answer_readArguments_eq_ok_iff.1 h
    exact ⟨w, htext⟩

/-! ### The cursor -/

namespace Cursor

/-- What a call of a reader does to the cursor, wherever the cursor stands. -/
structure GetsOn (limit : Option Nat) (input : List Char) : Prop where
  /-- A number fails where the cursor stands, or the cursor goes on behind it. -/
  number : ∀ (state next : State) (f : Nat → State → State),
    state.readNumber input f = .next next →
      next = state.fail .malformedInteger ∨
        ∃ value position, state.position < position ∧ position ≤ byteCount input ∧
          next = f value (state.moveTo position)
  /-- A name, a type or an argument moves the cursor inside the text. -/
  reader : ∀ task ∈ [Task.name, .type, .argument], ∀ state final,
    Returns limit input task state final →
      state.position < final.position ∧ final.position ≤ byteCount input
  /-- So does a list, and the last byte taken is its terminator. -/
  list : ∀ (listing : Listing) (read : List String) (state final : State),
    Returns limit input (.items listing read) state final →
      state.position < final.position ∧ final.position ≤ byteCount input ∧
        sees input (final.position - 1) listing.terminator = true
  /-- Calls return what the readers answer. -/
  returns : ∀ (state : State) (unread rest : List Char) (type : TypeExpr),
    suffixAt? state.position input = some unread → state.fault = none →
      answer (TypeExpr.read limit state.depth unread) = .ok (type, rest) →
        ∃ final, Returns limit input .type state final ∧
          suffixAt? final.position input = some rest ∧ final.output = state.output ++ type.text
  /-- In each step there is less to read, or as much to read and less to do. -/
  step : ∀ state next, Cursor.step limit input state = .next next →
    MeasureLt (next.measure input) (state.measure input)
  /-- The loop of a list comes to an end, whatever stands between its items. -/
  loop : ∀ (listing : Listing) (read : List String) (state : State),
    (suffixAt? state.position input).isSome = true → (∀ bound ∈ limit, state.depth ≤ bound) →
      state.fault = none → ∃ final, Reaches limit input (state.call (.items listing read)) final ∧
        final.tasks = [] ∧ Cursor.step limit input final = .done final.result

/-- The cursor gets on, whatever state it is in. -/
theorem getsOn (limit : Option Nat) (input : List Char) : GetsOn limit input where
  number _ _ _ := readNumber_cases
  reader task htask state final h := by
    have hconsumes : task.consumes = true := by
      simp only [List.mem_cons, List.not_mem_nil, or_false] at htask
      rcases htask with rfl | rfl | rfl <;> rfl
    exact h.position_lt hconsumes
  list listing read state final h := by
    obtain ⟨hlt, hle⟩ := h.position_lt rfl
    exact ⟨hlt, hle, h.sees_terminator⟩
  returns state unread rest type hunread hfault hread := by
    have hcarries := carries_type limit input state.depth unread
    rw [hread, Answer.shown_ok] at hcarries
    exact hcarries.returns hunread hfault
  step _ _ := measure_lt_of_step
  loop listing read state hboundary hwithin hfault :=
    (sound_call hboundary hwithin hfault rfl).exists_final

end Cursor

end

end SymbolTrace.Mangling

namespace SymbolTrace.RunningText

open Mangling Text

section

variable [Allocator]

/-! ### Passes -/

namespace Pass

/-- A word ends inside the text. -/
theorem searched_le_of_take? {text : List Char} {pass next : Pass} {wordStart : Nat}
    (h : pass.take? text wordStart = some next) : next.searched ≤ byteCount text := by
  obtain ⟨body, hbody, h⟩ := Option.bind_eq_some_iff.1 h
  by_cases hsize : (body.takeWhile inWord).length = 0
  · rw [if_pos hsize] at h
    cases h
    exact le_byteCount_of_suffixAt? hbody
  · rw [if_neg hsize] at h
    obtain ⟨word, hword, h⟩ := Option.bind_eq_some_iff.1 h
    have hend := le_byteCount_of_slice? hword
    split at h
    · obtain ⟨between, -, h⟩ := Option.bind_eq_some_iff.1 h
      cases h
      exact hend
    · cases h
      exact hend

/-- What a round does to what is searched, whatever the pass was before. -/
structure GetsOn (text : List Char) : Prop where
  round : ∀ pass next : Pass, pass.next? text = some (some next) →
    pass.searched < next.searched ∧ next.searched ≤ byteCount text
  /-- After some rounds there is no further one. -/
  ends : ∀ pass, ∃ last, Reaches text pass last ∧ ∀ next, last.next? text ≠ some (some next)

/-- No pass goes on for ever. -/
theorem wellFounded_next? (text : List Char) :
    WellFounded fun next pass : Pass => pass.next? text = some (some next) :=
  Subrelation.wf unsearched_lt
    (InvImage.wf (fun pass : Pass => byteCount text - pass.searched) Nat.lt_wfRel.wf)

/-- Passes get on, whatever they were before. -/
theorem getsOn (text : List Char) : GetsOn text where
  round pass next h := by
    have hunsearched := unsearched_lt h
    obtain ⟨unread, -, htake⟩ := Option.bind_eq_some_iff.1 h
    refine ⟨by omega, ?_⟩
    split at htake
    · cases htake
    · obtain ⟨next, htake, hnext⟩ := Option.map_eq_some_iff.1 htake
      cases hnext
      exact searched_le_of_take? htake
  ends pass := exists_last (wellFounded_next? text) pass

end Pass

/-- **Reading ends on every text, because every reader gets on.** The readers leave less than they
are given. Wherever the cursor stands when one of them is called, it is further on when the reader
succeeds, and not past the end; a list has then taken its terminator. So no run of the decoder goes
on for ever, nor does any loop over a list, and the decoder comes to what is reported. Each round
of a pass over the text searches more of it, so there is a last round. -/
theorem reading_terminates (limit : Option Nat) (text : List Char) :
    ReadersGetOn limit ∧ Cursor.GetsOn limit text ∧
    (WellFounded fun next state => Cursor.step limit text state = .next next) ∧
    (∀ symbol, afterSentinel? symbol.toList = some text →
      Cursor.Ends (some maxNesting) text .start (demangled symbol)) ∧
    Pass.GetsOn text ∧
    WellFounded fun next pass : Pass => pass.next? text = some (some next) := by
  refine ⟨readers_get_on limit, Cursor.getsOn limit text, Cursor.wellFounded_step limit text, ?_,
    Pass.getsOn text, Pass.wellFounded_next? text⟩
  intro symbol hsymbol
  rw [demangled_eq_demangledWithin]
  exact Cursor.ends_demangledWithin (some maxNesting) hsymbol

end

attribute [local instance] Allocator.unlimited in
-- empty names in a list, first without and then with its terminator
example : demangled "_WTt0sv0" = .error .truncated ∧
    demangled "_WTt0sv0T" = .ok ⟨.type, "(, Void, )", false⟩ := by
  constructor <;> cbv

end SymbolTrace.RunningText
