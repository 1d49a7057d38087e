import SymbolTrace.Proofs.StackTrace.Paths

/-!
# Sinks with a limit

A sink takes what it is offered up to the first fragment that it has no room for. That fragment
ends the writing: one after it might be short enough, but would stand in the wrong place. So what a
sink holds afterwards is always the front of the text, and all of the text exactly if there is room
for all of it.

A trace that is written in one piece is taken entirely or not at all.

## Main results

* `Sink.Offered`, `Sink.offered_writeAll`: how far a sink gets through fragments.
* `Sink.accepted_writeAll_iff`: when it gets through all of them.
* `Renderer.write_limited`: traces.
-/

namespace SymbolTrace

namespace Sink

/-- The sink after it took fragments. -/
def holding (sink : Sink) (fragments : List String) : Sink :=
  { sink with written := sink.written ++ String.join fragments }

/-- A sink holds what it held. -/
theorem holding_nil (sink : Sink) : sink.holding [] = sink := by
  rw [holding, String.join_nil, String.append_empty]

/-- A sink takes fragments one after the other. -/
theorem holding_append (sink : Sink) (front back : List String) :
    sink.holding (front ++ back) = (sink.holding front).holding back := by
  simp only [holding, String.join_append, String.append_assoc]

/-- The sink has room for each of the fragments once it took those in front of it. -/
def HasRoomForEach (sink : Sink) (fragments : List String) : Prop :=
  ∀ front fragment back, fragments = front ++ fragment :: back →
    (sink.holding front).hasRoom fragment = true

/-- How far a sink gets through fragments, and what it holds then. -/
inductive Offered (sink : Sink) : List String → Outcome → Prop
  /-- There was room for all of them. -/
  | complete {fragments : List String} (room : sink.HasRoomForEach fragments) :
      Offered sink fragments ⟨true, sink.holding fragments⟩
  /-- One of them was refused, and none of those behind it was offered. -/
  | cut {taken later : List String} {refused : String} (room : sink.HasRoomForEach taken)
      (full : (sink.holding taken).hasRoom refused = false) :
      Offered sink (taken ++ refused :: later) ⟨false, sink.holding taken⟩

variable {sink : Sink} {fragment : String} {fragments : List String}

/-- There is room for no fragments. -/
theorem hasRoomForEach_nil : sink.HasRoomForEach [] := by
  intro front fragment back h
  exact absurd h.symm (List.append_ne_nil_of_right_ne_nil front (List.cons_ne_nil fragment back))

/-- There is room for one more fragment in front if there is room for it and then for the others. -/
theorem HasRoomForEach.cons (h : sink.hasRoom fragment = true)
    (hrest : (sink.holding [fragment]).HasRoomForEach fragments) :
    sink.HasRoomForEach (fragment :: fragments) := by
  intro front part back heq
  cases front with
  | nil =>
      obtain ⟨rfl, rfl⟩ := List.cons.inj heq
      rwa [holding_nil]
  | cons first front =>
      obtain ⟨rfl, hfragments⟩ := List.cons.inj heq
      rw [← List.singleton_append, holding_append]
      exact hrest front part back hfragments

/-- A fragment that is taken leaves the others to be offered. -/
theorem Offered.cons {outcome : Outcome} (h : sink.hasRoom fragment = true)
    (hrest : (sink.holding [fragment]).Offered fragments outcome) :
    sink.Offered (fragment :: fragments) outcome := by
  cases hrest with
  | complete room =>
      rw [← holding_append]
      exact .complete (room.cons h)
  | @cut taken later refused room full =>
      rw [← holding_append] at full ⊢
      exact .cut (room.cons h) full

/-- **Writing stops at the first fragment that is refused.** -/
theorem offered_writeAll (sink : Sink) (fragments : List String) :
    sink.Offered fragments (sink.writeAll fragments) := by
  induction fragments generalizing sink with
  | nil =>
      have hcomplete : sink.Offered [] ⟨true, sink.holding []⟩ := .complete hasRoomForEach_nil
      rwa [holding_nil] at hcomplete
  | cons fragment rest ih =>
      rw [writeAll, write]
      cases hroom : sink.hasRoom fragment with
      | true =>
          have htaken : { sink with written := sink.written ++ fragment } =
              sink.holding [fragment] := by
            rw [holding, String.join_cons, String.join_nil, String.append_empty]
          simp only [if_true, htaken]
          exact (ih (sink.holding [fragment])).cons hroom
      | false =>
          have hfull : (sink.holding []).hasRoom fragment = false := by rwa [holding_nil]
          have hcut : sink.Offered ([] ++ fragment :: rest) ⟨false, sink.holding []⟩ :=
            .cut hasRoomForEach_nil hfull
          rwa [holding_nil] at hcut

/-- A later fragment that there is room for is not taken. -/
example : writeAll ⟨some 3, true, ""⟩ ["ab", "cd", "e"] = ⟨false, ⟨some 3, true, "ab"⟩⟩ := by
  decide

/-- What a sink holds is the front of what it was to hold. -/
theorem Offered.exists_append {outcome : Outcome} (h : sink.Offered fragments outcome) :
    ∃ unwritten, sink.written ++ String.join fragments = outcome.sink.written ++ unwritten := by
  cases h with
  | complete room => exact ⟨"", (String.append_empty).symm⟩
  | @cut taken later refused room full =>
      refine ⟨String.join (refused :: later), ?_⟩
      rw [holding, String.join_append, String.append_assoc]

section

variable {limit : Nat} {flushes : Bool} {before : String}

/-- A fragment is taken if the limit is not passed with all that came before it. -/
theorem hasRoom_holding_iff :
    (holding ⟨some limit, flushes, before⟩ fragments).hasRoom fragment = true ↔
      before.utf8ByteSize + (String.join fragments).utf8ByteSize + fragment.utf8ByteSize ≤
        limit := by
  simp [hasRoom, holding, String.utf8ByteSize_append]

/-- A sink gets through fragments exactly if there is room for their text. -/
theorem accepted_writeAll_iff (hne : fragments ≠ []) :
    (writeAll ⟨some limit, flushes, before⟩ fragments).accepted = true ↔
      before.utf8ByteSize + (String.join fragments).utf8ByteSize ≤ limit := by
  have hoffered := offered_writeAll ⟨some limit, flushes, before⟩ fragments
  generalize writeAll ⟨some limit, flushes, before⟩ fragments = outcome at hoffered
  cases hoffered with
  | complete room =>
      -- The last fragment had room behind all the others.
      have hlast := room fragments.dropLast (fragments.getLast hne) []
        (List.dropLast_append_getLast hne).symm
      rw [hasRoom_holding_iff] at hlast
      have hjoin : (String.join fragments).utf8ByteSize =
          (String.join fragments.dropLast).utf8ByteSize +
            (fragments.getLast hne).utf8ByteSize := by
        conv_lhs => rw [← List.dropLast_append_getLast hne]
        rw [String.join_append, String.utf8ByteSize_append, String.join_cons, String.join_nil,
          String.append_empty]
      simp only [true_iff]
      omega
  | @cut taken later refused room full =>
      rw [← Bool.not_eq_true, hasRoom_holding_iff] at full
      rw [String.join_append, String.join_cons, String.utf8ByteSize_append,
        String.utf8ByteSize_append]
      simp only [Bool.false_eq_true, false_iff]
      omega

end

end Sink

namespace Renderer

variable [Mangling.Allocator]

/-- A text that goes out in one piece is taken entirely or not at all. -/
theorem writeUnwound_limited (renderer : Renderer) (unwinder : Unwinder) (limit : Nat)
    (flushes : Bool) (before : String) :
    let sink : Sink := ⟨some limit, flushes, before⟩
    let text := renderer.report (renderer.unwound unwinder)
    renderer.writeUnwound unwinder sink =
      if limit < before.utf8ByteSize + text.utf8ByteSize then (sink, some .refused)
      else ({ sink with written := before ++ text },
        if flushes then none else some .flushFailed) := by
  intro sink text
  have hroom : sink.hasRoom text = true ↔ ¬ limit < before.utf8ByteSize + text.utf8ByteSize := by
    simp [Sink.hasRoom, sink]
  rw [writeUnwound, Sink.write]
  by_cases hlarge : limit < before.utf8ByteSize + text.utf8ByteSize
  · rw [if_neg (mt hroom.1 (not_not.2 hlarge)), if_pos hlarge]
    rfl
  · rw [if_pos (hroom.2 hlarge), if_neg hlarge]
    cases flushes <;> rfl

/-- **Traces and sinks with a limit.** For every renderer, every list of addresses, and every sink
with a limit, whatever it held before:

* The text of a trace is that of its fragments. A sink that they are written to takes them up to the
  first one that it has no room for, and none after that one.
* The writing fails exactly if the text does not fit, and the sink then holds the front of it.
* A trace of the running thread is written in one piece. If its text does not fit, the sink holds
  what it held before; else it holds all of the text, and it does so too if the flush fails. -/
theorem write_limited (renderer : Renderer) (addresses : List Address) (limit : Nat)
    (flushes : Bool) (before : String) :
    let sink : Sink := ⟨some limit, flushes, before⟩
    let fragments := traceFragments (renderer.framesByPosition addresses)
    let text := renderer.report addresses
    let outcome := renderer.write addresses sink
    String.join fragments = text ∧
    sink.Offered fragments outcome ∧
    (outcome.accepted = false ↔ limit < before.utf8ByteSize + text.utf8ByteSize) ∧
    (∃ unwritten, before ++ text = outcome.sink.written ++ unwritten) ∧
    ∀ unwinder : Unwinder,
      let text := renderer.report (renderer.unwound unwinder)
      renderer.writeUnwound unwinder sink =
        if limit < before.utf8ByteSize + text.utf8ByteSize then (sink, some .refused)
        else ({ sink with written := before ++ text },
          if flushes then none else some .flushFailed) := by
  intro sink fragments text outcome
  have hjoin : String.join fragments = text := by
    rw [join_traceFragments, ← report_eq_traceText]
  have houtcome : outcome = sink.writeAll fragments := write_eq_writeAll sink
  have hoffered : sink.Offered fragments outcome :=
    houtcome ▸ Sink.offered_writeAll sink fragments
  refine ⟨hjoin, hoffered, ?_, ?_, fun unwinder =>
    writeUnwound_limited renderer unwinder limit flushes before⟩
  · rw [houtcome, ← Bool.not_eq_true, ← Nat.not_le, ← hjoin]
    exact not_congr (Sink.accepted_writeAll_iff (List.cons_ne_nil _ _))
  · rw [← hjoin]
    exact hoffered.exists_append

end Renderer

end SymbolTrace
