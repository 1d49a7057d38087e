import Mathlib.Data.List.Basic
import SymbolTrace.StackTrace

/-!
# The ways to a trace agree

Four functions make a trace: `frames` collects frames, `write` writes lines fragment by fragment,
`unwoundFrames` and `writeUnwound` do the same for what an unwinder left in its buffer. All of them
are described here by one list, `framesByPosition`, which says at which positions of the given
addresses there is a frame.

## Main results

* `frames_eq_framesByPosition`: the collected frames; their positions only grow
  (`pairwise_index_frames`), and a position is missing only for want of a name.
* `write_eq_writeAll`: the fragments that are written.
* `write_unlimited`: the written text, for a sink that has room for everything.
* `unwound_of_handsOut`: what is left of the buffer.
* `trace_paths_agree`: all of it together, for every renderer and every list of addresses.
-/

namespace SymbolTrace

/-- The unwinder finds these addresses on the stack: it fills in the first of them, as many as
there are slots. -/
def Unwinder.HandsOut (unwinder : Unwinder) (addresses : List Address) : Prop :=
  ∀ slots, (unwinder.unwind slots).1.take (unwinder.unwind slots).2 = addresses.take slots.length

/-- The unwinder of a list hands out the list. -/
theorem Unwinder.ofList_handsOut (addresses : List Address) :
    (ofList addresses).HandsOut addresses := by
  intro slots
  have hlength : (addresses.take slots.length).length = min addresses.length slots.length := by
    rw [List.length_take, Nat.min_comm]
  simp only [ofList, ← hlength, List.take_left]

/-! ### Sinks with room for everything -/

namespace Sink

/-- A sink without a limit takes all fragments. -/
theorem writeAll_unlimited (flushes : Bool) (before : String) (fragments : List String) :
    writeAll ⟨none, flushes, before⟩ fragments =
      ⟨true, ⟨none, flushes, before ++ String.join fragments⟩⟩ := by
  induction fragments generalizing before with
  | nil => simp [writeAll]
  | cons fragment rest ih => simp [writeAll, write, hasRoom, ih, String.append_assoc]

/-- Fragments go out in two parts, the second only after all of the first. -/
theorem writeAll_append (sink : Sink) (front back : List String) :
    sink.writeAll (front ++ back) =
      if (sink.writeAll front).accepted then (sink.writeAll front).sink.writeAll back
      else sink.writeAll front := by
  induction front generalizing sink with
  | nil => rfl
  | cons fragment rest ih =>
      rw [List.cons_append, writeAll, writeAll]
      cases h : (sink.write fragment).accepted with
      | true => simp only [if_true, ih]
      | false => simp [h]

end Sink

namespace Renderer

/-! ### Texts of traces -/

/-- The title and one line for each frame. -/
def traceText (frames : List Frame) : String :=
  traceTitle ++ lineBreak ++ String.join (frames.map fun frame => frame.line ++ lineBreak)

/-- The fragments that the lines of frames are written in. -/
def lineFragments (frames : List Frame) : List String :=
  frames.flatMap fun frame => frame.fragments ++ [lineBreak]

/-- The fragments that a trace is written in. -/
def traceFragments (frames : List Frame) : List String :=
  [traceTitle, lineBreak] ++ lineFragments frames

/-- The lines of frames are written one after the other. -/
theorem lineFragments_cons (frame : Frame) (frames : List Frame) :
    lineFragments (frame :: frames) =
      (frame.fragments ++ [lineBreak]) ++ lineFragments frames := rfl

/-- The fragments of lines come to the lines. -/
theorem join_lineFragments (frames : List Frame) :
    String.join (lineFragments frames) =
      String.join (frames.map fun frame => frame.line ++ lineBreak) := by
  induction frames with
  | nil => rfl
  | cons frame frames ih =>
      rw [lineFragments_cons, String.join_append, ih, String.join_append, List.map_cons,
        String.join_cons, Frame.line, String.join_cons, String.join_nil, String.append_empty]

/-- The fragments of a trace come to its text. -/
theorem join_traceFragments (frames : List Frame) :
    String.join (traceFragments frames) = traceText frames := by
  rw [traceFragments, String.join_append, join_lineFragments, traceText]
  rfl

section

variable [Mangling.Allocator] (renderer : Renderer) (addresses : List Address)

/-! ### Frames and their positions -/

/-- The frames that exist at the positions within the list and the renderer's depth, in order. -/
def framesByPosition : List Frame :=
  (List.range (min addresses.length renderer.maxDepth)).filterMap fun index =>
    addresses[index]?.bind (renderer.frame? index)

/-- The frames of addresses that are counted from some position on. -/
def framesFrom (start : Nat) : List Frame :=
  (addresses.zipIdx start).filterMap fun (address, index) => renderer.frame? index address

/-- The frames of a trace are those of its addresses from the first position on. -/
theorem frames_eq_framesFrom :
    renderer.frames addresses = renderer.framesFrom (addresses.take renderer.maxDepth) 0 := rfl

/-- An address gives one frame or none, and its position is used up either way. -/
theorem framesFrom_cons (address : Address) (rest : List Address) (start : Nat) :
    renderer.framesFrom (address :: rest) start =
      (renderer.frame? start address).toList ++ renderer.framesFrom rest (start + 1) := by
  cases h : renderer.frame? start address <;> simp [framesFrom, List.zipIdx_cons, h]

/-- Frames are told by their positions, not by how many came before. -/
theorem framesFrom_eq (start : Nat) :
    renderer.framesFrom addresses start =
      (List.range' start addresses.length).filterMap fun index =>
        addresses[index - start]?.bind (renderer.frame? index) := by
  induction addresses generalizing start with
  | nil => rfl
  | cons address rest ih =>
      have htail : (List.range' (start + 1) rest.length).filterMap
            (fun index => rest[index - (start + 1)]?.bind (renderer.frame? index)) =
          (List.range' (start + 1) rest.length).filterMap
            (fun index => (address :: rest)[index - start]?.bind (renderer.frame? index)) := by
        apply List.filterMap_congr
        intro index hindex
        have hle := (List.mem_range'_1.1 hindex).1
        rw [show index - start = index - (start + 1) + 1 by omega, List.getElem?_cons_succ]
      rw [framesFrom_cons, List.length_cons, List.range'_succ, List.filterMap_cons, ih (start + 1),
        htail, Nat.sub_self]
      simp only [List.getElem?_cons_zero, Option.bind_some]
      cases renderer.frame? start address <;> rfl

/-- So are the frames of a trace. -/
theorem frames_eq_framesByPosition :
    renderer.frames addresses = renderer.framesByPosition addresses := by
  rw [frames_eq_framesFrom, framesFrom_eq, framesByPosition, ← List.range_eq_range',
    List.length_take, Nat.min_comm]
  apply List.filterMap_congr
  intro index hindex
  have hlt := List.mem_range.1 hindex
  rw [Nat.sub_zero, List.getElem?_take_of_lt (by omega)]

variable {renderer addresses}

/-- A frame is that of the address at its own position. -/
theorem mem_framesByPosition {frame : Frame} :
    frame ∈ renderer.framesByPosition addresses ↔
      ∃ address, addresses[frame.index]? = some address ∧ frame.index < renderer.maxDepth ∧
        renderer.frame? frame.index address = some frame := by
  simp only [framesByPosition, List.mem_filterMap, List.mem_range, Option.bind_eq_some_iff]
  constructor
  · rintro ⟨index, hindex, address, haddress, hframe⟩
    obtain rfl := index_of_frame?_eq_some hframe
    exact ⟨address, haddress, by omega, hframe⟩
  · rintro ⟨address, haddress, hdepth, hframe⟩
    obtain ⟨hlength, -⟩ := List.getElem?_eq_some_iff.1 haddress
    exact ⟨frame.index, by omega, address, haddress, hframe⟩

/-- The positions of the frames are those, in order, whose addresses have one. -/
theorem map_index_framesByPosition :
    (renderer.framesByPosition addresses).map Frame.index =
      (List.range (min addresses.length renderer.maxDepth)).filter fun index =>
        (addresses[index]?.bind (renderer.frame? index)).isSome := by
  rw [framesByPosition, List.map_filterMap, ← List.filterMap_eq_filter]
  apply List.filterMap_congr
  intro index _
  cases hframe : addresses[index]?.bind (renderer.frame? index) with
  | none => simp [Option.guard, hframe]
  | some frame =>
      obtain ⟨_, -, hsome⟩ := Option.bind_eq_some_iff.1 hframe
      simp [Option.guard, hframe, index_of_frame?_eq_some hsome]

/-- Positions increase along a trace. -/
theorem pairwise_index_framesByPosition :
    ((renderer.framesByPosition addresses).map Frame.index).Pairwise (· < ·) := by
  rw [map_index_framesByPosition]
  exact List.pairwise_lt_range.filter _

/-- Within the depth, a position without a frame is one whose address has no named site. -/
theorem forall_index_ne_iff {index : Nat} {address : Address}
    (haddress : addresses[index]? = some address) (hdepth : index < renderer.maxDepth) :
    (∀ frame ∈ renderer.framesByPosition addresses, frame.index ≠ index) ↔
      renderer.resolve address = none ∨
        ∃ site, renderer.resolve address = some site ∧
          (site.modulePath.text = "" ∨ site.name.text = "") := by
  have hunnamed : renderer.frame? index address = none ↔ _ := frame?_eq_none_iff
  rw [← hunnamed]
  constructor
  · intro hmissing
    cases hframe : renderer.frame? index address with
    | none => rfl
    | some frame =>
        obtain rfl := index_of_frame?_eq_some hframe
        exact absurd rfl (hmissing frame (mem_framesByPosition.2 ⟨address, haddress, hdepth, hframe⟩))
  · rintro hnone frame hframe rfl
    obtain ⟨other, hother, _, hsome⟩ := mem_framesByPosition.1 hframe
    rw [haddress, Option.some.injEq] at hother
    rw [← hother, hnone] at hsome
    cases hsome

/-! ### The written text -/

/-- Writing frames one by one is writing the fragments of all of them. -/
theorem writeFrames_eq_writeAll (start : Nat) (sink : Sink) :
    renderer.writeFrames start addresses sink =
      sink.writeAll (lineFragments (renderer.framesFrom addresses start)) := by
  induction addresses generalizing start sink with
  | nil => rfl
  | cons address rest ih =>
      rw [writeFrames, framesFrom_cons]
      cases renderer.frame? start address with
      | none => exact ih (start + 1) sink
      | some frame =>
          dsimp only
          rw [Option.toList_some, List.singleton_append, lineFragments_cons,
            Sink.writeAll_append sink (frame.fragments ++ [lineBreak]), ih]

/-- A trace is written fragment by fragment, up to the first that the sink refuses. -/
theorem write_eq_writeAll (sink : Sink) :
    renderer.write addresses sink =
      sink.writeAll (traceFragments (renderer.framesByPosition addresses)) := by
  rw [write, traceFragments, Sink.writeAll_append, writeFrames_eq_writeAll,
    ← frames_eq_framesFrom, frames_eq_framesByPosition]

/-- A sink without a limit takes the whole text. -/
theorem write_unlimited (flushes : Bool) (before : String) :
    renderer.write addresses ⟨none, flushes, before⟩ =
      ⟨true, ⟨none, flushes, before ++ traceText (renderer.framesByPosition addresses)⟩⟩ := by
  rw [write_eq_writeAll, Sink.writeAll_unlimited, join_traceFragments]

/-- The report is the text of a trace. -/
theorem report_eq_traceText :
    renderer.report addresses = traceText (renderer.framesByPosition addresses) := by
  rw [report, Sink.unlimited, write_unlimited, String.empty_append]

/-! ### What an unwinder leaves -/

omit [Mangling.Allocator] in
/-- Slots past the depth do not count: no unwinder fills more than it was given. -/
theorem unwound_eq_take (unwinder : Unwinder) :
    let slots := List.replicate (min renderer.maxDepth maxUnwindDepth) Address.zero
    renderer.unwound unwinder = (unwinder.unwind slots).1.take (unwinder.unwind slots).2 := by
  intro slots
  have hslots : (List.replicate maxUnwindDepth Address.zero).take
      (min renderer.maxDepth maxUnwindDepth) = slots := by
    rw [List.take_replicate, Nat.min_assoc, Nat.min_self]
  have hcount := unwinder.count_unwind_le slots
  rw [← unwinder.length_unwind] at hcount
  simp only [unwound, hslots, List.take_append_of_le_length hcount]

omit [Mangling.Allocator] in
/-- Of the addresses that are handed out as many are kept as there are slots. -/
theorem unwound_of_handsOut {unwinder : Unwinder} (hands : unwinder.HandsOut addresses) :
    renderer.unwound unwinder = addresses.take (min renderer.maxDepth maxUnwindDepth) := by
  rw [unwound_eq_take, hands, List.length_replicate]

/-! ### All ways together -/

/-- Resolvers that differ in what they lend give the same frames. -/
theorem frame?_eq_of_owning_eq {other : Resolver} (same : other.owning = renderer.resolve.owning)
    (index : Nat) (address : Address) :
    { renderer with resolve := other }.frame? index address = renderer.frame? index address := by
  rw [← frame?_owning { renderer with resolve := other }, ← frame?_owning renderer]
  exact congrArg (fun resolve => { renderer with resolve }.frame? index address) same

/-- Without a limit only the flush can fail, and then all of the text is written. -/
theorem writeUnwound_unlimited (unwinder : Unwinder) (flushes : Bool) (before : String) :
    renderer.writeUnwound unwinder ⟨none, flushes, before⟩ =
      (⟨none, flushes, before ++ renderer.report (renderer.unwound unwinder)⟩,
        if flushes then none else some .flushFailed) := by
  cases flushes <;> rfl

/-- For every renderer and every list of addresses:

* the collected frames are those that exist at the positions within the list and the depth, their
  positions only grow, and a position is missing exactly when the resolver has no site for its
  address or one without a path or a name;
* a sink with room for everything takes the title and one line for each of these frames;
* an unwinder that finds the addresses on the stack yields the frames, and writes the text, of the
  first of them that the depth and the buffer allow;
* a resolver that gives the same answers, whether it lends its texts or not, makes the same frames.
-/
theorem trace_paths_agree (renderer : Renderer) (addresses : List Address) :
    renderer.frames addresses = renderer.framesByPosition addresses ∧
    ((renderer.frames addresses).map Frame.index).Pairwise (· < ·) ∧
    (∀ frame ∈ renderer.frames addresses, ∃ address, addresses[frame.index]? = some address ∧
      renderer.frame? frame.index address = some frame) ∧
    (∀ index address, addresses[index]? = some address → index < renderer.maxDepth →
      ((∀ frame ∈ renderer.frames addresses, frame.index ≠ index) ↔
        renderer.resolve address = none ∨
          ∃ site, renderer.resolve address = some site ∧
            (site.modulePath.text = "" ∨ site.name.text = ""))) ∧
    (∀ flushes before, renderer.write addresses ⟨none, flushes, before⟩ =
      ⟨true, ⟨none, flushes, before ++ "Current stack trace:\n" ++
        String.join ((renderer.framesByPosition addresses).map fun frame =>
          frame.line ++ "\n")⟩⟩) ∧
    (∀ unwinder : Unwinder, unwinder.HandsOut addresses →
      let fitting := addresses.take (min addresses.length (min renderer.maxDepth 256))
      renderer.unwoundFrames unwinder = renderer.frames fitting ∧
        ∀ flushes before, renderer.writeUnwound unwinder ⟨none, flushes, before⟩ =
          ((renderer.write fitting ⟨none, flushes, before⟩).sink,
            if flushes then none else some .flushFailed)) ∧
    (∀ other : Resolver, other.owning = renderer.resolve.owning → ∀ index address,
      { renderer with resolve := other }.frame? index address = renderer.frame? index address) := by
  rw [frames_eq_framesByPosition]
  refine ⟨rfl, pairwise_index_framesByPosition, ?frames, ?missing, ?written, ?unwound, ?owned⟩
  case frames =>
    intro frame hframe
    obtain ⟨address, haddress, -, hsome⟩ := mem_framesByPosition.1 hframe
    exact ⟨address, haddress, hsome⟩
  case missing => exact fun index address => forall_index_ne_iff
  case written =>
    intro flushes before
    rw [write_unlimited, traceText, ← String.append_assoc]
    rfl
  case unwound =>
    intro unwinder hands fitting
    have hfitting : renderer.unwound unwinder = fitting := by
      rw [unwound_of_handsOut hands, List.take_eq_take_min, Nat.min_comm]
      rfl
    refine ⟨congrArg renderer.frames hfitting, ?_⟩
    intro flushes before
    rw [writeUnwound_unlimited, hfitting, write_unlimited, report_eq_traceText]
  case owned => exact fun other same => frame?_eq_of_owning_eq same

end

attribute [local instance] Mangling.Allocator.unlimited

/-- Of three addresses on a stack the second has no site, and the third is beyond the depth. -/
theorem trace_paths_agree_gap :
    let renderer : Renderer := {
      resolve := fun address =>
        if address = ⟨2⟩ then none else some ⟨.lent "/bin/app", .lent "start", ⟨1⟩⟩
      secondary := fun _ => none
      maxDepth := 2 }
    let addresses : List Address := [⟨1⟩, ⟨2⟩, ⟨3⟩]
    renderer.unwoundFrames (Unwinder.ofList addresses) = renderer.frames [⟨1⟩, ⟨2⟩] ∧
      (∀ frame ∈ renderer.frames addresses, frame.index ≠ 1) ∧
      { renderer with resolve := renderer.resolve.owning }.frame? 0 ⟨1⟩ =
        renderer.frame? 0 ⟨1⟩ := by
  intro renderer addresses
  obtain ⟨-, -, -, missing, -, unwound, owned⟩ := trace_paths_agree renderer addresses
  exact ⟨(unwound _ (Unwinder.ofList_handsOut addresses)).1,
    (missing 1 ⟨2⟩ rfl (by decide)).2 (.inl rfl), owned _ (Resolver.owning_owning _) 0 ⟨1⟩⟩

end Renderer

end SymbolTrace
