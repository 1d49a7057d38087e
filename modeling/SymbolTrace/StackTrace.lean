import SymbolTrace.Frame
import SymbolTrace.HandedText
import SymbolTrace.Naming
import SymbolTrace.PathName
import SymbolTrace.Sink

/-!
# Stack traces

A trace turns return addresses into frames, newest first. Each address goes through a resolver; a
frame that the resolver cannot place, or whose module or symbol has no name, is left out, and the
others keep their positions so that the gaps stay visible. Names go through `shownName`.

Addresses may be given, or taken from the stack of the running thread by an unwinder, which fills
a buffer of `maxUnwindDepth` slots. Given addresses are cut to the renderer's depth alone, unwound
ones never exceed the buffer.

A resolver lends its texts where it keeps them anyway, and hands them over where it made them for
the answer. A frame says the same in both cases (`frame?_owning`).

## Main definitions

* `SymbolSite`, `Resolver`: what is known about an address.
* `Unwinder`: what fills the buffer.
* `Renderer.frame?`, `Renderer.frames`: the frames themselves.
* `Renderer.write`: the header and one line for each frame, written fragment by fragment.
* `Renderer.report`: the text that `write` gives a sink with room for everything.
* `Renderer.unwoundFrames`, `Renderer.writeUnwound`: the same for the addresses of an unwinder.
-/

namespace SymbolTrace

/-! ### Resolvers -/

/-- What a resolver knows about an address. -/
structure SymbolSite where
  /-- The path of the module that holds the address. -/
  modulePath : HandedText
  /-- The linkage name of the nearest symbol at or below the address. -/
  name : HandedText
  /-- Where that symbol starts. -/
  address : Address
deriving DecidableEq, Repr

/-- The same site with texts made for this answer. -/
def SymbolSite.own (site : SymbolSite) : SymbolSite :=
  { site with modulePath := site.modulePath.own, name := site.name.own }

/-- The symbol that an address belongs to, where one is known. -/
abbrev Resolver := Address → Option SymbolSite

/-- The resolver that gives the same answers and lends none of its texts. -/
def Resolver.owning (resolve : Resolver) : Resolver := fun address =>
  (resolve address).map SymbolSite.own

/-- Texts that were made for an answer are not made again. -/
theorem Resolver.owning_owning (resolve : Resolver) : resolve.owning.owning = resolve.owning := by
  funext address
  rw [owning, owning, Option.map_map]
  rfl

/-! ### Unwinders -/

/-- The most addresses taken from a stack for one trace. -/
def maxUnwindDepth : Nat := 256

/-- A source of return addresses. It fills slots from the front, newest first, says how many it
filled, and never writes past the last one. -/
structure Unwinder where
  unwind : List Address → List Address × Nat
  length_unwind : ∀ slots, (unwind slots).1.length = slots.length
  count_unwind_le : ∀ slots, (unwind slots).2 ≤ slots.length

namespace Unwinder

/-- The unwinder that fills in the first of a list of addresses. -/
def ofList (addresses : List Address) : Unwinder where
  unwind slots := (addresses.take slots.length ++ slots.drop addresses.length,
    min addresses.length slots.length)
  length_unwind slots := by
    rw [List.length_append, List.length_take, List.length_drop]
    omega
  count_unwind_le slots := Nat.min_le_right addresses.length slots.length

/-- The unwinder of a platform on which no stack can be walked. -/
def nothing : Unwinder := ofList []

end Unwinder

/-! ### Frames -/

/-- The first line of every trace. -/
def traceTitle : String := "Current stack trace:"

/-- How addresses become frames. -/
structure Renderer where
  resolve : Resolver
  secondary : SecondaryDemangler
  /-- Frames from this position on are ignored. -/
  maxDepth : Nat := maxUnwindDepth

namespace Renderer

variable [Mangling.Allocator]

/-- The frame of one address at a position of the trace. -/
def frame? (renderer : Renderer) (index : Nat) (address : Address) : Option Frame := do
  let symbol ← renderer.resolve address
  if symbol.modulePath.text = "" ∨ symbol.name.text = "" then none
  else some {
    index
    moduleName := symbol.modulePath.derive PathName.baseName
    symbolAddress := symbol.address
    name := symbol.name.derive (shownName renderer.secondary)
    offset := address.bytesAbove symbol.address }

/-- A frame is left out if the resolver knows nothing or leaves the module or the symbol without a
name. -/
theorem frame?_eq_none_iff {renderer : Renderer} {index : Nat} {address : Address} :
    renderer.frame? index address = none ↔
      renderer.resolve address = none ∨
        ∃ site, renderer.resolve address = some site ∧
          (site.modulePath.text = "" ∨ site.name.text = "") := by
  cases h : renderer.resolve address with
  | none => simp [frame?, h]
  | some site => simp [frame?, h, Decidable.or_iff_not_imp_left]

/-- A frame says what the resolver knows. -/
theorem eq_of_frame?_eq_some {renderer : Renderer} {index : Nat} {address : Address}
    {frame : Frame} (h : renderer.frame? index address = some frame) :
    ∃ site, renderer.resolve address = some site ∧ frame = {
      index
      moduleName := PathName.baseName site.modulePath.text
      symbolAddress := site.address
      name := shownName renderer.secondary site.name.text
      offset := address.bytesAbove site.address } := by
  simp only [frame?, Option.bind_eq_bind, Option.bind_eq_some_iff, Option.ite_none_left_eq_some,
    Option.some.injEq, HandedText.derive_eq] at h
  obtain ⟨site, hsite, _, rfl⟩ := h
  exact ⟨site, hsite, rfl⟩

/-- A frame bears the position it was made for. -/
theorem index_of_frame?_eq_some {renderer : Renderer} {index : Nat} {address : Address}
    {frame : Frame} (h : renderer.frame? index address = some frame) : frame.index = index := by
  obtain ⟨_, _, rfl⟩ := eq_of_frame?_eq_some h
  rfl

/-- Whether a resolver lends its texts or makes them for the answer cannot be seen in a frame. -/
theorem frame?_owning (renderer : Renderer) (index : Nat) (address : Address) :
    { renderer with resolve := renderer.resolve.owning }.frame? index address =
      renderer.frame? index address := by
  simp only [frame?, Resolver.owning, Option.bind_eq_bind, Option.bind_map, HandedText.derive_eq]
  rfl

/-- The frames of the addresses within the depth, with their positions. -/
def frames (renderer : Renderer) (addresses : List Address) : List Frame :=
  (addresses.take renderer.maxDepth).zipIdx.filterMap fun (address, index) =>
    renderer.frame? index address

/-! ### Writing -/

/-- The line break that ends each line. -/
def lineBreak : String := "\n"

/-- Write the line of each address that has a frame, counting positions from `index`. -/
def writeFrames (renderer : Renderer) (index : Nat) (addresses : List Address) (sink : Sink) :
    Sink.Outcome :=
  match addresses with
  | [] => ⟨true, sink⟩
  | address :: rest =>
      match renderer.frame? index address with
      | none => renderer.writeFrames (index + 1) rest sink
      | some frame =>
          let outcome := sink.writeAll (frame.fragments ++ [lineBreak])
          if outcome.accepted then renderer.writeFrames (index + 1) rest outcome.sink
          else outcome

/-- Write the header and one line for each frame, up to the first refusal. -/
def write (renderer : Renderer) (addresses : List Address) (sink : Sink) : Sink.Outcome :=
  let outcome := sink.writeAll [traceTitle, lineBreak]
  if outcome.accepted then
    renderer.writeFrames 0 (addresses.take renderer.maxDepth) outcome.sink
  else outcome

/-- The whole text of a trace. -/
def report (renderer : Renderer) (addresses : List Address) : String :=
  (renderer.write addresses Sink.unlimited).sink.written

/-! ### Unwinding -/

/-- The addresses of the running thread: the unwinder gets as many slots of the buffer as the
renderer's depth allows, and those it filled count. -/
def unwound (renderer : Renderer) (unwinder : Unwinder) : List Address :=
  let buffer := List.replicate maxUnwindDepth Address.zero
  let depth := min renderer.maxDepth maxUnwindDepth
  let (filled, count) := unwinder.unwind (buffer.take depth)
  (filled ++ buffer.drop depth).take count

/-- The frames of the running thread. -/
def unwoundFrames (renderer : Renderer) (unwinder : Unwinder) : List Frame :=
  renderer.frames (renderer.unwound unwinder)

/-- Why a trace did not reach its sink. -/
inductive WriteFault where
  /-- The sink has no room for the text and took none of it. -/
  | refused
  /-- The sink took the text, but the flush after it failed. -/
  | flushFailed
deriving DecidableEq, Repr

/-- Write the trace of the running thread in one piece, and flush the sink. -/
def writeUnwound (renderer : Renderer) (unwinder : Unwinder) (sink : Sink) :
    Sink × Option WriteFault :=
  let outcome := sink.write (renderer.report (renderer.unwound unwinder))
  if !outcome.accepted then (outcome.sink, some .refused)
  else if !outcome.sink.flushes then (outcome.sink, some .flushFailed)
  else (outcome.sink, none)

end Renderer

end SymbolTrace
