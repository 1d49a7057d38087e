import Mathlib.Order.Bounds.Basic
import SymbolTrace.Proofs.Image.Translation

/-!
# What an image covers

A file is mapped by the stretches of memory that it counts: its segments that have a size, but for
the one that only reserves the addresses around zero, or, if there is none of these, its sections
that have a size. The mapped part runs from the lowest address of a stretch to the highest end of
one. The stretches may come in any order, overlap, and run over the end of the address space, where
their ends are cut off at the greatest address. So an end never lies below its start, and the size
of the mapped part, which is computed in words, is the true distance.

## Main results

* `ObjectFile.isLeast_starts`, `ObjectFile.isGreatest_ends`: the mapped part of a file.
* `Image.contains_of_counts`: what an image covers that is opened where it asks to be.
* `Image.mapped_range_exact`: opened and loaded images, and when there are any.
-/

namespace SymbolTrace

/-- A segment counts unless it is empty or only reserves addresses. -/
theorem Segment.isMapped_iff {segment : Segment} :
    segment.isMapped = true ↔ segment.name ≠ some "__PAGEZERO" ∧ segment.size ≠ 0 := by
  rw [isMapped, Bool.and_eq_true, decide_eq_true_eq, decide_eq_true_eq, and_comm]
  rfl

namespace ObjectFile

/-- A stretch of memory that a file is mapped by, told by its address and its size. -/
inductive Counts (file : ObjectFile) : UInt64 → UInt64 → Prop
  | segment {segment : Segment} : segment ∈ file.segments → segment.name ≠ some "__PAGEZERO" →
      segment.size ≠ 0 → Counts file segment.address segment.size
  /-- Sections count only if no segment does. -/
  | part {part : Section} :
      (∀ segment ∈ file.segments, segment.name = some "__PAGEZERO" ∨ segment.size = 0) →
      part ∈ file.sections → part.size ≠ 0 → Counts file part.address part.size

/-- Where the stretches start. -/
def starts (file : ObjectFile) : Set Nat :=
  {n | ∃ address size, file.Counts address size ∧ address.toNat = n}

/-- Where they end, at the greatest address at the latest. -/
def ends (file : ObjectFile) : Set Nat :=
  {n | ∃ address size, file.Counts address size ∧
    min (address.toNat + size.toNat) (UInt64.size - 1) = n}

variable {file : ObjectFile} {mapped : AddressRange}

/-- Without segments that count the sections do. -/
theorem counts_iff_of_no_segment (hnone : file.segments.filter Segment.isMapped = [])
    {address size : UInt64} :
    file.Counts address size ↔
      ∃ part ∈ file.sections, part.size ≠ 0 ∧ part.address = address ∧ part.size = size := by
  have hunmapped : ∀ segment ∈ file.segments,
      segment.name = some "__PAGEZERO" ∨ segment.size = 0 := by
    intro segment hsegment
    have hnot := List.filter_eq_nil_iff.1 hnone segment hsegment
    rwa [Segment.isMapped_iff, not_and_or, not_not, not_not] at hnot
  constructor
  · rintro (⟨hsegment, hname, hsize⟩ | ⟨-, hpart, hsize⟩)
    · exact ((hunmapped _ hsegment).elim hname hsize).elim
    · exact ⟨_, hpart, hsize, rfl, rfl⟩
  · rintro ⟨part, hpart, hsize, rfl, rfl⟩
    exact .part hunmapped hpart hsize

/-- With segments that count the sections do not. -/
theorem counts_iff_of_segment (hsome : file.segments.filter Segment.isMapped ≠ [])
    {address size : UInt64} :
    file.Counts address size ↔
      ∃ segment ∈ file.segments.filter Segment.isMapped,
        segment.address = address ∧ segment.size = size := by
  constructor
  · rintro (⟨hsegment, hname, hsize⟩ | ⟨hunmapped, -, -⟩)
    · exact ⟨_, List.mem_filter.2 ⟨hsegment, Segment.isMapped_iff.2 ⟨hname, hsize⟩⟩, rfl, rfl⟩
    · refine absurd (List.filter_eq_nil_iff.2 fun segment hsegment hmapped => ?_) hsome
      obtain ⟨hname, hsize⟩ := Segment.isMapped_iff.1 hmapped
      exact (hunmapped segment hsegment).elim hname hsize
  · rintro ⟨segment, hsegment, rfl, rfl⟩
    obtain ⟨hmem, hmapped⟩ := List.mem_filter.1 hsegment
    obtain ⟨hname, hsize⟩ := Segment.isMapped_iff.1 hmapped
    exact .segment hmem hname hsize

/-- The ranges that a file is mapped by are those of the stretches that count. -/
theorem mem_mappedRanges_iff {range : AddressRange} :
    range ∈ file.mappedRanges ↔
      ∃ address size, file.Counts address size ∧ AddressRange.ofSize address size = range := by
  unfold mappedRanges
  split
  · rename_i hnone
    simp only [counts_iff_of_no_segment hnone, List.mem_map, List.mem_filter, decide_eq_true_eq]
    constructor
    · rintro ⟨part, ⟨hpart, hsize⟩, rfl⟩
      exact ⟨_, _, ⟨part, hpart, hsize, rfl, rfl⟩, rfl⟩
    · rintro ⟨_, _, ⟨part, hpart, hsize, rfl, rfl⟩, rfl⟩
      exact ⟨part, ⟨hpart, hsize⟩, rfl⟩
  · rename_i hsome
    simp only [counts_iff_of_segment hsome, List.mem_map]
    constructor
    · rintro ⟨segment, hsegment, rfl⟩
      exact ⟨_, _, ⟨segment, hsegment, rfl, rfl⟩, rfl⟩
    · rintro ⟨_, _, ⟨segment, hsegment, rfl, rfl⟩, rfl⟩
      exact ⟨segment, hsegment, rfl⟩

/-- Something of a file is mapped if some stretch counts. -/
theorem exists_extent?_iff :
    (∃ mapped, file.extent? = some mapped) ↔ ∃ address size, file.Counts address size := by
  constructor
  · rintro ⟨mapped, hextent⟩
    obtain ⟨range, hrange, -⟩ := (isLowestMapped_of_extent? hextent).mem
    obtain ⟨address, size, hcounts, -⟩ := mem_mappedRanges_iff.1 hrange
    exact ⟨address, size, hcounts⟩
  · rintro ⟨address, size, hcounts⟩
    have hrange := mem_mappedRanges_iff.2 ⟨address, size, hcounts, rfl⟩
    rw [extent?_eq_hull?]
    cases hranges : file.mappedRanges with
    | nil =>
        rw [hranges] at hrange
        cases hrange
    | cons first ranges => exact ⟨_, rfl⟩

/-- The mapped part starts at the lowest start. -/
theorem isLeast_starts (h : file.extent? = some mapped) :
    IsLeast file.starts mapped.start.toNat := by
  rw [extent?_eq_hull?] at h
  obtain ⟨hmem, hle⟩ := List.min?_eq_some_iff.1 (AddressRange.hull?_eq_some h).1
  constructor
  · obtain ⟨range, hrange, hstart⟩ := List.mem_map.1 hmem
    obtain ⟨address, size, hcounts, rfl⟩ := mem_mappedRanges_iff.1 hrange
    exact ⟨address, size, hcounts, hstart⟩
  · rintro _ ⟨address, size, hcounts, rfl⟩
    exact hle _ (List.mem_map_of_mem (mem_mappedRanges_iff.2 ⟨address, size, hcounts, rfl⟩))

/-- It ends at the highest end. -/
theorem isGreatest_ends (h : file.extent? = some mapped) :
    IsGreatest file.ends mapped.stop.toNat := by
  rw [extent?_eq_hull?] at h
  obtain ⟨hmem, hle⟩ := List.max?_eq_some_iff.1 (AddressRange.hull?_eq_some h).2
  constructor
  · obtain ⟨range, hrange, hstop⟩ := List.mem_map.1 hmem
    obtain ⟨address, size, hcounts, rfl⟩ := mem_mappedRanges_iff.1 hrange
    exact ⟨address, size, hcounts, (toNat_saturatingAdd address size).symm.trans hstop⟩
  · rintro _ ⟨address, size, hcounts, rfl⟩
    have hstop := hle _ (List.mem_map_of_mem (mem_mappedRanges_iff.2 ⟨address, size, hcounts, rfl⟩))
    exact (toNat_saturatingAdd address size).symm.trans_le hstop

/-- The end of a mapped part does not lie below its start: no stretch ends below where it starts. -/
theorem start_le_stop_of_extent? (h : file.extent? = some mapped) :
    mapped.start.toNat ≤ mapped.stop.toNat := by
  obtain ⟨address, size, hcounts, hstart⟩ := (isLeast_starts h).1
  have hend := (isGreatest_ends h).2 ⟨address, size, hcounts, rfl⟩
  have haddress := address.toNat_lt
  simp only [UInt64.size] at hend
  omega

end ObjectFile

/-! ### Images -/

/-- A range is told by its start and its size. -/
theorem AddressRange.ofSize_size (range : AddressRange) :
    AddressRange.ofSize range.start range.size = range := by
  have hstop : saturatingAdd range.start range.size = range.stop := by
    have horder := range.start_le_stop
    have hbound := range.stop.toNat_lt
    apply UInt64.toNat_inj.1
    rw [toNat_saturatingAdd, toNat_size]
    simp only [UInt64.size]
    omega
  obtain ⟨start, stop, horder⟩ := range
  exact AddressRange.mk.injEq .. ▸ ⟨rfl, hstop⟩

namespace Image

variable {path : String} {file : ObjectFile} {mapped : AddressRange} {opened loaded : Image}

/-- Where a file asks to be, an image covers what is mapped of the file. -/
theorem range_of_opened (hextent : file.extent? = some mapped)
    (h : Image.map? path file none = some opened) : opened.range = mapped := by
  rw [map?, hextent] at h
  cases h
  exact mapped.ofSize_size

/-- Elsewhere it covers as much, but nothing over the end of the address space. -/
theorem range_of_loaded {start : Address} (hextent : file.extent? = some mapped)
    (h : Image.map? path file (some start) = some loaded) :
    loaded.loadAddress = start ∧
      loaded.range.stop.toNat = start.toNat +
        min (mapped.stop.toNat - mapped.start.toNat) (UInt64.size - 1 - start.toNat) := by
  rw [map?_some start hextent] at h
  cases h
  have hbound := start.toNat_lt
  refine ⟨rfl, (toNat_saturatingAdd _ _).trans ?_⟩
  rw [AddressRange.toNat_size]
  change min (start.toNat + _) _ = _
  simp only [UInt64.size] at *
  omega

/-- Only the greatest address of a stretch can be missing, if it is the greatest of all. -/
theorem contains_of_counts (hextent : file.extent? = some mapped) {address size : UInt64}
    (hcounts : file.Counts address size) {a : Address} (hstart : address.toNat ≤ a.toNat)
    (hend : a.toNat < address.toNat + size.toNat) (hlast : a.toNat ≠ UInt64.size - 1) :
    mapped.contains a = true := by
  have hlow := (ObjectFile.isLeast_starts hextent).2 ⟨address, size, hcounts, rfl⟩
  have hhigh := (ObjectFile.isGreatest_ends hextent).2 ⟨address, size, hcounts, rfl⟩
  have hbound := a.toNat_lt
  rw [AddressRange.contains_iff]
  simp only [UInt64.size] at hhigh hbound hlast
  omega

/-- **What an image covers.** Whatever segments and sections a reader reports, the file can be
opened exactly if some stretch of memory counts. What is mapped of it runs from the lowest start of
these stretches to their highest end. That end does not lie below the start, and the difference of
the two words is the distance. Opened where it asks to be, the file covers just this, and with it
every address of every stretch but perhaps the greatest address of all. Loaded at another address,
it covers as much from there on, up to the greatest address. -/
theorem mapped_range_exact (path : String) (file : ObjectFile) :
    (∀ (reader : ObjectReader) (files : FileReader) bytes,
      files path = .ok bytes → reader bytes = .ok file →
      ∀ loadAddress, Image.load reader files path loadAddress =
        (Image.map? path file loadAddress).elim (.error (.nothingMapped path)) .ok) ∧
    ((∃ opened, Image.map? path file none = some opened) ↔
      ∃ address size, file.Counts address size) ∧
    ∀ opened, Image.map? path file none = some opened →
      ∃ mapped, file.extent? = some mapped ∧
        IsLeast file.starts mapped.start.toNat ∧ IsGreatest file.ends mapped.stop.toNat ∧
        mapped.start.toNat ≤ mapped.stop.toNat ∧
        ((mapped.stop - mapped.start).toNat : Int) =
          (mapped.stop.toNat : Int) - mapped.start.toNat ∧
        opened.range = mapped ∧
        (∀ address size, file.Counts address size → ∀ a : Address, address.toNat ≤ a.toNat →
          a.toNat < address.toNat + size.toNat → a.toNat ≠ UInt64.size - 1 →
          opened.contains a = true) ∧
        ∀ start, ∃ loaded, Image.map? path file (some start) = some loaded ∧
          loaded.loadAddress = start ∧
          loaded.endAddress.toNat = start.toNat +
            min (mapped.stop.toNat - mapped.start.toNat) (UInt64.size - 1 - start.toNat) := by
  refine ⟨?_, ?_, ?_⟩
  · intro reader files bytes hbytes hread loadAddress
    simp only [Image.load, Image.ofBytes, hbytes, hread]
    cases Image.map? path file loadAddress <;> rfl
  · rw [← ObjectFile.exists_extent?_iff, ← Option.isSome_iff_exists, ← Option.isSome_iff_exists,
      map?, Option.isSome_map]
  · intro opened hopened
    obtain ⟨mapped, hextent, -⟩ := Option.map_eq_some_iff.1 hopened
    have hrange := range_of_opened hextent hopened
    have horder := ObjectFile.start_le_stop_of_extent? hextent
    refine ⟨mapped, hextent, ObjectFile.isLeast_starts hextent, ObjectFile.isGreatest_ends hextent,
      horder, ?_, hrange, ?_, ?_⟩
    · have hsize := mapped.toNat_size
      rw [AddressRange.size] at hsize
      omega
    · intro address size hcounts a hstart hend hlast
      rw [contains, hrange]
      exact contains_of_counts hextent hcounts hstart hend hlast
    · intro start
      have hloaded : Image.map? path file (some start) = some _ := map?_some start hextent
      exact ⟨_, hloaded, range_of_loaded hextent hloaded⟩

/-- A reserved segment does not count, and one that runs over the end is cut off there. -/
example : (ObjectFile.mk .machO
    [⟨some "__PAGEZERO", 0, 0x100000000⟩, ⟨some "__DATA", 0xfffffffffffff000, 0x2000⟩,
      ⟨some "__TEXT", 0x100000000, 0x4000⟩] [⟨0, 0x10⟩] [] []).extent?.map
      (fun mapped => (mapped.start, mapped.stop)) = some (0x100000000, 0xffffffffffffffff) := by
  decide

end Image

end SymbolTrace
