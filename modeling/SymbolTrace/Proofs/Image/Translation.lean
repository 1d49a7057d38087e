import SymbolTrace.Image.Load
import SymbolTrace.ObjectFile.Read

/-!
# From addresses at run time to addresses of the file

An image that is loaded at an address `start` covers the addresses that its file's mapped part
takes up from there. Translating one of these back goes through a signed word, the slide, so it
works only while the distance from the file's lowest mapped address `lowest` to `start` can be
taken off an address as such a word: `start` lies less than half the address space below `lowest`,
and no more than half the address space above it. Outside these bounds the slide wraps around, and
moving an address by it is refused, because the result would lie outside the address space.

## Main results

* `ObjectFile.isLowestMapped_of_extent?`: a file is mapped from its lowest mapped address on.
* `toInt_neg_slide`: what is added to an address at run time, as an integer.
* `Image.load_toFile?_iff`: when a loaded image translates an address, and to what.
-/

namespace SymbolTrace

/-! ### The lowest mapped address -/

namespace AddressRange

/-- The hull starts with the lower of both. -/
theorem toNat_start_hull (a b : AddressRange) :
    (a.hull b).start.toNat = min a.start.toNat b.start.toNat := by
  simp only [hull]
  split <;> omega

/-- The hull stops with the higher of both. -/
theorem toNat_stop_hull (a b : AddressRange) :
    (a.hull b).stop.toNat = max a.stop.toNat b.stop.toNat := by
  simp only [hull]
  split <;> omega

/-- The hull of ranges runs from the lowest of their starts to the highest of their ends. -/
theorem hull?_eq_some {ranges : List AddressRange} {mapped : AddressRange}
    (h : hull? ranges = some mapped) :
    (ranges.map (·.start.toNat)).min? = some mapped.start.toNat ∧
      (ranges.map (·.stop.toNat)).max? = some mapped.stop.toNat := by
  cases ranges with
  | nil => cases h
  | cons first ranges =>
      cases h
      rw [List.map_cons, List.map_cons, List.min?_cons', List.max?_cons', List.foldl_map,
        List.foldl_map]
      constructor
      · exact congrArg some (List.foldl_hom (·.start.toNat) fun a b => (toNat_start_hull a b).symm)
      · exact congrArg some (List.foldl_hom (·.stop.toNat) fun a b => (toNat_stop_hull a b).symm)

/-- The hull of ranges starts at the lowest of their starts. -/
theorem hull?_start {ranges : List AddressRange} {mapped : AddressRange}
    (h : hull? ranges = some mapped) :
    (∃ range ∈ ranges, range.start = mapped.start) ∧
      ∀ range ∈ ranges, mapped.start.toNat ≤ range.start.toNat := by
  obtain ⟨hmem, hle⟩ := List.min?_eq_some_iff.1 (hull?_eq_some h).1
  obtain ⟨range, hrange, hstart⟩ := List.mem_map.1 hmem
  exact ⟨⟨range, hrange, UInt64.toNat_inj.1 hstart⟩, fun other hother =>
    hle _ (List.mem_map_of_mem hother)⟩

end AddressRange

/-- The ranges that a file is mapped by: those of its mapped segments or, without any, those of
its sections that have a size. -/
def ObjectFile.mappedRanges (file : ObjectFile) : List AddressRange :=
  match file.segments.filter Segment.isMapped with
  | [] => (file.sections.filter fun part => part.size ≠ 0).map fun part =>
      AddressRange.ofSize part.address part.size
  | segments => segments.map fun segment => AddressRange.ofSize segment.address segment.size

/-- The mapped part of a file is the hull of these ranges. -/
theorem ObjectFile.extent?_eq_hull? (file : ObjectFile) :
    file.extent? = AddressRange.hull? file.mappedRanges := by
  rw [extent?, mappedRanges]
  cases file.segments.filter Segment.isMapped <;> rfl

/-- The lowest address that a file is mapped from. -/
structure ObjectFile.IsLowestMapped (file : ObjectFile) (lowest : UInt64) : Prop where
  mem : ∃ range ∈ file.mappedRanges, range.start = lowest
  le : ∀ range ∈ file.mappedRanges, lowest.toNat ≤ range.start.toNat

/-- A file is mapped from its lowest mapped address on. -/
theorem ObjectFile.isLowestMapped_of_extent? {file : ObjectFile} {mapped : AddressRange}
    (h : file.extent? = some mapped) : file.IsLowestMapped mapped.start := by
  rw [extent?_eq_hull?] at h
  obtain ⟨hmem, hle⟩ := AddressRange.hull?_start h
  exact ⟨hmem, hle⟩

/-! ### The slide -/

/-- A word, read as a signed one. -/
theorem toInt_toInt64 (a : UInt64) : a.toInt64.toInt = (a.toNat : Int).bmod UInt64.size :=
  BitVec.toInt_eq_toNat_bmod a.toBitVec

/-- May the distance between two addresses be taken off an address as a signed word? -/
def WithinReach (start lowest : UInt64) : Prop :=
  -9223372036854775808 < (start.toNat : Int) - lowest.toNat ∧
    (start.toNat : Int) - lowest.toNat ≤ 9223372036854775808

instance (start lowest : UInt64) : Decidable (WithinReach start lowest) :=
  inferInstanceAs (Decidable (_ ∧ _))

/-- What is added to an address at run time is the distance back to the file's addresses, as the
signed word that it wraps to. -/
theorem toInt_neg_slide (start lowest : UInt64) :
    (-(start.toInt64 - lowest.toInt64)).toInt =
      ((lowest.toNat : Int) - start.toNat).bmod UInt64.size := by
  rw [Int64.toInt_neg, Int64.toInt_sub, toInt_toInt64, toInt_toInt64]
  simp only [UInt64.size, Nat.reducePow, Int.bmod_sub_bmod, Int.sub_bmod_bmod, Int.bmod_neg_bmod]
  congr 1
  omega

/-- Within reach, the signed word is the distance itself. -/
theorem toInt_neg_slide_of_withinReach {start lowest : UInt64} (h : WithinReach start lowest) :
    (-(start.toInt64 - lowest.toInt64)).toInt = (lowest.toNat : Int) - start.toNat := by
  obtain ⟨hbelow, habove⟩ := h
  rw [toInt_neg_slide]
  exact Int.bmod_eq_of_le_mul_two (by simp only [UInt64.size]; omega)
    (by simp only [UInt64.size]; omega)

/-- Out of reach, the signed word is off by the size of the address space. -/
theorem toInt_neg_slide_of_not_withinReach {start lowest : UInt64}
    (h : ¬ WithinReach start lowest) :
    (-(start.toInt64 - lowest.toInt64)).toInt = (lowest.toNat : Int) - start.toNat + UInt64.size ∨
      (-(start.toInt64 - lowest.toInt64)).toInt =
        (lowest.toNat : Int) - start.toNat - UInt64.size := by
  have hstart := start.toNat_lt
  have hlowest := lowest.toNat_lt
  rw [toInt_neg_slide, Int.bmod_def]
  simp only [WithinReach, UInt64.size] at h ⊢
  split <;> omega

/-! ### Translation -/

namespace Image

/-- An image runs from its load address on, for as long as its file's mapped part. -/
theorem map?_some {path : String} {file : ObjectFile} {mapped : AddressRange} (start : Address)
    (h : file.extent? = some mapped) :
    Image.map? path file (some start) = some {
      path
      slide := start.value.toInt64 - mapped.start.toInt64
      range := AddressRange.ofSize start.value mapped.size
      symbols := file.symbolTable } := by
  rw [map?, h]
  rfl

/-- An address that an image covers has its place inside the file's mapped part. -/
theorem lt_of_contains_ofSize {mapped : AddressRange} {start a : Address}
    (h : (AddressRange.ofSize start.value mapped.size).contains a = true) :
    start.toNat ≤ a.toNat ∧
      mapped.start.toNat + (a.toNat - start.toNat) < mapped.stop.toNat := by
  obtain ⟨hstart, hstop⟩ := AddressRange.contains_iff.1 h
  have hmapped := mapped.start_le_stop
  have hsize := AddressRange.toNat_size mapped
  dsimp only [AddressRange.ofSize] at hstart hstop
  rw [toNat_saturatingAdd] at hstop
  change start.toNat ≤ a.toNat at hstart
  change a.toNat < min (start.toNat + mapped.size.toNat) (UInt64.size - 1) at hstop
  omega

section

variable {path : String} {file : ObjectFile} {mapped : AddressRange} {start : Address}
  {image : Image} (hextent : file.extent? = some mapped)
  (himage : Image.map? path file (some start) = some image)

include hextent himage

/-- An image translates the addresses that it covers if it is within reach of its file, and then
keeps their distances from its start. -/
theorem toFile?_eq_some_iff {a b : Address} :
    image.toFile? a = some b ↔
      image.contains a = true ∧ WithinReach start.value mapped.start ∧
        (b.toNat : Int) = mapped.start.toNat + ((a.toNat : Int) - start.toNat) := by
  rw [map?_some start hextent, Option.some.injEq] at himage
  subst himage
  rw [toFile?]
  split
  · rename_i hcontains
    obtain ⟨hstart, hstop⟩ := lt_of_contains_ofSize hcontains
    have hb := b.toNat_lt
    have hmapped := mapped.stop.toNat_lt
    rw [Address.shift?_eq_some_iff]
    by_cases hreach : WithinReach start.value mapped.start
    · rw [toInt_neg_slide_of_withinReach hreach]
      simp only [hcontains, hreach, true_and]
      constructor <;> intro h <;> simp only [Address.toNat] at h ⊢ <;> omega
    · simp only [hreach, false_and, and_false, iff_false]
      intro h
      simp only [Address.toNat, UInt64.size] at h hb hstart hstop
      rcases toInt_neg_slide_of_not_withinReach hreach with hslide | hslide <;>
        rw [hslide] at h <;> simp only [UInt64.size] at h <;> omega
  · rename_i hcontains
    simp [hcontains]

/-- An image within reach of its file translates every address that it covers. -/
theorem exists_toFile?_eq_some {a : Address}
    (hcontains : image.contains a = true) (hreach : WithinReach start.value mapped.start) :
    ∃ b, image.toFile? a = some b := by
  have hcovered : (AddressRange.ofSize start.value mapped.size).contains a = true := by
    rw [map?_some start hextent, Option.some.injEq] at himage
    rw [← hcontains, ← himage]
    rfl
  obtain ⟨hstart, hstop⟩ := lt_of_contains_ofSize hcovered
  have hbound := mapped.stop.toNat_lt
  -- The address meant lies inside the mapped part, so it is a word.
  let b : Address := ⟨UInt64.ofNat (mapped.start.toNat + (a.toNat - start.toNat))⟩
  have hb : b.toNat = mapped.start.toNat + (a.toNat - start.toNat) :=
    UInt64.toNat_ofNat_of_lt' (Nat.lt_trans hstop hbound)
  refine ⟨b, (toFile?_eq_some_iff hextent himage).2 ⟨hcontains, hreach, ?_⟩⟩
  rw [hb, Int.natCast_add, Int.natCast_sub hstart]

/-- It refuses what it does not cover and, out of reach of its file, everything. -/
theorem toFile?_eq_none_iff {a : Address} :
    image.toFile? a = none ↔
      image.contains a = false ∨ ¬ WithinReach start.value mapped.start := by
  constructor
  · intro hnone
    rcases hcontains : image.contains a with _ | _
    · exact .inl rfl
    · refine .inr fun hreach => ?_
      obtain ⟨b, hb⟩ := exists_toFile?_eq_some hextent himage hcontains hreach
      rw [hnone] at hb
      cases hb
  · intro h
    rcases hb : image.toFile? a with _ | b
    · rfl
    · obtain ⟨hcontains, hreach, -⟩ := (toFile?_eq_some_iff hextent himage).1 hb
      rcases h with hoff | hout
      · rw [hcontains] at hoff
        cases hoff
      · exact absurd hreach hout

end

/-! ### Loaded images -/

/-- A file is loaded if it can be read as an object file of which something is mapped. -/
theorem load_eq_ok_iff {reader : ObjectReader} {files : FileReader} {path : String}
    {loadAddress : Option Address} {image : Image} :
    Image.load reader files path loadAddress = .ok image ↔
      ∃ bytes file, files path = .ok bytes ∧ reader bytes = .ok file ∧
        Image.map? path file loadAddress = some image := by
  unfold Image.load Image.ofBytes
  constructor
  · intro h
    split at h
    · cases h
    rename_i bytes hbytes
    split at h
    · cases h
    rename_i file hread
    split at h
    · cases h
    rename_i mapped hmap
    cases h
    exact ⟨bytes, file, hbytes, hread, hmap⟩
  · rintro ⟨bytes, file, hbytes, hread, hmap⟩
    simp only [hbytes, hread, hmap]

/-- **Translation to the file.** Whatever the reader reports on object files: a file that can be
opened where it asks to be can be loaded at any address. The image keeps distances: an address `a`
that it covers is translated to the one that lies as far above the file's lowest mapped address as
`a` lies above the load address. It does so for all addresses that it covers, or, if the two are out
of each other's reach, for none. -/
theorem load_toFile?_iff {reader : ObjectReader} {files : FileReader} {path : String}
    {opened : Image} (hopen : Image.load reader files path none = .ok opened) (start : Address) :
    ∃ (bytes : ByteArray) (file : ObjectFile) (lowest : UInt64) (image : Image),
      files path = .ok bytes ∧ reader bytes = .ok file ∧ file.IsLowestMapped lowest ∧
      Image.load reader files path (some start) = .ok image ∧
      (∀ a b, image.toFile? a = some b ↔
        image.contains a = true ∧ WithinReach start.value lowest ∧
          (b.toNat : Int) = lowest.toNat + ((a.toNat : Int) - start.toNat)) ∧
      ∀ a, image.toFile? a = none ↔
        image.contains a = false ∨ ¬ WithinReach start.value lowest := by
  obtain ⟨bytes, file, hbytes, hread, hmap⟩ := load_eq_ok_iff.1 hopen
  obtain ⟨mapped, hextent, -⟩ := Option.map_eq_some_iff.1 hmap
  have himage : Image.map? path file (some start) = some _ := map?_some start hextent
  refine ⟨bytes, file, mapped.start, _, hbytes, hread,
    ObjectFile.isLowestMapped_of_extent? hextent,
    load_eq_ok_iff.2 ⟨bytes, file, hbytes, hread, himage⟩, ?_, ?_⟩
  · intro a b
    exact toFile?_eq_some_iff hextent himage
  · intro a
    exact toFile?_eq_none_iff hextent himage

/-- An object file without sections and symbols and with one segment, the page from `0x1000` on. -/
def onePage : ByteArray := ⟨#[
  0x7f, 0x45, 0x4c, 0x46, 2, 1, 1, 0, 0, 0, 0, 0, 0, 0, 0, 0,
  3, 0, 0x3e, 0, 1, 0, 0, 0, 0, 0, 0, 0, 0, 0, 0, 0,
  0x40, 0, 0, 0, 0, 0, 0, 0, 0, 0, 0, 0, 0, 0, 0, 0,
  0, 0, 0, 0, 0x40, 0, 0x38, 0, 1, 0, 0, 0, 0, 0, 0, 0,
  1, 0, 0, 0, 5, 0, 0, 0, 0, 0, 0, 0, 0, 0, 0, 0,
  0, 0x10, 0, 0, 0, 0, 0, 0, 0, 0x10, 0, 0, 0, 0, 0, 0,
  0, 0x10, 0, 0, 0, 0, 0, 0, 0, 0x10, 0, 0, 0, 0, 0, 0,
  0, 0x10, 0, 0, 0, 0, 0, 0]⟩

/-- What is stored in it. -/
def onePageReport : ObjectFile := ⟨.elf, [⟨none, 0x1000, 0x1000⟩], [], [], []⟩

/-- What can be decided of a report: whether there is one, and which. -/
theorem reader_eq_ok_of_toOption {bytes : ByteArray} {file : ObjectFile}
    (h : (ObjectFile.reader bytes).toOption = some file) : ObjectFile.reader bytes = .ok file := by
  rcases hread : ObjectFile.reader bytes with fault | other
  · rw [hread] at h
    cases h
  · rw [hread] at h
    rw [Option.some.inj h]

/-- The object of one page is read. -/
theorem reader_onePage : ObjectFile.reader onePage = .ok onePageReport :=
  reader_eq_ok_of_toOption (by decide +kernel)

/-- The page at an address. -/
def onePageImage (start : Address) : Image where
  path := "page.so"
  slide := start.value.toInt64 - (0x1000 : UInt64).toInt64
  range := AddressRange.ofSize start.value 0x1000
  symbols := []

/-- It is loaded at the address asked for or at its own. -/
theorem load_onePage (loadAddress : Option Address) :
    Image.load ObjectFile.reader (fun _ => .ok onePage) "page.so" loadAddress =
      .ok (onePageImage (loadAddress.getD ⟨0x1000⟩)) := by
  refine load_eq_ok_iff.2 ⟨onePage, _, rfl, reader_onePage, ?_⟩
  have hextent : onePageReport.extent? = some (AddressRange.ofSize 0x1000 0x1000) := by decide
  have hsymbols : onePageReport.symbolTable = [] := by
    simp [onePageReport, ObjectFile.symbolTable, ObjectFile.symbols, CodeSymbol.dropRepeats]
  rw [map?, hextent, hsymbols]
  cases loadAddress <;> rfl

/-- Below half the address space, the page is translated. -/
theorem load_toFile?_onePage :
    Image.load ObjectFile.reader (fun _ => .ok onePage) "page.so" none =
        .ok (onePageImage ⟨0x1000⟩) ∧
      Image.load ObjectFile.reader (fun _ => .ok onePage) "page.so" (some ⟨0x555500000000⟩) =
        .ok (onePageImage ⟨0x555500000000⟩) ∧
      (onePageImage ⟨0x555500000000⟩).toFile? ⟨0x555500000024⟩ = some ⟨0x1024⟩ := by
  obtain ⟨bytes, file, lowest, image, hbytes, hread, hlowest, hload, htranslate, -⟩ :=
    load_toFile?_iff (load_onePage none) ⟨0x555500000000⟩
  cases hbytes
  rw [reader_onePage] at hread
  cases hread
  rw [load_onePage] at hload
  cases hload
  obtain ⟨range, hrange, rfl⟩ := hlowest.mem
  obtain rfl : range = AddressRange.ofSize 0x1000 0x1000 := List.mem_singleton.1 hrange
  refine ⟨load_onePage none, load_onePage _, (htranslate _ _).2 ⟨?_, ?_, ?_⟩⟩ <;> decide

/-- In the upper half of the address space it covers an address that it does not translate. -/
theorem not_load_toFile?_onePage :
    Image.load ObjectFile.reader (fun _ => .ok onePage) "page.so" (some ⟨0xffff800000001000⟩) =
        .ok (onePageImage ⟨0xffff800000001000⟩) ∧
      (onePageImage ⟨0xffff800000001000⟩).contains ⟨0xffff800000001024⟩ = true ∧
      (onePageImage ⟨0xffff800000001000⟩).toFile? ⟨0xffff800000001024⟩ = none :=
  ⟨load_onePage _, by decide, by decide⟩

end Image

end SymbolTrace
