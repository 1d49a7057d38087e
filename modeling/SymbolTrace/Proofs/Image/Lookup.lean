import SymbolTrace.Proofs.Image.Nearest
import SymbolTrace.Proofs.Image.Registry

/-!
# Looking an address up

An image that is asked about an address takes it to the file, finds the symbol there, and takes the
start of the symbol back. The symbol is the one with the greatest address and name of those at or
below the address, so of several symbols at one address the last name is given. The way there and
the way back go through the same signed word, the slide. Where the way there is open, the way back
gives the right start or none.

All this holds of an image in whatever state its questions have left it, and depends on its table
only through the addresses and names in it.

## Main results

* `Image.lastSymbol?_eq_some_iff`, `Image.lastSymbol?_eq_none_iff`: which symbol is found.
* `Image.toRuntime?_exact`: the way back, behind an open way there.
* `LazyImage.Loaded.spec`: what all states of an image have in common.
* `LazyImage.nearest_exact`: the whole answer.
-/

namespace SymbolTrace

/-! ### The greatest symbol up to an address -/

/-- Of the symbols at or below an address, this one has the greatest address and name. -/
structure IsGreatestUpTo (symbols : List CodeSymbol) (limit : UInt64) (symbol : CodeSymbol) :
    Prop where
  mem : symbol ∈ symbols
  le : symbol.address ≤ limit
  greatest : ∀ other ∈ symbols, other.address ≤ limit →
    other.key = symbol.key ∨ other.key.Before symbol.key

section

variable {symbols : List CodeSymbol} {symbol : CodeSymbol} {limit : UInt64}
  (sorted : symbols.Pairwise fun a b => a.key.Before b.key)

include sorted

/-- The symbols in front of the first one above an address are those at or below it. -/
theorem mem_takeWhile_iff :
    symbol ∈ symbols.takeWhile (fun symbol => symbol.address ≤ limit) ↔
      symbol ∈ symbols ∧ symbol.address ≤ limit := by
  have hsorted := sorted.imp SymbolKey.Before.address_le
  constructor
  · intro h
    exact ⟨(List.takeWhile_sublist _).mem h,
      by simpa using List.all_eq_true.1 List.all_takeWhile symbol h⟩
  · rintro ⟨hmem, hle⟩
    rw [← List.takeWhile_append_dropWhile (p := fun symbol => symbol.address ≤ limit)
      (l := symbols), List.mem_append] at hmem
    refine hmem.resolve_right fun hlater => ?_
    exact UInt64.not_le.2 (lt_of_mem_dropWhile hsorted hlater) hle

/-- Symbols of one key are the same. -/
theorem eq_of_key_eq {other : CodeSymbol} (h : symbol ∈ symbols) (hother : other ∈ symbols)
    (hkey : symbol.key = other.key) : symbol = other :=
  List.inj_on_of_nodup_map (List.pairwise_map.2 sorted).nodup h hother hkey

/-- The last of symbols in order is the greatest. -/
theorem getLast?_eq_some_iff :
    symbols.getLast? = some symbol ↔
      symbol ∈ symbols ∧
        ∀ other ∈ symbols, other.key = symbol.key ∨ other.key.Before symbol.key := by
  have hgreatest : ∀ {last}, symbols.getLast? = some last →
      last ∈ symbols ∧ ∀ other ∈ symbols, other.key = last.key ∨ other.key.Before last.key := by
    intro last hlast
    obtain ⟨before, rfl⟩ := List.getLast?_eq_some_iff.1 hlast
    refine ⟨List.mem_append_right before List.mem_cons_self, fun other hother => ?_⟩
    rcases List.mem_append.1 hother with hother | hother
    · exact .inr ((List.pairwise_append.1 sorted).2.2 other hother last List.mem_cons_self)
    · exact .inl (congrArg CodeSymbol.key (List.mem_singleton.1 hother))
  refine ⟨hgreatest, fun ⟨hmem, hall⟩ => ?_⟩
  have hlast := List.getLast?_eq_some_getLast (List.ne_nil_of_mem hmem)
  obtain ⟨hlastMem, hlastAll⟩ := hgreatest hlast
  rw [hlast, Option.some.injEq]
  refine eq_of_key_eq sorted hlastMem hmem ?_
  rcases hall _ hlastMem with hkey | hbefore
  · exact hkey
  · exact ((hlastAll symbol hmem).resolve_right hbefore.asymm).symm

end

namespace Image

section

variable {image : Image} {fileAddress : Address} {symbol : CodeSymbol}
  (sorted : image.symbols.Pairwise fun a b => a.key.Before b.key)

include sorted

/-- The symbol that is found is the greatest one up to the address. -/
theorem lastSymbol?_eq_some_iff :
    image.lastSymbol? fileAddress = some symbol ↔
      IsGreatestUpTo image.symbols fileAddress.value symbol := by
  rw [lastSymbol?, getLast?_eq_some_iff (sorted.sublist (List.takeWhile_sublist _)),
    mem_takeWhile_iff sorted]
  constructor
  · rintro ⟨⟨hmem, hle⟩, hall⟩
    exact ⟨hmem, hle, fun other hother hlow =>
      hall other ((mem_takeWhile_iff sorted).2 ⟨hother, hlow⟩)⟩
  · rintro ⟨hmem, hle, hall⟩
    refine ⟨⟨hmem, hle⟩, fun other hother => ?_⟩
    obtain ⟨hother, hlow⟩ := (mem_takeWhile_iff sorted).1 hother
    exact hall other hother hlow

/-- None is found where all symbols lie above the address. -/
theorem lastSymbol?_eq_none_iff :
    image.lastSymbol? fileAddress = none ↔
      ∀ symbol ∈ image.symbols, fileAddress.value < symbol.address := by
  rw [lastSymbol?, List.getLast?_eq_none_iff, List.eq_nil_iff_forall_not_mem]
  refine forall_congr' fun symbol => ?_
  rw [mem_takeWhile_iff sorted, not_and, UInt64.not_le]

end

/-- A site names the symbol that is found, and starts where that is at run time. -/
theorem siteAt?_eq_some_iff {image : Image} {fileAddress : Address} {site : SymbolSite} :
    image.siteAt? fileAddress = some site ↔
      ∃ symbol start, image.lastSymbol? fileAddress = some symbol ∧
        image.toRuntime? ⟨symbol.address⟩ = some start ∧
        site = ⟨.lent image.path, .lent symbol.name, start⟩ := by
  simp only [siteAt?, Option.bind_eq_bind, Option.bind_eq_some_iff, Option.pure_def,
    Option.some.injEq]
  constructor
  · rintro ⟨symbol, hsymbol, start, hstart, rfl⟩
    exact ⟨symbol, start, hsymbol, hstart, rfl⟩
  · rintro ⟨symbol, start, hsymbol, hstart, rfl⟩
    exact ⟨symbol, hsymbol, start, hstart, rfl⟩

/-- There is no site where no symbol is found, or where the one found has no address at run time. -/
theorem siteAt?_eq_none_iff {image : Image} {fileAddress : Address} :
    image.siteAt? fileAddress = none ↔
      image.lastSymbol? fileAddress = none ∨
        ∃ symbol, image.lastSymbol? fileAddress = some symbol ∧
          image.toRuntime? ⟨symbol.address⟩ = none := by
  rw [siteAt?]
  rcases image.lastSymbol? fileAddress with _ | symbol
  · simp
  · rcases hstart : image.toRuntime? ⟨symbol.address⟩ <;> simp [hstart]

/-- What is found in a table depends on its addresses and names only. -/
theorem siteAt?_eq_of_map_key_eq {image other : Image} (hpath : other.path = image.path)
    (hslide : other.slide = image.slide)
    (hkeys : other.symbols.map CodeSymbol.key = image.symbols.map CodeSymbol.key)
    (fileAddress : Address) : other.siteAt? fileAddress = image.siteAt? fileAddress := by
  let siteOf (path : String) (slide : Int64) (keys : List SymbolKey) : Option SymbolSite :=
    (keys.takeWhile fun key => key.address ≤ fileAddress.value).getLast?.bind fun key =>
      ((Address.mk key.address).shift? slide).bind fun start =>
        some ⟨.lent path, .lent key.name, start⟩
  have hsite : ∀ image : Image, image.siteAt? fileAddress =
      siteOf image.path image.slide (image.symbols.map CodeSymbol.key) := by
    intro image
    simp only [siteOf, List.takeWhile_map, List.getLast?_map, Option.bind_map]
    rfl
  rw [hsite, hsite, hkeys, hpath, hslide]

end Image

/-! ### There and back -/

namespace Image

/-- A file is mapped where it asks to be as if it were loaded there. -/
theorem map?_eq_map?_some {path : String} {file : ObjectFile} {mapped : AddressRange}
    (hextent : file.extent? = some mapped) (loadAddress : Option Address) :
    Image.map? path file loadAddress =
      Image.map? path file (some (loadAddress.getD ⟨mapped.start⟩)) := by
  rw [map?, map?, hextent]
  cases loadAddress <;> rfl

section

variable {path : String} {file : ObjectFile} {mapped : AddressRange} {start : Address}
  {image : Image} (hextent : file.extent? = some mapped)
  (himage : Image.map? path file (some start) = some image)

include hextent himage

/-- Behind an open way to the file, the way back of what lies no higher keeps distances as well.
With the least slide, nothing that lies so low is taken back. -/
theorem toRuntime?_exact {a fileAddress found : Address} {address : UInt64}
    (hfile : image.toFile? a = some fileAddress) (hle : address ≤ fileAddress.value)
    (hfound : image.toRuntime? ⟨address⟩ = some found) :
    (found.toNat : Int) = address.toNat + ((start.toNat : Int) - mapped.start.toNat) := by
  obtain ⟨-, hreach, hdistance⟩ := (toFile?_eq_some_iff hextent himage).1 hfile
  have hslide := toInt_neg_slide_of_withinReach hreach
  have hback := toInt_neg_eq image.slide
  rw [map?_some start hextent, Option.some.injEq] at himage
  subst himage
  rw [toRuntime?, Address.shift?_eq_some_iff] at hfound
  have hle := UInt64.le_iff_toNat_le.1 hle
  have ha := a.toNat_lt
  simp only [Address.toNat, UInt64.size] at *
  omega

end

end Image

/-! ### Rearranged tables -/

/-- Two files differ at most in the order of the entries of their symbol tables. -/
structure ObjectFile.Rearranges (other file : ObjectFile) : Prop where
  format_eq : other.format = file.format
  segments_eq : other.segments = file.segments
  sections_eq : other.sections = file.sections
  staticSymbols : other.staticSymbols.Perm file.staticSymbols
  dynamicSymbols : other.dynamicSymbols.Perm file.dynamicSymbols

namespace ObjectFile.Rearranges

variable {file other : ObjectFile} (h : other.Rearranges file)

include h

/-- Listing the same symbols in another order, or more than once, lists the same code. -/
theorem listsSame : other.ListsSame file := by
  have hsymbols := h.staticSymbols.append h.dynamicSymbols
  exact ⟨h.format_eq, fun entry => exists_congr fun size => hsymbols.mem_iff⟩

/-- The image of the one file is that of the other but for its table. -/
theorem map?_eq (path : String) (loadAddress : Option Address) :
    Image.map? path other loadAddress =
      (Image.map? path file loadAddress).map fun image =>
        { image with symbols := other.symbolTable } := by
  have hextent : other.extent? = file.extent? := by
    rw [extent?, extent?, h.segments_eq, h.sections_eq]
  rw [Image.map?, Image.map?, hextent, Option.map_map]
  rfl

end ObjectFile.Rearranges

/-! ### Images in all states -/

namespace LazyImage

/-- The states of an image: as it was loaded, and after every question that can change it. -/
inductive Loaded (reader : ObjectReader) (files : FileReader) (path : String)
    (loadAddress : Option Address) : LazyImage → Prop
  | load {image : LazyImage} : LazyImage.load reader files path loadAddress = .ok image →
      Loaded reader files path loadAddress image
  | symbols {image : LazyImage} : Loaded reader files path loadAddress image →
      Loaded reader files path loadAddress (image.symbols reader).2
  | nearest {image : LazyImage} (a : Address) : Loaded reader files path loadAddress image →
      Loaded reader files path loadAddress (image.nearest reader a).2

section

variable {reader : ObjectReader} {files : FileReader} {path : String}
  {loadAddress : Option Address} {image : LazyImage}

/-- In every state the image stands for the one that was loaded. -/
theorem Loaded.spec (h : Loaded reader files path loadAddress image) :
    Image.load reader files path loadAddress = .ok (image.eager reader) ∧ image.Sound reader := by
  induction h with
  | @load image hload =>
      have hspec := load_spec reader files path loadAddress
      rcases himage : Image.load reader files path loadAddress with fault | loaded
      · rw [himage] at hspec
        rw [hload] at hspec
        cases hspec
      · rw [himage] at hspec
        obtain ⟨_, hsame, sound, rfl⟩ := hspec
        rw [hload] at hsame
        cases hsame
        exact ⟨rfl, sound⟩
  | @symbols image _ ih =>
      obtain ⟨-, hsound, heager⟩ := answers_symbols image ih.2
      exact ⟨heager ▸ ih.1, hsound⟩
  | @nearest image a _ ih =>
      obtain ⟨-, hsound, heager⟩ := answers_nearest a image ih.2
      exact ⟨heager ▸ ih.1, hsound⟩

/-- What can be loaded has a first state. -/
theorem exists_loaded {loaded : Image}
    (h : Image.load reader files path loadAddress = .ok loaded) :
    ∃ image, Loaded reader files path loadAddress image := by
  have hspec := load_spec reader files path loadAddress
  rw [h] at hspec
  obtain ⟨image, himage, -, -⟩ := hspec
  exact ⟨image, .load himage⟩

/-- In any sound state the answer is that of the image with its table read. -/
theorem nearest_eq_bind (sound : image.Sound reader) (a : Address) :
    (image.nearest reader a).1 = (image.mapping.toFile? a).bind (image.eager reader).siteAt? := by
  rw [(answers_nearest a image sound).1, ← eager_toFile?]
  exact (image.eager reader).resolve_eq_bind a

end

/-- What an answer says about an address `a`. The image starts at `start`, its file is mapped from
`lowest` on and has this table. -/
structure IsAnswer (image : LazyImage) (start : Address) (lowest : UInt64)
    (table : List CodeSymbol) (a : Address) (site : SymbolSite) : Prop where
  contains : image.mapping.contains a = true
  modulePath_eq : site.modulePath.text = image.path
  /-- The symbol is the greatest one up to the address that lies as far above `lowest` as `a` lies
  above `start`, and it is taken back by the same distance. -/
  symbol : ∃ fileAddress symbol, image.mapping.toFile? a = some fileAddress ∧
    (fileAddress.toNat : Int) = lowest.toNat + ((a.toNat : Int) - start.toNat) ∧
    IsGreatestUpTo table fileAddress.value symbol ∧
    site.name.text = symbol.name ∧
    (site.address.toNat : Int) = symbol.address.toNat + ((start.toNat : Int) - lowest.toNat)
  address_le : site.address.toNat ≤ a.toNat

/-- **The nearest symbol**, for an image in any state, loaded at an address or where its file asks
to be, whatever the reader reports of the file. An answer comes from a covered address, names the
greatest symbol up to the place of this address in the file, and is exact. There is no answer just
if the address is not taken to the file, no symbol lies so low, or the greatest that does is not
taken back. A report with the entries of its tables in another order changes no answer. -/
theorem nearest_exact {reader : ObjectReader} {files : FileReader} {path : String}
    {loadAddress : Option Address} {image : LazyImage}
    (himage : Loaded reader files path loadAddress image) :
    ∃ bytes file lowest, files path = .ok bytes ∧ reader bytes = .ok file ∧
      file.IsLowestMapped lowest ∧
      (∀ a site, (image.nearest reader a).1 = some site →
        image.IsAnswer (loadAddress.getD ⟨lowest⟩) lowest file.symbolTable a site) ∧
      (∀ a, (image.nearest reader a).1 = none ↔
        image.mapping.toFile? a = none ∨
        ∃ fileAddress, image.mapping.toFile? a = some fileAddress ∧
          ((∀ symbol ∈ file.symbolTable, fileAddress.value < symbol.address) ∨
            ∃ symbol, IsGreatestUpTo file.symbolTable fileAddress.value symbol ∧
              image.mapping.toRuntime? ⟨symbol.address⟩ = none)) ∧
      ∀ (otherReader : ObjectReader) (otherFiles : FileReader) otherBytes other,
        otherFiles path = .ok otherBytes → otherReader otherBytes = .ok other →
        other.Rearranges file →
        (∃ otherImage, Loaded otherReader otherFiles path loadAddress otherImage) ∧
        ∀ otherImage, Loaded otherReader otherFiles path loadAddress otherImage →
          ∀ a, (otherImage.nearest otherReader a).1 = (image.nearest reader a).1 := by
  obtain ⟨hload, sound⟩ := himage.spec
  obtain ⟨bytes, file, hbytes, hread, hmap⟩ := Image.load_eq_ok_iff.1 hload
  obtain ⟨mapped, hextent, hmapped⟩ := Option.map_eq_some_iff.1 hmap
  have hplaced := hmap
  rw [Image.map?_eq_map?_some hextent] at hplaced
  have htable : (image.eager reader).symbols = file.symbolTable := by rw [← hmapped]
  have sorted : (image.eager reader).symbols.Pairwise fun a b => a.key.Before b.key :=
    htable ▸ file.pairwise_before_symbolTable
  refine ⟨bytes, file, mapped.start, hbytes, hread, ObjectFile.isLowestMapped_of_extent? hextent,
    ?answer, ?none, ?order⟩
  case answer =>
    intro a site hsite
    rw [nearest_eq_bind sound, Option.bind_eq_some_iff] at hsite
    obtain ⟨fileAddress, hfile, hsite⟩ := hsite
    obtain ⟨symbol, found, hsymbol, hfound, rfl⟩ := Image.siteAt?_eq_some_iff.1 hsite
    have hgreatest := (Image.lastSymbol?_eq_some_iff sorted).1 hsymbol
    obtain ⟨hcontains, -, hdistance⟩ := (Image.toFile?_eq_some_iff hextent hplaced).1 hfile
    rw [htable] at hgreatest
    exact {
      contains := hcontains
      modulePath_eq := rfl
      symbol := ⟨fileAddress, symbol, hfile, hdistance, hgreatest, rfl,
        Image.toRuntime?_exact hextent hplaced hfile hgreatest.le hfound⟩
      address_le := Image.toNat_le_of_toRuntime? hfile hgreatest.le hfound }
  case none =>
    intro a
    rw [nearest_eq_bind sound]
    rcases image.mapping.toFile? a with _ | fileAddress
    · simp
    · have hruntime : ∀ address,
          image.mapping.toRuntime? address = (image.eager reader).toRuntime? address := fun _ => rfl
      have hnone : (image.eager reader).siteAt? fileAddress = none ↔ _ := Image.siteAt?_eq_none_iff
      simp only [Image.lastSymbol?_eq_none_iff sorted, Image.lastSymbol?_eq_some_iff sorted,
        htable] at hnone
      simpa [hruntime] using hnone
  case order =>
    intro otherReader otherFiles otherBytes other hotherBytes hotherRead hother
    have hotherLoad := Image.load_eq_ok_iff.2 ⟨otherBytes, other, hotherBytes, hotherRead,
      (hother.map?_eq path loadAddress).trans (congrArg _ hmap)⟩
    refine ⟨exists_loaded hotherLoad, fun otherImage hotherImage a => ?_⟩
    obtain ⟨hotherEager, hotherSound⟩ := hotherImage.spec
    rw [hotherLoad, Except.ok.injEq] at hotherEager
    rw [nearest_eq_bind hotherSound, nearest_eq_bind sound, ← eager_toFile?, ← hotherEager]
    have hkeys : other.symbolTable.map CodeSymbol.key =
        (image.eager reader).symbols.map CodeSymbol.key := by
      rw [htable, hother.listsSame.map_key_symbolTable_eq]
    let rearranged : Image := { image.eager reader with symbols := other.symbolTable }
    have hsites : rearranged.siteAt? = (image.eager reader).siteAt? :=
      funext (Image.siteAt?_eq_of_map_key_eq rfl rfl hkeys)
    exact congrArg _ hsites

/-- A shared object of two functions at `0x1010`, with their names told by where they stand in the
string table: `run` at 1 and `go` at 5. -/
def twoFunctions (firstName secondName : UInt8) : ByteArray := ⟨#[
  -- The header.
  0x7f, 0x45, 0x4c, 0x46, 1, 1, 1, 0, 0, 0, 0, 0, 0, 0, 0, 0,
  3, 0, 3, 0, 1, 0, 0, 0, 0, 0, 0, 0, 0x34, 0, 0, 0,
  0x8c, 0, 0, 0, 0, 0, 0, 0, 0x34, 0, 0x20, 0, 1, 0, 0x28, 0,
  3, 0, 2, 0,
  -- The page from `0x1000` on.
  1, 0, 0, 0, 0, 0, 0, 0, 0, 0x10, 0, 0, 0, 0x10, 0, 0,
  0, 0x10, 0, 0, 0, 0x10, 0, 0, 5, 0, 0, 0, 0, 0x10, 0, 0,
  -- The symbols, and their names.
  0, 0, 0, 0, 0, 0, 0, 0, 0, 0, 0, 0, 0, 0, 0, 0,
  firstName, 0, 0, 0, 0x10, 0x10, 0, 0, 0x20, 0, 0, 0, 0x12, 0, 1, 0,
  secondName, 0, 0, 0, 0x10, 0x10, 0, 0, 0x20, 0, 0, 0, 0x12, 0, 1, 0,
  0, 0x72, 0x75, 0x6e, 0, 0x67, 0x6f, 0,
  -- The sections: none, the symbols, the names.
  0, 0, 0, 0, 0, 0, 0, 0, 0, 0, 0, 0, 0, 0, 0, 0,
  0, 0, 0, 0, 0, 0, 0, 0, 0, 0, 0, 0, 0, 0, 0, 0,
  0, 0, 0, 0, 0, 0, 0, 0, 0, 0, 0, 0, 2, 0, 0, 0,
  0, 0, 0, 0, 0, 0, 0, 0, 0x54, 0, 0, 0, 0x30, 0, 0, 0,
  2, 0, 0, 0, 1, 0, 0, 0, 0, 0, 0, 0, 0x10, 0, 0, 0,
  0, 0, 0, 0, 3, 0, 0, 0, 0, 0, 0, 0, 0, 0, 0, 0,
  0x84, 0, 0, 0, 8, 0, 0, 0, 0, 0, 0, 0, 0, 0, 0, 0,
  0, 0, 0, 0, 0, 0, 0, 0]⟩

/-- What is stored in it. -/
def twoFunctionsReport (firstName secondName : String) : ObjectFile where
  format := .elf
  segments := [⟨none, 0x1000, 0x1000⟩]
  sections := [⟨0, 0x30⟩, ⟨0, 8⟩]
  staticSymbols :=
    [⟨some firstName, 0x1010, 0x20, true, true⟩, ⟨some secondName, 0x1010, 0x20, true, true⟩]
  dynamicSymbols := []

/-- The names of the two functions stand in the file in either order. -/
theorem reader_twoFunctions :
    ObjectFile.reader (twoFunctions 1 5) = .ok (twoFunctionsReport "run" "go") ∧
      ObjectFile.reader (twoFunctions 5 1) = .ok (twoFunctionsReport "go" "run") :=
  ⟨Image.reader_eq_ok_of_toOption (by decide +kernel),
    Image.reader_eq_ok_of_toOption (by decide +kernel)⟩

/-- The object before any question. -/
def twoFunctionsImage (bytes : ByteArray) : LazyImage where
  path := "run.so"
  bytes
  slide := (0x555500000000 : UInt64).toInt64 - (0x1000 : UInt64).toInt64
  range := AddressRange.ofSize 0x555500000000 0x1000
  table := none

/-- The object is loaded whichever of the two names comes first. -/
theorem loaded_twoFunctions {reader : ObjectReader} {bytes : ByteArray} {first second : String}
    (hread : reader bytes = .ok (twoFunctionsReport first second)) :
    Loaded reader (fun _ => .ok bytes) "run.so" (some ⟨0x555500000000⟩)
      (twoFunctionsImage bytes) := by
  have hextent : (twoFunctionsReport first second).extent? =
      some (AddressRange.ofSize 0x1000 0x1000) := rfl
  refine .load ?_
  simp only [LazyImage.load, Image.ofBytes, hread, Image.map?_some _ hextent]
  rfl

/-- At one address the names decide the order of the table. -/
theorem symbolTable_twoFunctions :
    (twoFunctionsReport "run" "go").symbolTable =
      [⟨"go", 0x1010, 0x20⟩, ⟨"run", 0x1010, 0x20⟩] := by
  let run : CodeSymbol := ⟨"run", 0x1010, 0x20⟩
  let go : CodeSymbol := ⟨"go", 0x1010, 0x20⟩
  have hlisted : (twoFunctionsReport "run" "go").symbols.filterMap
      (ObjectSymbol.tableEntry? (twoFunctionsReport "run" "go").format) = [run, go] := by
    decide
  have hafter : run.le go = false := by decide +kernel
  have hsorted : [run, go].mergeSort CodeSymbol.le = [go, run] := by
    simp [List.mergeSort, List.MergeSort.Internal.splitInTwo, hafter]
  rw [ObjectFile.symbolTable, hlisted, hsorted]
  decide +kernel

/-- Both functions start below the one address and the last of their names is given, in whichever
order they are listed; below the other address there is none. -/
theorem nearest_exact_twoFunctions :
    let reader := ObjectFile.reader
    let image := twoFunctionsImage (twoFunctions 1 5)
    let swapped := twoFunctionsImage (twoFunctions 5 1)
    Loaded reader (fun _ => .ok (twoFunctions 1 5)) "run.so" (some ⟨0x555500000000⟩) image ∧
      (∃ site, (image.nearest reader ⟨0x555500000034⟩).1 = some site ∧
        (swapped.nearest reader ⟨0x555500000034⟩).1 = some site ∧
        site.name.text = "run" ∧ site.address = ⟨0x555500000010⟩) ∧
      (image.nearest reader ⟨0x55550000000f⟩).1 = none := by
  intro reader image swapped
  have hloaded := loaded_twoFunctions reader_twoFunctions.1
  obtain ⟨bytes, file, lowest, hbytes, hread, hlowest, hanswer, hnone, horder⟩ :=
    nearest_exact hloaded
  cases hbytes
  rw [reader_twoFunctions.1] at hread
  cases hread
  obtain ⟨range, hrange, rfl⟩ := hlowest.mem
  obtain rfl : range = AddressRange.ofSize 0x1000 0x1000 := List.mem_singleton.1 hrange
  rw [symbolTable_twoFunctions] at hnone hanswer
  have horder := horder reader (fun _ => .ok (twoFunctions 5 1)) _ _ rfl reader_twoFunctions.2
    ⟨rfl, rfl, rfl, .swap _ _ _, .refl _⟩
  have hswapped := horder.2 _ (loaded_twoFunctions reader_twoFunctions.2)
  have hplace : image.mapping.toFile? ⟨0x555500000034⟩ = some ⟨0x1034⟩ := by decide
  refine ⟨hloaded, ?_, (hnone _).2 (.inr ⟨⟨0x100f⟩, by decide, .inl (by decide)⟩)⟩
  rcases hsite : (image.nearest reader ⟨0x555500000034⟩).1 with _ | site
  · -- The address is taken to the file, symbols lie below it, and their address is taken back.
    exfalso
    rcases (hnone _).1 hsite with hfile | ⟨fileAddress, hfile, hlow | ⟨symbol, hsymbol, hback⟩⟩
    · rw [hplace] at hfile
      cases hfile
    · rw [hplace] at hfile
      cases hfile
      exact absurd hlow (by decide)
    · have haddress : ∀ symbol ∈ [CodeSymbol.mk "go" 0x1010 0x20, ⟨"run", 0x1010, 0x20⟩],
          symbol.address = 0x1010 := by decide
      rw [haddress symbol hsymbol.mem] at hback
      exact absurd hback (by decide)
  · obtain ⟨-, -, ⟨fileAddress, symbol, hfile, -, hgreatest, hname, hstart⟩, -⟩ :=
      hanswer _ _ hsite
    rw [hplace] at hfile
    cases hfile
    have hrun := hgreatest.greatest ⟨"run", 0x1010, 0x20⟩ (by decide) (by decide)
    have hlast : symbol.key = ⟨0x1010, "run"⟩ := by
      rcases List.mem_pair.1 hgreatest.mem with rfl | rfl
      · exact absurd hrun (by decide +kernel)
      · rfl
    obtain ⟨haddress, hsame⟩ := SymbolKey.mk.inj hlast
    refine ⟨site, rfl, (hswapped _).trans hsite, hname.trans hsame, Address.ext_toNat ?_⟩
    rw [haddress] at hstart
    exact Int.ofNat.inj hstart

end LazyImage

end SymbolTrace
