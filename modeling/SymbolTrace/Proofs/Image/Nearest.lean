import SymbolTrace.Image.Load
import SymbolTrace.Proofs.Image.SymbolTable

/-!
# The symbol that an address belongs to

The table of a file is in the order of the addresses, so what stands in front of the first symbol
above an address are the symbols at or below it, and the last of these is the nearest one. The
addresses of the table are those of the file. The address asked for is taken there by adding the
slide's negative, and the answer is taken back by adding the slide. Both are refused where they
leave the address space, so they are exact where they give an answer, and the answer never lies
above the address asked for.

## Main results

* `ObjectFile.symbolTable_pairwise`, `ObjectFile.name_ne_empty`: what holds of every table.
* `IsNearest`, `Image.isNearest_of_lastSymbol?`: which symbol is found.
* `Image.nearest?_eq_some`: what is known of an answer.
-/

namespace SymbolTrace

/-! ### The table -/

namespace ObjectFile

/-- The table is in the order of the addresses. -/
theorem symbolTable_pairwise (file : ObjectFile) :
    file.symbolTable.Pairwise fun a b => a.address ≤ b.address :=
  file.pairwise_before_symbolTable.imp SymbolKey.Before.address_le

/-- No symbol of the table has an empty name. -/
theorem name_ne_empty {file : ObjectFile} {symbol : CodeSymbol} (h : symbol ∈ file.symbolTable) :
    symbol.name ≠ "" := by
  obtain ⟨entry, -, hdefines⟩ := mem_map_key_symbolTable_iff.1 (List.mem_map_of_mem h)
  exact hdefines.name_ne

end ObjectFile

/-! ### The nearest symbol -/

/-- The symbol lies at or below an address, and no other of the symbols lies between the two. -/
structure IsNearest (symbols : List CodeSymbol) (limit : UInt64) (symbol : CodeSymbol) : Prop where
  mem : symbol ∈ symbols
  le : symbol.address ≤ limit
  not_between : ∀ other ∈ symbols, ¬ (symbol.address < other.address ∧ other.address ≤ limit)

/-- Of symbols in order, those from the first one above an address on all lie above it. -/
theorem lt_of_mem_dropWhile {symbols : List CodeSymbol} {limit : UInt64} {symbol : CodeSymbol}
    (sorted : symbols.Pairwise fun a b => a.address ≤ b.address)
    (h : symbol ∈ symbols.dropWhile fun symbol => symbol.address ≤ limit) :
    limit < symbol.address := by
  induction symbols with
  | nil => cases h
  | cons first rest ih =>
      obtain ⟨hfirst, hrest⟩ := List.pairwise_cons.1 sorted
      rw [List.dropWhile_cons] at h
      split at h
      · exact ih hrest h
      · rename_i habove
        have habove : limit < first.address := UInt64.not_le.1 (by simpa using habove)
        rcases List.mem_cons.1 h with rfl | hmem
        · exact habove
        · exact UInt64.lt_of_lt_of_le habove (hfirst symbol hmem)

namespace Image

/-- The symbol that is found is the nearest one. -/
theorem isNearest_of_lastSymbol? {image : Image} {fileAddress : Address} {symbol : CodeSymbol}
    (sorted : image.symbols.Pairwise fun a b => a.address ≤ b.address)
    (h : image.lastSymbol? fileAddress = some symbol) :
    IsNearest image.symbols fileAddress.value symbol := by
  obtain ⟨before, hbefore⟩ := List.getLast?_eq_some_iff.1 h
  have hmem : symbol ∈ image.symbols.takeWhile fun symbol =>
      symbol.address ≤ fileAddress.value := by
    rw [hbefore]
    exact List.mem_append_right before List.mem_cons_self
  refine ⟨(List.takeWhile_sublist _).mem hmem, ?_, ?_⟩
  · simpa using List.all_eq_true.1 List.all_takeWhile symbol hmem
  · rintro other hother ⟨habove, hle⟩
    rw [← List.takeWhile_append_dropWhile (p := fun symbol => symbol.address ≤ fileAddress.value)
      (l := image.symbols), List.mem_append] at hother
    rcases hother with hother | hother
    · -- It stands among those in front of the symbol found, or is that symbol.
      have htaken := sorted.sublist (List.takeWhile_sublist fun symbol =>
        symbol.address ≤ fileAddress.value)
      rw [hbefore] at hother htaken
      have hfront := (List.pairwise_append.1 htaken).2.2
      rcases List.mem_append.1 hother with hother | hother
      · exact UInt64.not_le.2 habove (hfront other hother symbol List.mem_cons_self)
      · obtain rfl := List.mem_singleton.1 hother
        exact UInt64.lt_irrefl _ habove
    · exact UInt64.not_le.2 (lt_of_mem_dropWhile sorted hother) hle

/-! ### There and back -/

/-- A signed word's negative is exact but for the least word, which is its own negative. -/
theorem toInt_neg_eq (slide : Int64) :
    (-slide).toInt = -slide.toInt ∨
      slide.toInt = -9223372036854775808 ∧ (-slide).toInt = -9223372036854775808 := by
  have hlow := slide.le_toInt
  have hhigh := slide.toInt_lt
  rw [Int64.toInt_neg, Int.bmod_def]
  split <;> omega

/-- A symbol at or below an address of the file that is taken back lies at or below the address
at run time. With the least slide, nothing that lies so low is taken back. -/
theorem toNat_le_of_toRuntime? {image : Image} {a fileAddress start : Address} {address : UInt64}
    (hfile : image.toFile? a = some fileAddress) (hle : address ≤ fileAddress.value)
    (hstart : image.toRuntime? ⟨address⟩ = some start) : start.toNat ≤ a.toNat := by
  unfold toFile? at hfile
  split at hfile
  · have ha := a.toNat_lt
    have hle := UInt64.le_iff_toNat_le.1 hle
    rw [Address.shift?_eq_some_iff] at hfile
    rw [toRuntime?, Address.shift?_eq_some_iff] at hstart
    simp only [Address.toNat, UInt64.size] at *
    rcases toInt_neg_eq image.slide with hslide | ⟨hslide, hslide'⟩ <;> omega
  · cases hfile

/-- **An answer about an address.** The image covers the address and translates it to the file. The
symbol named is the nearest one there, and where it starts at run time is not above the address. -/
theorem nearest?_eq_some {image : Image} {a start : Address} {name : String}
    (sorted : image.symbols.Pairwise fun a b => a.address ≤ b.address)
    (h : image.nearest? a = some (name, start)) :
    ∃ fileAddress symbol, image.toFile? a = some fileAddress ∧
      IsNearest image.symbols fileAddress.value symbol ∧ symbol.name = name ∧
      image.toRuntime? ⟨symbol.address⟩ = some start ∧ start.toNat ≤ a.toNat := by
  simp only [nearest?, Option.bind_eq_bind, Option.bind_eq_some_iff, Option.pure_def,
    Option.some.injEq, Prod.mk.injEq] at h
  obtain ⟨fileAddress, hfile, symbol, hsymbol, _, hstart, rfl, rfl⟩ := h
  have hnearest := isNearest_of_lastSymbol? sorted hsymbol
  exact ⟨fileAddress, symbol, hfile, hnearest, rfl, hstart,
    toNat_le_of_toRuntime? hfile hnearest.le hstart⟩

end Image

end SymbolTrace
