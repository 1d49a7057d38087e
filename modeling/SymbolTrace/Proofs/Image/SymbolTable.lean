import Mathlib.Data.List.Sort
import SymbolTrace.Image
import SymbolTrace.Text.Utf8

/-!
# What stands in a symbol table

The table of a file is its code symbols, sorted by address and name, without repetitions. To drop
them each entry is compared with the one right before it only. That is enough because sorting puts
the entries of one address and name side by side. It also leaves them in the order of the file, so
of each address and name the file's first entry stays, and its size is the one in the table.

So the addresses and names in a table are those that the file defines, in whichever order and
however often it lists them.

## Main results

* `CodeSymbol.mem_dropRepeats_iff`: which of the sorted entries stay.
* `CodeSymbol.find?_mergeSort`: sorting leaves the first entry of an address and name the first.
* `ObjectFile.mem_symbolTable_iff`: which entries of the file stand in the table.
* `ObjectFile.ListsSame.map_key_symbolTable_eq`: what the table does not depend on.
* `ObjectFile.symbolTable_exact`: the whole table.
-/

namespace SymbolTrace

open Text

/-! ### Keys -/

/-- An address and a name, which tell the entries of a table apart. -/
structure SymbolKey where
  address : UInt64
  name : String
deriving DecidableEq, Repr

namespace SymbolKey

/-- A lower address or, at the same address, a name that is lower byte by byte. -/
def Before (a b : SymbolKey) : Prop :=
  a.address < b.address ∨ a.address = b.address ∧ a.name.toUTF8.toList < b.name.toUTF8.toList

instance (a b : SymbolKey) : Decidable (a.Before b) :=
  inferInstanceAs (Decidable (_ ∨ _))

/-- No key comes before itself. -/
theorem Before.irrefl (a : SymbolKey) : ¬ a.Before a := by
  rintro (hlt | ⟨-, hlt⟩)
  · exact UInt64.lt_irrefl _ hlt
  · exact List.lt_irrefl _ hlt

/-- What comes before a key comes before all later ones. -/
theorem Before.trans {a b c : SymbolKey} (hab : a.Before b) (hbc : b.Before c) : a.Before c := by
  obtain ⟨address, name⟩ := b
  rcases hab with hab | ⟨rfl, hab⟩
  · rcases hbc with hbc | ⟨rfl, -⟩
    · exact .inl (UInt64.lt_trans hab hbc)
    · exact .inl hab
  · rcases hbc with hbc | ⟨heq, hbc⟩
    · exact .inl hbc
    · exact .inr ⟨heq, List.lt_trans hab hbc⟩

/-- Of two keys at most one comes first. -/
theorem Before.asymm {a b : SymbolKey} (hab : a.Before b) : ¬ b.Before a :=
  fun hba => Before.irrefl a (hab.trans hba)

/-- Earlier keys do not lie above later ones. -/
theorem Before.address_le {a b : SymbolKey} (h : a.Before b) : a.address ≤ b.address := by
  rcases h with hlt | ⟨heq, -⟩
  · exact UInt64.le_of_lt hlt
  · exact UInt64.le_of_eq heq

instance : Std.Irrefl Before := ⟨Before.irrefl⟩

instance : Std.Antisymm Before := ⟨fun _ _ hab hba => absurd hba hab.asymm⟩

end SymbolKey

namespace CodeSymbol

/-- The address and the name of a symbol. -/
def key (symbol : CodeSymbol) : SymbolKey := ⟨symbol.address, symbol.name⟩

/-- Names of the same bytes are the same name. -/
theorem name_eq_of_nameBytes_eq {a b : CodeSymbol} (h : a.nameBytes = b.nameBytes) :
    a.name = b.name := by
  unfold nameBytes at h
  rw [toList_eq, toList_eq, Array.toList_inj, ← ByteArray.ext_iff] at h
  exact String.toByteArray_inj.1 h

/-- Entries are the same if their keys are. -/
theorem sameEntry_iff {a b : CodeSymbol} : a.sameEntry b = true ↔ a.key = b.key := by
  simp [sameEntry, key]

/-- Entries are ordered by address, and at one address by the bytes of their names. -/
theorem le_iff {a b : CodeSymbol} :
    a.le b = true ↔ a.address < b.address ∨ a.address = b.address ∧ a.nameBytes ≤ b.nameBytes := by
  simp [le]

/-- Entries in order have keys in order, or the same key. -/
theorem le_iff_before {a b : CodeSymbol} :
    a.le b = true ↔ a.key.Before b.key ∨ a.key = b.key := by
  rw [le_iff, List.le_iff_lt_or_eq]
  constructor
  · rintro (hlt | ⟨heq, hlt | hbytes⟩)
    · exact .inl (.inl hlt)
    · exact .inl (.inr ⟨heq, hlt⟩)
    · exact .inr (SymbolKey.mk.injEq .. ▸ ⟨heq, name_eq_of_nameBytes_eq hbytes⟩)
  · rintro ((hlt | ⟨heq, hlt⟩) | hkey)
    · exact .inl hlt
    · exact .inr ⟨heq, .inl hlt⟩
    · obtain ⟨haddress, hname⟩ := SymbolKey.mk.inj hkey
      exact .inr ⟨haddress, .inr (congrArg (fun name => name.toUTF8.toList) hname)⟩

/-- Entries of one key are the same entry as the same others. -/
theorem sameEntry_eq_of_key_eq {a b : CodeSymbol} (h : a.key = b.key) :
    a.sameEntry = b.sameEntry := by
  funext other
  rw [Bool.eq_iff_iff, sameEntry_iff, sameEntry_iff, h]

/-- Entries of one key may stand in either order. -/
theorem le_of_key_eq {a b : CodeSymbol} (h : a.key = b.key) : a.le b = true :=
  le_iff_before.2 (.inr h)

/-- The order of the table is transitive. -/
theorem le_trans (a b c : CodeSymbol) (hab : a.le b = true) (hbc : b.le c = true) :
    a.le c = true := by
  rw [le_iff_before] at *
  rcases hab with hab | hab
  · rcases hbc with hbc | hbc
    · exact .inl (hab.trans hbc)
    · exact .inl (hbc ▸ hab)
  · rwa [hab]

/-- Any two entries can be ordered. -/
theorem le_total (a b : CodeSymbol) : (a.le b || b.le a) = true := by
  rw [Bool.or_eq_true, le_iff, le_iff]
  by_cases h : a.address = b.address
  · rcases List.le_total a.nameBytes b.nameBytes with hnames | hnames
    · exact .inl (.inr ⟨h, hnames⟩)
    · exact .inr (.inr ⟨h.symm, hnames⟩)
  · rcases UInt64.lt_or_lt_of_ne h with hlt | hlt
    · exact .inl (.inl hlt)
    · exact .inr (.inl hlt)

/-! ### Repetitions -/

/-- Dropping repeats changes no order. -/
theorem dropRepeatsAfter_sublist (last : CodeSymbol) (symbols : List CodeSymbol) :
    (dropRepeatsAfter last symbols).Sublist symbols := by
  induction symbols generalizing last with
  | nil => exact .slnil
  | cons symbol rest ih =>
      rw [dropRepeatsAfter]
      split
      · exact (ih last).cons symbol
      · exact (ih symbol).cons_cons symbol

section

variable {symbols : List CodeSymbol} {last next symbol : CodeSymbol}

/-- In a list in order, a new key stands before none that was there already. -/
theorem before_of_new (sorted : (last :: next :: symbols).Pairwise fun a b => a.le b = true)
    (hnew : last.key ≠ next.key) (h : symbol ∈ next :: symbols) : last.key.Before symbol.key := by
  obtain ⟨hlast, hrest⟩ := List.pairwise_cons.1 sorted
  have hnext := (le_iff_before.1 (hlast next List.mem_cons_self)).resolve_right hnew
  rcases List.mem_cons.1 h with rfl | hmem
  · exact hnext
  · rcases le_iff_before.1 ((List.pairwise_cons.1 hrest).1 symbol hmem) with hbefore | hkey
    · exact hnext.trans hbefore
    · rwa [← hkey]

/-- Of entries in order, the first of each key stay. -/
theorem mem_cons_dropRepeatsAfter_iff
    (sorted : (last :: symbols).Pairwise fun a b => a.le b = true) :
    symbol ∈ last :: dropRepeatsAfter last symbols ↔
      (last :: symbols).find? symbol.sameEntry = some symbol := by
  induction symbols generalizing last with
  | nil =>
      rw [dropRepeatsAfter, List.mem_singleton, List.find?_singleton]
      constructor
      · rintro rfl
        rw [if_pos (sameEntry_iff.2 rfl)]
      · intro h
        split at h
        · exact (Option.some.inj h).symm
        · cases h
  | cons next rest ih =>
      rw [dropRepeatsAfter]
      split
      · -- A repetition is dropped, and a search that passes `last` passes it too.
        rename_i hrepeat
        have hkey := sameEntry_iff.1 hrepeat
        rw [ih (sorted.sublist (.cons_cons last (List.sublist_cons_self next rest)))]
        by_cases hlast : symbol.sameEntry last = true
        · rw [List.find?_cons_of_pos hlast, List.find?_cons_of_pos hlast]
        · have hnext : ¬ symbol.sameEntry next = true := by
            rwa [sameEntry_iff, ← hkey, ← sameEntry_iff]
          rw [List.find?_cons_of_neg hlast, List.find?_cons_of_neg hlast,
            List.find?_cons_of_neg hnext]
      · rename_i hnew
        rw [sameEntry_iff] at hnew
        rw [List.mem_cons, ih (List.pairwise_cons.1 sorted).2]
        by_cases hlast : symbol.sameEntry last = true
        · -- No later entry has the key of `last`.
          rw [List.find?_cons_of_pos hlast, Option.some.injEq, eq_comm (a := symbol)]
          refine or_iff_left fun hlater => ?_
          have hbefore := before_of_new sorted hnew (List.mem_of_find?_eq_some hlater)
          rw [← sameEntry_iff.1 hlast] at hbefore
          exact hbefore.irrefl
        · rw [List.find?_cons_of_neg hlast]
          refine or_iff_right ?_
          rintro rfl
          exact hlast (sameEntry_iff.2 rfl)

/-- What stays is strictly in order. -/
theorem pairwise_cons_dropRepeatsAfter
    (sorted : (last :: symbols).Pairwise fun a b => a.le b = true) :
    (last :: dropRepeatsAfter last symbols).Pairwise fun a b => a.key.Before b.key := by
  induction symbols generalizing last with
  | nil => exact List.pairwise_singleton ..
  | cons next rest ih =>
      rw [dropRepeatsAfter]
      split
      · exact ih (sorted.sublist (.cons_cons last (List.sublist_cons_self next rest)))
      · rename_i hnew
        rw [sameEntry_iff] at hnew
        refine List.pairwise_cons.2 ⟨fun symbol hmem => ?_, ih (List.pairwise_cons.1 sorted).2⟩
        exact before_of_new sorted hnew
          (((dropRepeatsAfter_sublist next rest).cons_cons next).mem hmem)

/-- Of the entries of one key the first is kept. -/
theorem mem_dropRepeats_iff (sorted : symbols.Pairwise fun a b => a.le b = true) :
    symbol ∈ dropRepeats symbols ↔ symbols.find? symbol.sameEntry = some symbol := by
  cases symbols with
  | nil => simp [dropRepeats]
  | cons first rest => exact mem_cons_dropRepeatsAfter_iff sorted

/-- Without repeats the keys increase strictly. -/
theorem pairwise_dropRepeats (sorted : symbols.Pairwise fun a b => a.le b = true) :
    (dropRepeats symbols).Pairwise fun a b => a.key.Before b.key := by
  cases symbols with
  | nil => exact .nil
  | cons first rest => exact pairwise_cons_dropRepeatsAfter sorted

end

/-! ### Sorting -/

/-- Sorting puts entries in order. -/
theorem pairwise_mergeSort (symbols : List CodeSymbol) :
    (symbols.mergeSort le).Pairwise fun a b => a.le b = true :=
  List.pairwise_mergeSort le_trans le_total symbols

/-- Entries of one key are in order as they are, so sorting leaves them so. -/
theorem filter_mergeSort (symbols : List CodeSymbol) (symbol : CodeSymbol) :
    (symbols.mergeSort le).filter symbol.sameEntry = symbols.filter symbol.sameEntry := by
  have halike : (symbols.filter symbol.sameEntry).Pairwise fun a b => a.le b = true := by
    refine List.pairwise_of_forall_mem_list fun a ha b hb => le_of_key_eq ?_
    have hka := sameEntry_iff.1 (List.of_mem_filter ha)
    have hkb := sameEntry_iff.1 (List.of_mem_filter hb)
    rw [← hka, hkb]
  have hsublist : (symbols.filter symbol.sameEntry).Sublist (symbols.mergeSort le) :=
    List.sublist_mergeSort le_trans le_total halike List.filter_sublist
  have hkept := hsublist.filter symbol.sameEntry
  simp only [List.filter_filter, Bool.and_self] at hkept
  have hlength := ((List.mergeSort_perm symbols le).filter symbol.sameEntry).length_eq
  exact (hkept.eq_of_length hlength.symm).symm

/-- Sorting leaves the first entry of a key the first. -/
theorem find?_mergeSort (symbols : List CodeSymbol) (symbol : CodeSymbol) :
    (symbols.mergeSort le).find? symbol.sameEntry = symbols.find? symbol.sameEntry := by
  rw [← List.head?_filter, filter_mergeSort, List.head?_filter]

end CodeSymbol

/-! ### What a file defines -/

/-- The source code's name of a linkage name: in Mach-O an underscore in front is left out, one at
most. -/
def ObjectFormat.Spells (format : ObjectFormat) (name linkage : String) : Prop :=
  match format with
  | .machO => linkage = "_" ++ name ∨ linkage = name ∧ ¬ ∃ rest, linkage = "_" ++ rest
  | .elf | .coff | .pe | .xcoff => linkage = name

/-- A name is spelled as its format does it. -/
theorem ObjectFormat.sourceName_eq_iff {format : ObjectFormat} {name linkage : String} :
    format.sourceName linkage = name ↔ format.Spells name linkage := by
  have hmark : ∀ rest : String, linkage = "_" ++ rest ↔ linkage.toList = '_' :: rest.toList := by
    intro rest
    rw [← String.toList_inj, String.toList_append]
    rfl
  unfold sourceName Spells
  cases format with
  | elf | coff | pe | xcoff => exact Iff.rfl
  | machO =>
      split
      · rename_i rest _ hrest
        obtain rfl : linkage = "_" ++ String.ofList rest := by rwa [hmark, String.toList_ofList]
        simp [String.append_right_inj, eq_comm]
      · rename_i hnone
        have hplain : ∀ rest, linkage ≠ "_" ++ rest :=
          fun rest heq => hnone rest.toList rfl ((hmark rest).1 heq)
        simp [hplain]

/-- The entry of a symbol table defines code at an address, and its name can be read and is not
empty. -/
structure ObjectSymbol.DefinesCode (format : ObjectFormat) (entry : ObjectSymbol)
    (key : SymbolKey) : Prop where
  isDefinition : entry.isDefinition = true
  isText : entry.isText = true
  address_eq : entry.address = key.address
  spells : ∃ linkage, entry.name = some linkage ∧ format.Spells key.name linkage
  name_ne : key.name ≠ ""

/-- A symbol has an entry if it defines code under a name. -/
theorem ObjectSymbol.tableEntry?_eq_some_iff {format : ObjectFormat} {entry : ObjectSymbol}
    {symbol : CodeSymbol} :
    entry.tableEntry? format = some symbol ↔
      entry.DefinesCode format symbol.key ∧ entry.size = symbol.size := by
  obtain ⟨name, address, size⟩ := symbol
  unfold tableEntry?
  constructor
  · intro h
    split at h
    · rename_i hcode
      rw [Bool.and_eq_true] at hcode
      split at h
      · cases h
      rename_i linkage hlinkage
      split at h
      · cases h
      rename_i hname
      cases h
      exact ⟨⟨hcode.1, hcode.2, rfl, ⟨linkage, hlinkage, ObjectFormat.sourceName_eq_iff.1 rfl⟩,
        hname⟩, rfl⟩
    · cases h
  · rintro ⟨⟨hdefinition, htext, haddress, ⟨linkage, hlinkage, hspells⟩, hname⟩, hsize⟩
    obtain rfl := ObjectFormat.sourceName_eq_iff.2 hspells
    obtain rfl : entry.address = address := haddress
    obtain rfl : entry.size = size := hsize
    simp only [hdefinition, htext, hlinkage, Bool.and_self, if_true]
    exact if_neg hname

namespace ObjectFile

/-- The file lists code of an address and a name, in one table or in both. -/
def DefinesCode (file : ObjectFile) (key : SymbolKey) : Prop :=
  ∃ entry ∈ file.staticSymbols ++ file.dynamicSymbols, entry.DefinesCode file.format key

/-- The symbol is the file's first entry of its address and name, static entries coming first. -/
def FirstListed (file : ObjectFile) (symbol : CodeSymbol) : Prop :=
  ∃ before entry after, file.staticSymbols ++ file.dynamicSymbols = before ++ entry :: after ∧
    entry.DefinesCode file.format symbol.key ∧ entry.size = symbol.size ∧
    ∀ other ∈ before, ¬ other.DefinesCode file.format symbol.key

/-- Two files list the same symbols but for their sizes, whichever the order, the table and the
number. -/
structure ListsSame (other file : ObjectFile) : Prop where
  format_eq : other.format = file.format
  mem_iff : ∀ entry : ObjectSymbol,
    (∃ size, { entry with size } ∈ other.staticSymbols ++ other.dynamicSymbols) ↔
      ∃ size, { entry with size } ∈ file.staticSymbols ++ file.dynamicSymbols

/-- To define code, an entry may have any size. -/
theorem definesCode_iff_exists_size {file : ObjectFile} {key : SymbolKey} :
    file.DefinesCode key ↔
      ∃ entry : ObjectSymbol, entry.DefinesCode file.format key ∧
        ∃ size, { entry with size } ∈ file.staticSymbols ++ file.dynamicSymbols := by
  constructor
  · rintro ⟨entry, hentry, hdefines⟩
    exact ⟨entry, hdefines, entry.size, hentry⟩
  · rintro ⟨entry, ⟨hdefinition, htext, haddress, hspells, hname⟩, size, hentry⟩
    exact ⟨_, hentry, hdefinition, htext, haddress, hspells, hname⟩

/-- Files that list the same symbols define the same code. -/
theorem ListsSame.definesCode_iff {file other : ObjectFile} (h : other.ListsSame file)
    (key : SymbolKey) : other.DefinesCode key ↔ file.DefinesCode key := by
  rw [definesCode_iff_exists_size, definesCode_iff_exists_size, h.format_eq]
  exact exists_congr fun entry => and_congr_right fun _ => h.mem_iff entry

/-! ### The table -/

/-- The code symbols that the file lists, with repetitions. -/
def listed (file : ObjectFile) : List CodeSymbol :=
  file.symbols.filterMap (ObjectSymbol.tableEntry? file.format)

/-- The table is strictly in order. -/
theorem pairwise_before_symbolTable (file : ObjectFile) :
    file.symbolTable.Pairwise fun a b => a.key.Before b.key :=
  CodeSymbol.pairwise_dropRepeats (CodeSymbol.pairwise_mergeSort _)

/-- The table holds the first entry of each key that the file lists. -/
theorem mem_symbolTable_iff_find? {file : ObjectFile} {symbol : CodeSymbol} :
    symbol ∈ file.symbolTable ↔ file.listed.find? symbol.sameEntry = some symbol := by
  rw [symbolTable, CodeSymbol.mem_dropRepeats_iff (CodeSymbol.pairwise_mergeSort _),
    CodeSymbol.find?_mergeSort]
  rfl

/-- In the table stands the file's first entry of each key. -/
theorem mem_symbolTable_iff {file : ObjectFile} {symbol : CodeSymbol} :
    symbol ∈ file.symbolTable ↔ file.FirstListed symbol := by
  have hfinds : ∀ entry : ObjectSymbol,
      (entry.tableEntry? file.format).any symbol.sameEntry = true ↔
        entry.DefinesCode file.format symbol.key := by
    intro entry
    rw [Option.any_eq_true]
    constructor
    · rintro ⟨found, hfound, hsame⟩
      rw [CodeSymbol.sameEntry_iff.1 hsame]
      exact (ObjectSymbol.tableEntry?_eq_some_iff.1 hfound).1
    · intro hentry
      exact ⟨⟨symbol.name, symbol.address, entry.size⟩,
        ObjectSymbol.tableEntry?_eq_some_iff.2 ⟨hentry, rfl⟩, CodeSymbol.sameEntry_iff.2 rfl⟩
  rw [mem_symbolTable_iff_find?, listed, List.find?_filterMap, Option.bind_eq_some_iff]
  constructor
  · rintro ⟨entry, hfirst, hentry⟩
    obtain ⟨-, before, after, hsplit, hbefore⟩ := List.find?_eq_some_iff_append.1 hfirst
    obtain ⟨hdefines, hsize⟩ := ObjectSymbol.tableEntry?_eq_some_iff.1 hentry
    refine ⟨before, entry, after, hsplit, hdefines, hsize, fun other hother hdefines => ?_⟩
    simpa [(hfinds other).2 hdefines] using hbefore other hother
  · rintro ⟨before, entry, after, hsplit, hdefines, hsize, hbefore⟩
    refine ⟨entry, List.find?_eq_some_iff_append.2 ⟨(hfinds entry).2 hdefines, before, after,
      hsplit, fun other hother => ?_⟩, ObjectSymbol.tableEntry?_eq_some_iff.2 ⟨hdefines, hsize⟩⟩
    rw [Bool.not_eq_true', ← Bool.not_eq_true, hfinds]
    exact hbefore other hother

/-- The keys of the table are those of the code that the file lists. -/
theorem mem_map_key_symbolTable_iff {file : ObjectFile} {key : SymbolKey} :
    key ∈ file.symbolTable.map CodeSymbol.key ↔ file.DefinesCode key := by
  rw [List.mem_map]
  constructor
  · rintro ⟨symbol, hsymbol, rfl⟩
    obtain ⟨before, entry, after, hsplit, hdefines, -, -⟩ := mem_symbolTable_iff.1 hsymbol
    exact ⟨entry, by rw [hsplit]; simp, hdefines⟩
  · rintro ⟨entry, hentry, hdefines⟩
    let symbol : CodeSymbol := ⟨key.name, key.address, entry.size⟩
    have hlisted : symbol ∈ file.listed :=
      List.mem_filterMap.2 ⟨entry, hentry, ObjectSymbol.tableEntry?_eq_some_iff.2 ⟨hdefines, rfl⟩⟩
    obtain ⟨first, hfirst⟩ := Option.isSome_iff_exists.1
      (List.find?_isSome.2 ⟨symbol, hlisted, CodeSymbol.sameEntry_iff.2 rfl⟩)
    have hkey : symbol.key = first.key := CodeSymbol.sameEntry_iff.1 (List.find?_some hfirst)
    rw [CodeSymbol.sameEntry_eq_of_key_eq hkey] at hfirst
    exact ⟨first, mem_symbolTable_iff_find?.2 hfirst, hkey.symm⟩

/-- Files that list the same symbols have tables of the same keys. -/
theorem ListsSame.map_key_symbolTable_eq {file other : ObjectFile} (h : other.ListsSame file) :
    other.symbolTable.map CodeSymbol.key = file.symbolTable.map CodeSymbol.key := by
  have hsorted : ∀ file : ObjectFile,
      (file.symbolTable.map CodeSymbol.key).Pairwise SymbolKey.Before :=
    fun file => List.pairwise_map.2 file.pairwise_before_symbolTable
  refine (hsorted other).eq_of_mem_iff (hsorted file) fun key => ?_
  rw [mem_map_key_symbolTable_iff, mem_map_key_symbolTable_iff, h.definesCode_iff]

/-- **The symbol table.** It is strictly increasing by address and then, byte by byte, by name, so
it holds each pair of these once. The pairs are those of the code that the file defines under
readable names, and the size of each is that of the file's first entry of the pair. Neither another
order of the entries nor a symbol listed again, be it in the other table, changes the pairs. -/
theorem symbolTable_exact (file : ObjectFile) :
    file.symbolTable.Pairwise (fun a b => a.key.Before b.key) ∧
    (file.symbolTable.map CodeSymbol.key).Nodup ∧
    (∀ key, key ∈ file.symbolTable.map CodeSymbol.key ↔ file.DefinesCode key) ∧
    (∀ symbol ∈ file.symbolTable, file.FirstListed symbol) ∧
    ∀ other : ObjectFile, other.ListsSame file →
      other.symbolTable.map CodeSymbol.key = file.symbolTable.map CodeSymbol.key := by
  have hsorted := file.pairwise_before_symbolTable
  exact ⟨hsorted, (List.pairwise_map.2 hsorted).nodup, fun key => mem_map_key_symbolTable_iff,
    fun symbol => mem_symbolTable_iff.1, fun other => ListsSame.map_key_symbolTable_eq⟩

/-- Without its underscore a name can be none, or one that is listed already. -/
example : (ObjectFile.mk .machO [] []
    [⟨some "_", 0x10, 2, true, true⟩, ⟨some "__go", 0x10, 2, true, true⟩,
      ⟨some "_run", 0x20, 4, true, true⟩]
    [⟨some "run", 0x20, 8, true, true⟩]).symbolTable = [⟨"_go", 0x10, 2⟩, ⟨"run", 0x20, 4⟩] := by
  rw [symbolTable, List.mergeSort_of_pairwise (by decide +kernel)]
  decide +kernel

end ObjectFile

end SymbolTrace
