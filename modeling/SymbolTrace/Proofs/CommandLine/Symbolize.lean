import SymbolTrace.CommandLine.Run
import SymbolTrace.Proofs.Image.Nearest
import SymbolTrace.Proofs.Image.Translation
import SymbolTrace.Proofs.StackTrace.Line
import SymbolTrace.Proofs.StackTrace.Paths

/-!
# Symbolizing recorded addresses

The `symbolize` command renders addresses against one file. Either the file cannot be loaded, and
nothing is printed, or the printed text is a trace with a line for each address that the image has
an answer for, however many there are. What such a line says is exact: its symbol is the nearest
one of the file's table, and the start that it prints and the offset add up to the address.

All this holds whatever object files the reader reads and whatever names the secondary demangler
knows. Modules and names are printed as they are, so one that holds a line break breaks its line;
nothing else does.

## Main results

* `Image.resolve_named`: an image has no answer without a path or a name.
* `IsAccount`: what a line says about an address.
* `splitOn_join_lines`: printed lines, taken apart again.
* `run_symbolize`: the whole command.
-/

namespace SymbolTrace

/-! ### Answers of an image -/

namespace Image

/-- The image of a file has its path and its table. -/
theorem eq_of_map?_eq_some {path : String} {file : ObjectFile} {loadAddress : Option Address}
    {image : Image} (h : Image.map? path file loadAddress = some image) :
    image.path = path ∧ image.symbols = file.symbolTable := by
  obtain ⟨mapped, -, rfl⟩ := Option.map_eq_some_iff.1 h
  exact ⟨rfl, rfl⟩

/-- An answer of an image lends its path and a name of its table. -/
theorem resolve_eq_some {image : Image} {a : Address} {site : SymbolSite}
    (h : image.resolve a = some site) :
    ∃ name start, image.nearest? a = some (name, start) ∧
      site = ⟨.lent image.path, .lent name, start⟩ := by
  obtain ⟨⟨name, start⟩, hnearest, rfl⟩ := Option.map_eq_some_iff.1 h
  exact ⟨name, start, hnearest, rfl⟩

end Image

/-- The answers of a list of one image are those of the image. -/
theorem ImageList.resolve_of_add_empty {image : Image} {a : Address} {site : SymbolSite}
    (h : (ImageList.empty.add image).resolve a = some site) : image.resolve a = some site := by
  obtain ⟨first, hfirst, hsite⟩ := Option.bind_eq_some_iff.1 h
  obtain rfl := List.mem_singleton.1 (List.mem_of_find?_eq_some hfirst)
  exact hsite

/-- The answers of an image name a path and a symbol, if the image has a path and its table comes
from a file. -/
theorem Image.resolve_named {image : Image} {file : ObjectFile} {a : Address} {site : SymbolSite}
    (hpath : image.path ≠ "") (htable : image.symbols = file.symbolTable)
    (h : image.resolve a = some site) : site.modulePath.text ≠ "" ∧ site.name.text ≠ "" := by
  obtain ⟨name, start, hnearest, rfl⟩ := resolve_eq_some h
  obtain ⟨_, symbol, -, hsymbol, rfl, -, -⟩ :=
    nearest?_eq_some (htable ▸ file.symbolTable_pairwise) hnearest
  exact ⟨hpath, ObjectFile.name_ne_empty (htable ▸ hsymbol.mem)⟩

namespace CommandLine

/-! ### Printed lines -/

/-- Lines that were put together, each with a line break behind it, come apart where they, or their
parts, end. -/
theorem splitOn_join_lines (lines : List String) :
    (String.join (lines.map fun line => line ++ "\n")).toList.splitOn '\n' =
      (lines.flatMap fun line => line.toList.splitOn '\n') ++ [[]] := by
  induction lines with
  | nil => rfl
  | cons line lines ih =>
      have hsplit : ∀ rest : List Char, (line.toList ++ '\n' :: rest).splitOn '\n' =
          line.toList.splitOn '\n' ++ rest.splitOn '\n' := fun rest =>
        List.splitOnP_append_cons _ _ (beq_self_eq_true '\n')
      rw [List.map_cons, String.join_cons, String.toList_append, String.toList_append,
        List.append_assoc, List.flatMap_cons, List.append_assoc, ← ih]
      exact hsplit _

section

variable [Mangling.Allocator]

/-! ### Accounts of addresses -/

/-- What a line says about an address that an image covers. -/
structure IsAccount (secondary : SecondaryDemangler) (image : Image) (a : Address)
    (frame : Frame) : Prop where
  /-- The printed start and offset add up to the address. -/
  exact : frame.symbolAddress.toNat + frame.offset = a.toNat
  moduleName : frame.moduleName = PathName.baseName image.path
  /-- The symbol is the nearest one of the table, and is named by the whole chain. -/
  nearest : ∃ fileAddress symbol, image.toFile? a = some fileAddress ∧
    IsNearest image.symbols fileAddress.value symbol ∧
    image.toRuntime? ⟨symbol.address⟩ = some frame.symbolAddress ∧
    frame.name = shownName secondary symbol.name

variable {secondary : SecondaryDemangler} {image : Image} {file : ObjectFile}
  {addresses : List Address}

/-- Every frame is an exact account of its address. -/
theorem isAccount_of_frame? {index : Nat} {a : Address} {frame : Frame}
    (htable : image.symbols = file.symbolTable)
    (h : (recordedRenderer secondary image addresses).frame? index a = some frame) :
    IsAccount secondary image a frame := by
  obtain ⟨site, hsite, rfl⟩ := Renderer.eq_of_frame?_eq_some h
  obtain ⟨name, start, hnearest, rfl⟩ :=
    Image.resolve_eq_some (ImageList.resolve_of_add_empty hsite)
  obtain ⟨fileAddress, symbol, hfile, hsymbol, rfl, hstart, hle⟩ :=
    Image.nearest?_eq_some (htable ▸ file.symbolTable_pairwise) hnearest
  exact {
    exact := Nat.add_sub_cancel' hle
    moduleName := rfl
    nearest := ⟨fileAddress, symbol, hfile, hsymbol, hstart, rfl⟩ }

/-- An address has a frame exactly if the image has an answer for it. -/
theorem isSome_frame?_iff {index : Nat} {a : Address} (hpath : image.path ≠ "")
    (htable : image.symbols = file.symbolTable) :
    ((recordedRenderer secondary image addresses).frame? index a).isSome =
      ((ImageList.empty.add image).resolve a).isSome := by
  rw [Bool.eq_iff_iff, Option.isSome_iff_ne_none, Option.isSome_iff_ne_none, not_iff_not,
    Renderer.frame?_eq_none_iff]
  constructor
  · rintro (hnone | ⟨site, hsite, hempty⟩)
    · exact hnone
    · obtain ⟨hmodule, hname⟩ :=
        Image.resolve_named hpath htable (ImageList.resolve_of_add_empty hsite)
      exact (hempty.elim hmodule hname).elim
  · exact .inl

/-- There is a line for each position whose address the image has an answer for. -/
theorem map_index_recorded (hpath : image.path ≠ "") (htable : image.symbols = file.symbolTable) :
    ((recordedRenderer secondary image addresses).framesByPosition addresses).map Frame.index =
      (List.range addresses.length).filter fun index =>
        (addresses[index]?.bind (ImageList.empty.add image).resolve).isSome := by
  have hdepth : (recordedRenderer secondary image addresses).maxDepth = addresses.length := rfl
  rw [Renderer.map_index_framesByPosition, hdepth, Nat.min_self]
  apply List.filter_congr
  intro index _
  cases addresses[index]? with
  | none => rfl
  | some a => exact isSome_frame?_iff hpath htable

/-- A trace is a title and a laid out line for each frame. -/
theorem report_eq_printed (renderer : Renderer) (addresses : List Address) :
    renderer.report addresses = "Current stack trace:\n" ++
      String.join ((renderer.framesByPosition addresses).map fun frame =>
        frame.printed ++ "\n") := by
  simp only [Renderer.report_eq_traceText, Renderer.traceText, Frame.line_eq_printed]
  rfl

/-! ### The command -/

section

variable {equipment : Equipment} {files : FileReader} {path : String}
  {loadAddress : Option Address} {input : ByteArray}

/-- Without an image nothing is printed. -/
theorem run_of_not_loaded {fault : ImageFault}
    (h : Image.load equipment.reader files path loadAddress = .error fault) :
    let outcome := (Command.symbolize path loadAddress addresses).run equipment input files
    outcome.output = "" ∧ outcome.code = 1 := by
  intro outcome
  have houtcome : outcome = ⟨"", some fault.message, [loadingSymbols path]⟩ := by
    simp only [outcome, Command.run, symbolize, h]
  rw [houtcome]
  exact ⟨rfl, rfl⟩

/-- With an image the trace of the addresses is printed. -/
theorem run_of_loaded (h : Image.load equipment.reader files path loadAddress = .ok image) :
    let outcome := (Command.symbolize path loadAddress addresses).run equipment input files
    outcome.output = (recordedRenderer equipment.secondary image addresses).report addresses ∧
      outcome.code = 0 := by
  intro outcome
  have hfailure : outcome.failure = none := by
    simp only [outcome, Command.run, symbolize, h]
  constructor
  · simp only [outcome, Command.run, symbolize, h]
  · rw [Outcome.code, hfailure]
    rfl

end

/-- **The `symbolize` command.** Files are read by a reader that refuses the empty path, as every
file tree does (`FileTree.read_empty`). If the file cannot be loaded, nothing is printed and the
code is 1. Otherwise the code is 0, and the text is a title and, in order and without a limit, one
line for each position whose address the image has an answer for. Each line is laid out in columns,
gives an exact account of its address, and breaks only where the module or the name does. -/
theorem run_symbolize (equipment : Equipment) {files : FileReader}
    (hempty : ∃ fault, files "" = .error fault) (input : ByteArray) (path : String)
    (loadAddress : Option Address) (addresses : List Address) :
    let outcome := (Command.symbolize path loadAddress addresses).run equipment input files
    (∀ fault, Image.load equipment.reader files path loadAddress = .error fault →
      outcome.output = "" ∧ outcome.code = 1) ∧
    ∀ image, Image.load equipment.reader files path loadAddress = .ok image →
      outcome.code = 0 ∧
      (∃ bytes file, files path = .ok bytes ∧ equipment.reader bytes = .ok file ∧
        image.path = path ∧ image.symbols = file.symbolTable) ∧
      ∃ frames : List Frame,
        outcome.output = "Current stack trace:\n" ++
          String.join (frames.map fun frame => frame.printed ++ "\n") ∧
        outcome.output.toList.splitOn '\n' = "Current stack trace:".toList ::
          (frames.flatMap fun frame => frame.printed.toList.splitOn '\n') ++ [[]] ∧
        frames.map Frame.index = (List.range addresses.length).filter (fun index =>
          (addresses[index]?.bind (ImageList.empty.add image).resolve).isSome) ∧
        ∀ frame ∈ frames,
          (∃ a, addresses[frame.index]? = some a ∧
            IsAccount equipment.secondary image a frame) ∧
          ('\n' ∈ frame.printed.toList ↔
            '\n' ∈ frame.moduleName.toList ∨ '\n' ∈ frame.name.toList) := by
  refine ⟨fun fault => run_of_not_loaded, ?_⟩
  intro image himage
  obtain ⟨bytes, file, hbytes, hread, hmap⟩ := Image.load_eq_ok_iff.1 himage
  obtain ⟨hpath, htable⟩ := Image.eq_of_map?_eq_some hmap
  have hnamed : image.path ≠ "" := by
    intro hnone
    obtain ⟨fault, hfault⟩ := hempty
    rw [← hpath, hnone, hfault] at hbytes
    cases hbytes
  obtain ⟨houtput, hcode⟩ := run_of_loaded himage
  let frames := (recordedRenderer equipment.secondary image addresses).framesByPosition addresses
  have hprinted := houtput.trans (report_eq_printed _ addresses)
  refine ⟨hcode, ⟨bytes, file, hbytes, hread, hpath, htable⟩, frames, hprinted, ?lines,
    map_index_recorded hnamed htable, ?accounts⟩
  case lines =>
    have hlines := splitOn_join_lines ("Current stack trace:" :: frames.map Frame.printed)
    rw [List.map_cons, String.join_cons, List.map_map, List.flatMap_cons, List.flatMap_map]
      at hlines
    rw [hprinted]
    exact hlines
  case accounts =>
    intro frame hframe
    obtain ⟨a, ha, -, hsome⟩ := Renderer.mem_framesByPosition.1 hframe
    exact ⟨⟨a, ha, isAccount_of_frame? htable hsome⟩, frame.lineBreak_mem_printed_iff⟩

end

/-- A shared object whose only function is `run`, the 32 bytes from `0x1010` on. -/
def oneFunction : ByteArray := ⟨#[
  -- The header.
  0x7f, 0x45, 0x4c, 0x46, 1, 1, 1, 0, 0, 0, 0, 0, 0, 0, 0, 0,
  3, 0, 3, 0, 1, 0, 0, 0, 0, 0, 0, 0, 0x34, 0, 0, 0,
  0x79, 0, 0, 0, 0, 0, 0, 0, 0x34, 0, 0x20, 0, 1, 0, 0x28, 0,
  3, 0, 2, 0,
  -- The page from `0x1000` on.
  1, 0, 0, 0, 0, 0, 0, 0, 0, 0x10, 0, 0, 0, 0x10, 0, 0,
  0, 0x10, 0, 0, 0, 0x10, 0, 0, 5, 0, 0, 0, 0, 0x10, 0, 0,
  -- The symbols, and their names.
  0, 0, 0, 0, 0, 0, 0, 0, 0, 0, 0, 0, 0, 0, 0, 0,
  1, 0, 0, 0, 0x10, 0x10, 0, 0, 0x20, 0, 0, 0, 0x12, 0, 1, 0,
  0, 0x72, 0x75, 0x6e, 0,
  -- The sections: none, the symbols, the names.
  0, 0, 0, 0, 0, 0, 0, 0, 0, 0, 0, 0, 0, 0, 0, 0,
  0, 0, 0, 0, 0, 0, 0, 0, 0, 0, 0, 0, 0, 0, 0, 0,
  0, 0, 0, 0, 0, 0, 0, 0, 0, 0, 0, 0, 2, 0, 0, 0,
  0, 0, 0, 0, 0, 0, 0, 0, 0x54, 0, 0, 0, 0x20, 0, 0, 0,
  2, 0, 0, 0, 1, 0, 0, 0, 0, 0, 0, 0, 0x10, 0, 0, 0,
  0, 0, 0, 0, 3, 0, 0, 0, 0, 0, 0, 0, 0, 0, 0, 0,
  0x74, 0, 0, 0, 5, 0, 0, 0, 0, 0, 0, 0, 0, 0, 0, 0,
  0, 0, 0, 0, 0, 0, 0, 0]⟩

/-- The files of a directory that holds nothing else. -/
def oneFunctionFiles : FileReader := fun path =>
  if path = "run.so" then .ok oneFunction else .error .notFound

/-- The object loaded at `0x555500000000`. -/
def oneFunctionImage : Image where
  path := "run.so"
  slide := (0x555500000000 : UInt64).toInt64 - (0x1000 : UInt64).toInt64
  range := AddressRange.ofSize 0x555500000000 0x1000
  symbols := [⟨"run", 0x1010, 0x20⟩]

/-- The object is loaded, since the reader of object files reads it. -/
theorem load_oneFunction :
    Image.load ObjectFile.reader oneFunctionFiles "run.so" (some ⟨0x555500000000⟩) =
      .ok oneFunctionImage := by
  let report : ObjectFile := ⟨.elf, [⟨none, 0x1000, 0x1000⟩], [⟨0, 32⟩, ⟨0, 5⟩],
    [⟨some "run", 0x1010, 0x20, true, true⟩], []⟩
  have hread : ObjectFile.reader oneFunction = .ok report :=
    Image.reader_eq_ok_of_toOption (by decide +kernel)
  have hextent : report.extent? = some (AddressRange.ofSize 0x1000 0x1000) := by decide
  have htable : report.symbolTable = [⟨"run", 0x1010, 0x20⟩] := by
    simp [report, ObjectFile.symbolTable, ObjectFile.symbols, CodeSymbol.dropRepeats,
      CodeSymbol.dropRepeatsAfter, ObjectSymbol.tableEntry?, ObjectFormat.sourceName]
  refine Image.load_eq_ok_iff.2 ⟨oneFunction, report, rfl, hread, ?_⟩
  rw [Image.map?_some _ hextent, htable]
  rfl

attribute [local instance] Mangling.Allocator.unlimited

/-- Of two addresses the second lies outside the object, so one line is printed. -/
theorem run_symbolize_oneFunction :
    oneFunctionFiles "" = .error .notFound ∧
    ((Command.symbolize "run.so" (some ⟨0x555500000000⟩) [⟨0x555500000034⟩, ⟨0x7⟩]).run
      ⟨ObjectFile.reader, fun _ => none⟩ ByteArray.empty oneFunctionFiles).output =
    "Current stack trace:\n0    run.so                             0x0000555500000010 run + 36\n" := by
  have hempty : oneFunctionFiles "" = .error .notFound := by decide
  obtain ⟨-, hloaded⟩ := run_symbolize ⟨ObjectFile.reader, fun _ => none⟩ ⟨_, hempty⟩
    ByteArray.empty "run.so" (some ⟨0x555500000000⟩) [⟨0x555500000034⟩, ⟨0x7⟩]
  obtain ⟨-, -, frames, houtput, -, hindex, haccount⟩ := hloaded _ load_oneFunction
  refine ⟨hempty, houtput.trans ?_⟩
  rw [show List.filter _ _ = [0] by decide] at hindex
  obtain ⟨⟨index, moduleName, start, name, offset⟩, rfl, hzero⟩ :=
    List.map_eq_singleton_iff.1 hindex
  obtain ⟨⟨a, ha, hexact, hmodule, _, symbol, -, hsymbol, hstart, hname⟩, -⟩ :=
    haccount _ List.mem_cons_self
  obtain rfl := List.mem_singleton.1 hsymbol.mem
  obtain rfl : start = ⟨0x555500000010⟩ := (Option.some.inj hstart).symm.trans (by decide)
  obtain rfl : name = "run" := hname.trans (by decide +kernel)
  obtain rfl : moduleName = "run.so" := hmodule.trans (by decide)
  cases hzero
  cases ha
  have hexact : 0x555500000010 + offset = 0x555500000034 := hexact
  obtain rfl : offset = 36 := by omega
  rfl

end CommandLine

end SymbolTrace
