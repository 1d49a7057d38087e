import SymbolTrace.Image.Load

/-!
# Images whose symbols are read late

Most images are asked whether they cover an address, few for a symbol. So an image keeps the bytes
of its file, and reads its symbol table when a question first needs it. A table that was read is
kept, a failure to read it is not.

A registry holds such images in the order they were added. It is used step by step: each step
loads one more image, or asks a question. Since a question may read a table, it leaves a registry
behind as well. All steps of a run use the same reader of object files.

## Main definitions

* `LazyImage`, `LazyImage.load`: an image without its table.
* `LazyImage.symbols`, `LazyImage.nearest`: the questions that need the table.
* `Registry.step`, `Registry.run`: one step, and a sequence of steps, with their answers.
* `Registry.resolver`: what frames are made with.
-/

namespace SymbolTrace

/-- The nearest symbol at or below an address of the file, with the image's path. -/
def Image.siteAt? (image : Image) (fileAddress : Address) : Option SymbolSite := do
  let symbol ← image.lastSymbol? fileAddress
  let start ← image.toRuntime? ⟨symbol.address⟩
  return ⟨.lent image.path, .lent symbol.name, start⟩

/-- Resolving is translating and then looking up in the table. -/
theorem Image.resolve_eq_bind (image : Image) (a : Address) :
    image.resolve a = (image.toFile? a).bind image.siteAt? := by
  simp only [resolve, nearest?, Option.bind_eq_bind, Option.map_bind, Option.pure_def,
    Function.comp_def, Option.map_some]
  rfl

/-- An image that reads its symbol table when it needs it. -/
structure LazyImage where
  path : String
  /-- The contents of the file when the image was loaded. -/
  bytes : ByteArray
  /-- What to add to an address of the file to get the address at run time. -/
  slide : Int64
  /-- The addresses at run time. -/
  range : AddressRange
  /-- The symbol table, once it was read. -/
  table : Option (List CodeSymbol)

namespace LazyImage

/-- The image with a given table. -/
def withTable (image : LazyImage) (symbols : List CodeSymbol) : Image :=
  ⟨image.path, image.slide, image.range, symbols⟩

/-- The image as far as it does not depend on the table. -/
def mapping (image : LazyImage) : Image := image.withTable []

/-- The image of the file at a path, mapped like `Image.load` does it. -/
def load (reader : ObjectReader) (files : FileReader) (path : String)
    (loadAddress : Option Address) : Except ImageFault LazyImage :=
  match files path with
  | .error fault => .error (.unreadable fault)
  | .ok bytes =>
      match Image.ofBytes reader path bytes loadAddress with
      | .error fault => .error fault
      | .ok image => .ok ⟨path, bytes, image.slide, image.range, none⟩

/-- Read the symbol table from the bytes. -/
def collect (reader : ObjectReader) (image : LazyImage) : Except ImageFault (List CodeSymbol) :=
  match reader image.bytes with
  | .error reason => .error (.notAnObject image.path reason)
  | .ok file => .ok file.symbolTable

/-- The symbol table: the one that is kept, or else the one that is read now. -/
def symbols (reader : ObjectReader) (image : LazyImage) :
    Except ImageFault (List CodeSymbol) × LazyImage :=
  match image.table with
  | some symbols => (.ok symbols, image)
  | none =>
      match image.collect reader with
      | .error fault => (.error fault, image)
      | .ok symbols => (.ok symbols, { image with table := some symbols })

/-- The nearest symbol at or below an address. The table is needed only for an address that the
image covers, and without it no symbol is known. -/
def nearest (reader : ObjectReader) (image : LazyImage) (a : Address) :
    Option SymbolSite × LazyImage :=
  match image.mapping.toFile? a with
  | none => (none, image)
  | some fileAddress =>
      match image.symbols reader with
      | (.error _, image) => (none, image)
      | (.ok symbols, image) => ((image.withTable symbols).siteAt? fileAddress, image)

end LazyImage

/-- Images in the order they were added. -/
structure Registry where
  images : List LazyImage

namespace Registry

/-- No images. -/
def empty : Registry := ⟨[]⟩

/-- One more image, after the others. -/
def add (registry : Registry) (image : LazyImage) : Registry :=
  ⟨registry.images ++ [image]⟩

/-- What can be done with a registry. Images are counted from zero in the order they were added. -/
inductive Step where
  /-- Load a file as it is found now, at an address or where it asks to be, and add the image. -/
  | load (files : FileReader) (path : String) (loadAddress : Option Address)
  | symbols (index : Nat)
  | contains (index : Nat) (a : Address)
  | toFile (index : Nat) (a : Address)
  | nearest (index : Nat) (a : Address)
  /-- Which image does the address belong to? -/
  | imageFor (a : Address)
  /-- Which symbol does the address belong to? -/
  | resolve (a : Address)

/-- What a step is answered with. -/
inductive Answer where
  | added (index : Nat)
  | notLoaded (fault : ImageFault)
  | noSuchImage
  | symbols (symbols : Except ImageFault (List CodeSymbol))
  | contained (contained : Bool)
  | fileAddress (a : Option Address)
  | position (index : Option Nat)
  | site (site : Option SymbolSite)

/-- The position of the first image that covers an address. -/
def indexFor? (registry : Registry) (a : Address) : Option Nat :=
  registry.images.findIdx? (·.mapping.contains a)

/-- Put a question to one of the images. -/
def ask (registry : Registry) (index : Nat) (question : LazyImage → Answer × LazyImage) :
    Answer × Registry :=
  match registry.images[index]? with
  | none => (.noSuchImage, registry)
  | some image =>
      let (answer, image) := question image
      (answer, ⟨registry.images.set index image⟩)

/-- The nearest symbol in the first image that covers an address; no later image is asked. -/
def resolve (reader : ObjectReader) (registry : Registry) (a : Address) : Answer × Registry :=
  match registry.indexFor? a with
  | none => (.site none, registry)
  | some index => registry.ask index fun image => (image.nearest reader a).map .site id

/-- The symbol in an answer about an address. -/
def Answer.site? : Answer → Option SymbolSite
  | .site found => found
  | _ => none

/-- A registry as a resolver. What it leaves behind is the same for later questions, so each address
is asked for by itself. -/
def resolver (reader : ObjectReader) (registry : Registry) : Resolver := fun a =>
  (registry.resolve reader a).1.site?

/-- The answer to a step, and the registry after it. -/
def step (reader : ObjectReader) (registry : Registry) : Step → Answer × Registry
  | .load files path loadAddress =>
      match LazyImage.load reader files path loadAddress with
      | .error fault => (.notLoaded fault, registry)
      | .ok image => (.added registry.images.length, registry.add image)
  | .symbols index => registry.ask index fun image => (image.symbols reader).map .symbols id
  | .contains index a =>
      registry.ask index fun image => (.contained (image.mapping.contains a), image)
  | .toFile index a =>
      registry.ask index fun image => (.fileAddress (image.mapping.toFile? a), image)
  | .nearest index a => registry.ask index fun image => (image.nearest reader a).map .site id
  | .imageFor a => (.position (registry.indexFor? a), registry)
  | .resolve a => registry.resolve reader a

/-- The answers to a sequence of steps, and the registry after it. -/
def run (reader : ObjectReader) (registry : Registry) : List Step → List Answer × Registry
  | [] => ([], registry)
  | step :: rest =>
      let (answer, next) := registry.step reader step
      let (answers, last) := next.run reader rest
      (answer :: answers, last)

end Registry

end SymbolTrace
