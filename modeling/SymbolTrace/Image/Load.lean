import SymbolTrace.FileFault
import SymbolTrace.Image
import SymbolTrace.StackTrace

/-!
# Loading images and resolving through them

An image is loaded from the bytes of a file, on which an `ObjectReader` reports. A list of images is
a resolver: an address belongs to the first image in the list that covers it, and no later one is
asked, even if the first knows no symbol there.
-/

namespace SymbolTrace

/-- Why an image could not be loaded. -/
inductive ImageFault where
  /-- The reader of object files refused the contents, and says why. -/
  | notAnObject (path reason : String)
  | nothingMapped (path : String)
  | unreadable (fault : FileFault)
deriving DecidableEq, Repr

/-- The sentence printed for an image that could not be loaded. -/
def ImageFault.message : ImageFault → String
  | notAnObject path reason => "Invalid image: failed to parse " ++ path ++ ": " ++ reason
  | nothingMapped path => "Invalid image: " ++ path ++ " has no mapped segments"
  | unreadable fault => "IO error: " ++ fault.message

/-- Access to the contents of files. -/
abbrev FileReader := String → Except FileFault ByteArray

/-- The image of a file's contents at a load address or, without one, where it asks to be. -/
def Image.ofBytes (reader : ObjectReader) (path : String) (bytes : ByteArray)
    (loadAddress : Option Address) : Except ImageFault Image :=
  match reader bytes with
  | .error reason => .error (.notAnObject path reason)
  | .ok file =>
      match Image.map? path file loadAddress with
      | none => .error (.nothingMapped path)
      | some image => .ok image

/-- The image of the file at a path. -/
def Image.load (reader : ObjectReader) (files : FileReader) (path : String)
    (loadAddress : Option Address) : Except ImageFault Image :=
  match files path with
  | .error fault => .error (.unreadable fault)
  | .ok bytes => Image.ofBytes reader path bytes loadAddress

/-- The nearest symbol at or below an address that the image covers, with the image's path. -/
def Image.resolve (image : Image) : Resolver := fun a =>
  (image.nearest? a).map fun (name, start) => ⟨.lent image.path, .lent name, start⟩

/-- Images in the order they were added. -/
structure ImageList where
  images : List Image
deriving DecidableEq, Repr

namespace ImageList

/-- No images. -/
def empty : ImageList := ⟨[]⟩

/-- One more image, after the others. -/
def add (list : ImageList) (image : Image) : ImageList :=
  ⟨list.images ++ [image]⟩

/-- The first image that covers an address. -/
def imageFor? (list : ImageList) (a : Address) : Option Image :=
  list.images.find? (·.contains a)

/-- The position of the first image that covers an address. -/
def indexFor? (list : ImageList) (a : Address) : Option Nat :=
  list.images.findIdx? (·.contains a)

/-- The nearest symbol in the first image that covers an address. -/
def resolve (list : ImageList) : Resolver := fun a => do
  let image ← list.imageFor? a
  image.resolve a

end ImageList

end SymbolTrace
