import SymbolTrace.FileFault
import SymbolTrace.Image.Load
import SymbolTrace.PathName

/-!
# File trees

The files and directories below a working directory, as a value. A path is followed piece by
piece: every piece but the last has to be a directory, and so does the last if anything follows
it, be it only a slash. What lies outside the working directory is unknown and taken to be empty.
A component may have 255 bytes and a path 4095, and neither can hold the character zero.
-/

namespace SymbolTrace

/-- Files and directories, each given by its components below the working directory. The
directories that lead to a listed entry need not be listed. -/
structure FileTree where
  files : List (List String × ByteArray)
  directories : List (List String)

namespace FileTree

/-- Components of more bytes lead nowhere. -/
def maxComponentSize : Nat := 255

/-- Paths of more bytes lead nowhere. -/
def maxPathSize : Nat := 4095

/-- A directory that a path has led to. -/
inductive Place where
  | inside (components : List String)
  /-- A directory that the working directory is not known to hold. -/
  | outside
deriving DecidableEq, Repr

/-- The directory one level up. -/
def Place.parent : Place → Place
  | inside [] => outside
  | inside components => inside components.dropLast
  | outside => outside

/-- Where a path leads. -/
inductive Target where
  | file (components : List String)
  | directory (place : Place)
deriving DecidableEq, Repr

/-- The contents of the file with these components. -/
def contents? (tree : FileTree) (components : List String) : Option ByteArray :=
  (tree.files.find? (·.1 = components)).map (·.2)

/-- Do these components name a directory? -/
def hasDirectory (tree : FileTree) (components : List String) : Bool :=
  components.isEmpty ||
    tree.directories.any (components.isPrefixOf ·) ||
    tree.files.any fun (file, _) => components.isPrefixOf file && file ≠ components

/-- Where the pieces of a path lead from a directory. -/
def follow (tree : FileTree) (place : Place) : List String → Except FileFault Target
  | [] => .ok (.directory place)
  | piece :: rest =>
      if !PathName.isMeaningful piece then tree.follow place rest
      else if piece = ".." then tree.follow place.parent rest
      else if maxComponentSize < piece.utf8ByteSize then .error .nameTooLong
      else
        match place with
        | .outside => .error .notFound
        | .inside components =>
            let next := components ++ [piece]
            if (tree.contents? next).isSome then
              if rest.isEmpty then .ok (.file next) else .error .notADirectory
            else if tree.hasDirectory next then tree.follow (.inside next) rest
            else .error .notFound

/-- The directory that a path starts from. -/
def startOf (path : String) : Place :=
  if PathName.isAbsolute path then .outside else .inside []

/-- Where a path leads. The empty path leads nowhere. -/
def find (tree : FileTree) (path : String) : Except FileFault Target :=
  if path = "" then .error .notFound
  else if path.toList.contains '\x00' then .error .zeroCharacter
  else if maxPathSize < path.utf8ByteSize then .error .nameTooLong
  else tree.follow (startOf path) (PathName.pieces path)

/-- The contents of the file that a path leads to. -/
def read (tree : FileTree) : FileReader := fun path => do
  match ← tree.find path with
  | .directory _ => throw .isADirectory
  | .file components =>
      match tree.contents? components with
      | some bytes => return bytes
      | none => throw .notFound

/-- Nothing is found at the empty path. -/
@[simp] theorem read_empty (tree : FileTree) : tree.read "" = .error .notFound := rfl

/-- Go from a directory along components and make what is missing on the way. Once a directory
has been made, each further component is asked for on its own; before that, all of them are
followed at once, which tells a file in the middle from one at the end. -/
def makeMissing (tree : FileTree) (made : Bool) (place : Place) :
    List String → Except FileFault (FileTree × Place)
  | [] => .ok (tree, place)
  | component :: rest =>
      if component = ".." then tree.makeMissing made place.parent rest
      else if maxComponentSize < component.utf8ByteSize then .error .nameTooLong
      else
        match place with
        | .outside => tree.makeMissing made .outside rest
        | .inside components =>
            let next := components ++ [component]
            if (tree.contents? next).isSome then
              .error (if made || rest.isEmpty then .alreadyExists else .notADirectory)
            else if tree.hasDirectory next then tree.makeMissing made (.inside next) rest
            else
              { tree with directories := tree.directories ++ [next] }.makeMissing true
                (.inside next) rest

/-- Make the directory of a path and what leads to it. The empty path is the working directory. -/
def makeDirectories (tree : FileTree) (path : String) : Except FileFault (FileTree × Place) :=
  if maxPathSize < path.utf8ByteSize then .error .nameTooLong
  else tree.makeMissing false (startOf path) (PathName.components path)

/-- Go to the file of a name for writing, given the directory it is in and the path to it. A file
that is missing is made, and is empty. -/
def openFile (tree : FileTree) (place : Place) (path name : String) :
    Except FileFault (FileTree × Place) :=
  if maxPathSize < path.utf8ByteSize || maxComponentSize < name.utf8ByteSize then
    .error .nameTooLong
  else
    match place with
    | .outside => .ok (tree, .outside)
    | .inside components =>
        let file := components ++ [name]
        if tree.hasDirectory file then .error .isADirectory
        else if (tree.contents? file).isSome then .ok (tree, .inside file)
        else .ok ({ tree with files := tree.files ++ [(file, .empty)] }, .inside file)

end FileTree

end SymbolTrace
