/-!
# Path names

A path is a sequence of components between slashes. Empty components and single dots say nothing
and are left out wherever they stand. The file name of a path is its last component, unless that
component leads up to the parent directory or there is none.

* `baseName`: the file name, or the whole path where there is none.
* `directory`: what leads to the file.
-/

namespace SymbolTrace.PathName

/-- The text between the slashes. -/
def pieces (path : String) : List String :=
  (path.toList.splitOn '/').map String.ofList

/-- Does a piece say anything about where the path leads? -/
def isMeaningful (piece : String) : Bool :=
  piece != "" && piece != "."

/-- The pieces that say where the path leads. -/
def components (path : String) : List String :=
  (pieces path).filter isMeaningful

/-- The last component, if it names something. -/
def fileName? (path : String) : Option String :=
  (components path).getLast?.filter (· != "..")

/-- The last component, or the whole path if it names nothing. -/
def baseName (path : String) : String :=
  (fileName? path).getD path

/-- The text that leads to the last component, without slashes and single dots at its end. A dot
or a slash that the path starts with stays where nothing else is left. -/
def directory (path : String) : String :=
  let backwards := (pieces path).reverse.dropWhile (!isMeaningful ·)
  match (backwards.tail.dropWhile (!isMeaningful ·)).reverse with
  | [] =>
      match pieces path with
      | "" :: _ => "/"
      | "." :: _ => "."
      | _ => ""
  | front => "/".intercalate front

/-- The path of a name in a directory, the empty text being the working directory. -/
def join (directory name : String) : String :=
  if directory = "" || directory.toList.getLast? = some '/' then directory ++ name
  else directory ++ "/" ++ name

/-- Does the path start at the root of the file system? -/
def isAbsolute (path : String) : Bool :=
  path.toList.head? == some '/'

end SymbolTrace.PathName
