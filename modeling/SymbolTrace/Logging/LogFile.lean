import SymbolTrace.FileTree
import SymbolTrace.Logging.Settings

/-!
# Log files

Events may go to a file besides the console. A path that leads to a directory asks for a file
named after the day inside it; any other path names the file itself, and the directories that
lead to it are made. The file is there before anything else is done.
-/

namespace SymbolTrace.Logging

/-- Why a log file cannot be used. -/
inductive LogFileFault where
  | noFileName (path : String)
  /-- The directory for the file cannot be made. -/
  | noDirectory (fault : FileFault)
  /-- The file cannot be opened although its directory is there. -/
  | notOpened (fault : FileFault)
deriving DecidableEq, Repr

/-- The sentence printed for a log file that cannot be used. -/
def LogFileFault.message : LogFileFault → String
  | noFileName path => "Invalid log file path: " ++ path
  | noDirectory fault | notOpened fault => "File logging error: " ++ fault.message

/-- The name of the log file of a day. -/
def datedName (date : String) : String := date ++ "-wdemangle.log"

/-- The path of the log file that a path stands for. -/
def logFilePath (tree : FileTree) (date path : String) : String :=
  match tree.find path with
  | .ok (.directory _) => PathName.join path (datedName date)
  | _ => path

/-- Open the log file of a path, making what is missing. This gives the files that are there
afterwards and where the log file is. -/
def openLogFile (tree : FileTree) (date path : String) :
    Except LogFileFault (FileTree × FileTree.Place) := do
  let path := logFilePath tree date path
  let some name := PathName.fileName? path | throw (.noFileName path)
  let directory := PathName.directory path
  let (tree, place) ← (tree.makeDirectories directory).mapError .noDirectory
  (tree.openFile place (PathName.join directory name) name).mapError .notOpened

end SymbolTrace.Logging
