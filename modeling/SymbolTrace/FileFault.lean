/-!
# Reasons a file cannot be used

What the operating system answers when a path does not lead to what was asked for.
-/

namespace SymbolTrace

/-- Why a path did not lead to a file or a directory. -/
inductive FileFault where
  | notFound
  | alreadyExists
  | notADirectory
  | isADirectory
  | nameTooLong
  /-- A zero character, which no path can hold. -/
  | zeroCharacter
  /-- Any other answer of the system, in its own words. -/
  | other (message : String)
deriving DecidableEq, Repr

/-- The system's wording, with its number for the fault. -/
def FileFault.message : FileFault → String
  | notFound => "No such file or directory (os error 2)"
  | alreadyExists => "File exists (os error 17)"
  | notADirectory => "Not a directory (os error 20)"
  | isADirectory => "Is a directory (os error 21)"
  | nameTooLong => "File name too long (os error 36)"
  | zeroCharacter => "file name contained an unexpected NUL byte"
  | other message => message

end SymbolTrace
