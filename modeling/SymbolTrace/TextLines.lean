/-!
# Lines of a stream

A stream of bytes is read line by line. A line ends after a line feed; the last one may lack it.
The line feed is no part of the line's text, and neither is a carriage return right before it.
The bytes of a line must be UTF-8.
-/

namespace SymbolTrace.TextLines

/-- The bytes of each line, each with the line feed that ends it. -/
def cut : List UInt8 → List (List UInt8)
  | [] => []
  | byte :: rest =>
      if byte = 10 then [byte] :: cut rest
      else
        match cut rest with
        | [] => [[byte]]
        | line :: lines => (byte :: line) :: lines

/-- A text without a carriage return at its end. -/
def dropReturn (text : List Char) : List Char :=
  if text.getLast? = some '\r' then text.dropLast else text

/-- A line without its line break. -/
def chomp (line : List Char) : List Char :=
  if line.getLast? = some '\n' then dropReturn line.dropLast else line

/-- The text of a line, if its bytes are UTF-8. -/
def text? (line : List UInt8) : Option String :=
  (String.fromUTF8? (ByteArray.mk line.toArray)).map fun text =>
    String.ofList (chomp text.toList)

/-- The texts of the lines up to the first one that is not UTF-8, and whether there is none. -/
def readAll : List (List UInt8) → List String × Bool
  | [] => ([], true)
  | line :: lines =>
      match text? line with
      | none => ([], false)
      | some text =>
          let (texts, complete) := readAll lines
          (text :: texts, complete)

/-- The lines of a stream, as far as they are UTF-8. -/
def ofBytes (bytes : ByteArray) : List String × Bool :=
  readAll (cut bytes.toList)

end SymbolTrace.TextLines
