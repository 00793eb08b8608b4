/-!
Pieces of a text between separators, and the lines of a text file: a line ends with LF or CRLF,
and a byte order mark in front is no part of the first one.
-/
namespace DependencyAudit.Text

/-- Puts a character in front of the first piece, or starts a new one at a separator. -/
def extendPieces (sep c : Char) : List (List Char) → List (List Char)
  | [] => if c = sep then [[], []] else [[c]]
  | piece :: pieces => if c = sep then [] :: piece :: pieces else (c :: piece) :: pieces

/-- The pieces between the separators: always one more than there are separators. -/
def pieces (sep : Char) (cs : List Char) : List (List Char) :=
  cs.foldr (extendPieces sep) [[]]

def lineFeed : Char := '\n'

def carriageReturn : Char := '\r'

def byteOrderMark : Char := '\uFEFF'

/-- A line that a line feed ended, without the carriage return before it. -/
def dropReturn (line : List Char) : List Char :=
  if line.getLast? = some carriageReturn then line.dropLast else line

/-- What stands after the last line feed is a line only if it is not empty, and keeps its returns. -/
def lineList (cs : List Char) : List (List Char) :=
  let ps := pieces lineFeed cs
  ps.dropLast.map dropReturn ++ (ps.getLast?.filter (!·.isEmpty)).toList

/-- The lines of a text. -/
def lines (text : String) : List String :=
  (lineList text.toList).map String.ofList

/-- The text without one byte order mark in front. -/
def dropMark : List Char → List Char
  | [] => []
  | c :: cs => if c = byteOrderMark then cs else c :: cs

/-- The lines of the content of a text file. -/
def fileLines (content : String) : List String :=
  (lineList (dropMark content.toList)).map String.ofList

end DependencyAudit.Text
