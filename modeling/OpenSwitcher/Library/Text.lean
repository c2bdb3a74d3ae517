import Mathlib.Data.List.Basic
import Mathlib.Data.List.DropRight
/-!
# Text

A text is the list of its characters. Trimming takes white space off the ends, and
a line ends at a line feed that a carriage return may precede.
-/

namespace OpenSwitcher.Library.Text

/-- The characters with the Unicode property White_Space. -/
def whitespaceChars : List Char :=
  ['\t', '\n', '\x0b', '\x0c', '\r', ' ', '\u0085', '\u00a0', '\u1680', '\u2000', '\u2001',
   '\u2002', '\u2003', '\u2004', '\u2005', '\u2006', '\u2007', '\u2008', '\u2009', '\u200a',
   '\u2028', '\u2029', '\u202f', '\u205f', '\u3000']

def isWhitespace (ch : Char) : Bool := whitespaceChars.contains ch

def trimStart (text : List Char) : List Char := text.dropWhile isWhitespace

def trimEnd (text : List Char) : List Char := text.rdropWhile isWhitespace

def trim (text : List Char) : List Char := trimEnd (trimStart text)

/-- A line without the carriage return before its line feed. -/
def dropReturn (line : List Char) : List Char :=
  if line.getLast? = some '\r' then line.dropLast else line

/-- The last line may lack its line feed; if it does not, nothing comes after it. -/
def lines (text : List Char) : List (List Char) :=
  let pieces := text.splitOn '\n'
  pieces.dropLast.map dropReturn
    ++ (if pieces.getLast? = some [] then [] else pieces.getLast?.toList)

end OpenSwitcher.Library.Text
