/-!
Blank characters, and the cutting of text at them and at line ends.
-/

namespace SchedulerLink.Text

def isBlank (character : Char) : Bool :=
  let code := character.toNat
  (9 ≤ code && code ≤ 13) || code = 0x20 || code = 0x85 || code = 0xa0 || code = 0x1680 ||
    (0x2000 ≤ code && code ≤ 0x200a) || code = 0x2028 || code = 0x2029 || code = 0x202f ||
    code = 0x205f || code = 0x3000

def trim (text : List Char) : List Char :=
  ((text.dropWhile isBlank).reverse.dropWhile isBlank).reverse

def trimmed (text : String) : String := String.ofList (trim text.toList)

def wordsFrom (held : List Char) : List Char → List (List Char)
  | [] => if held.isEmpty then [] else [held.reverse]
  | character :: rest =>
    if isBlank character then
      if held.isEmpty then wordsFrom [] rest else held.reverse :: wordsFrom [] rest
    else wordsFrom (character :: held) rest

def words (text : List Char) : List (List Char) := wordsFrom [] text

/-- Splits a text at every character that satisfies a test; there is one part more than there are
such characters. -/
def splitAt (separates : Char → Bool) : List Char → List (List Char)
  | [] => [[]]
  | character :: rest =>
    if separates character then [] :: splitAt separates rest
    else
      match splitAt separates rest with
      | [] => [[character]]
      | part :: parts => (character :: part) :: parts

def dropCarriageReturn (line : List Char) : List Char :=
  if line.getLast? = some '\r' then line.dropLast else line

/-- The lines of a text. A line ends at a line feed or at the end of the text; text after the last
line feed is a line unless it is empty, and there a carriage return stays. -/
def lines (text : List Char) : List (List Char) :=
  let parts := splitAt (· = '\n') text
  let last := parts.getLast?.getD []
  parts.dropLast.map dropCarriageReturn ++ if last.isEmpty then [] else [last]

end SchedulerLink.Text
