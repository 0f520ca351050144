/-!
# Splitting text

Cutting a text at every occurrence of a character. There is one more part than there are cuts, and
joining the parts with the character gives the text back.
-/

namespace SchemaGuard.Text

/-- The parts between the cuts, of which there is always one. -/
def splitList (separator : Char) : List Char → List (List Char)
  | [] => [[]]
  | c :: rest =>
    if c == separator then
      [] :: splitList separator rest
    else
      match splitList separator rest with
      | [] => [[c]]
      | part :: parts => (c :: part) :: parts

/-- The parts of a text between the occurrences of a character. -/
def split (separator : Char) (text : String) : List String :=
  (splitList separator text.toList).map String.ofList

/-- The text before the first occurrence of a character and the text after it, if it occurs. -/
def cut? (separator : Char) (text : String) : Option (String × String) :=
  if text.toList.contains separator then
    some (String.ofList (text.toList.takeWhile (· != separator)),
      String.ofList ((text.toList.dropWhile (· != separator)).drop 1))
  else
    none

/-- The characters of a text without its line breaks. -/
def unbroken (text : String) : List Char := text.toList.filter (· != '\n')

/-- Replaces every occurrence of a pair of characters, from left to right. -/
def replacePair (first second replacement : Char) : List Char → List Char
  | a :: b :: rest =>
    if a == first && b == second then
      replacement :: replacePair first second replacement rest
    else
      a :: replacePair first second replacement (b :: rest)
  | rest => rest

end SchemaGuard.Text
