import SchemaGuard.Text.Split

/-!
# Wrapping text

Breaking a text into lines at its blanks. A line takes as many words as fit; a word that fits nowhere
has a line of its own.
-/

namespace SchemaGuard.Text

/-- Adds words to finished lines and a line that has been begun. -/
def wrapWords (width : Nat) (finished : List String) (line : String) : List String → List String
  | [] => finished ++ [line]
  | word :: words =>
    if line.length + 1 + word.length ≤ width then
      wrapWords width finished (line ++ " " ++ word) words
    else
      wrapWords width (finished ++ [line]) word words

/-- The lines of a text, each at most as wide as given. -/
def wrap (width : Nat) (text : String) : List String :=
  match split ' ' text with
  | [] => []
  | word :: words => wrapWords width [] word words

end SchemaGuard.Text
