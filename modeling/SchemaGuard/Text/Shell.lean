/-!
# Shell words

A text as one word of a shell command. Safe characters stand for themselves; any other text goes
between single quotes, with its own single quotes between double ones.
-/

namespace SchemaGuard.Text

/-- Characters without a meaning for the shell. -/
def isShellSafe (c : Char) : Bool := c.isAlphanum || "_@%+=:,./-".toList.contains c

/-- What stands for a character between single quotes. -/
def shellQuoteChar (c : Char) : List Char := if c == '\'' then "'\"'\"'".toList else [c]

/-- A text as a word. -/
def shellWord (text : String) : String :=
  if text.isEmpty then "''"
  else if text.toList.all isShellSafe then text
  else "'" ++ String.ofList (text.toList.flatMap shellQuoteChar) ++ "'"

end SchemaGuard.Text
