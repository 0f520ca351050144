/-!
# Tokens

The words of a source text. Line ends and changes of indentation are tokens too, since they carry the
structure of a text. A formatted text holds expressions, which are cut into tokens of their own.
-/

namespace SchemaGuard.Source

inductive Token where
  | name (text : String)
  | keyword (text : String)
  | number (isImaginary : Bool)
  | text (isBytes : Bool) (fields : List (List Token))
  | op (symbol : String)
  | newline
  | indent
  | dedent

/-- The symbols of more than one character, longer ones first. -/
def longSymbols : List String := [
  "**=", "//=", ">>=", "<<=", "...",
  "!=", "->", "**", "//", "<<", ">>", "<=", ">=", "==", ":=",
  "+=", "-=", "*=", "/=", "%=", "&=", "|=", "^=", "@="]

/-- The symbols of one character. -/
def shortSymbols : List Char := "()[]:,;+-*/|&<>=.%\x7b\x7d~^@".toList

/-- The brackets that open, with those that close them. -/
def closing? : Char → Option Char
  | '(' => some ')'
  | '[' => some ']'
  | '\x7b' => some '\x7d'
  | _ => none

def isClosing (c : Char) : Bool := c == ')' || c == ']' || c == '\x7d'

end SchemaGuard.Source
