import SchemaGuard.Source.Formatted
import SchemaGuard.Text.Identifier
import SchemaGuard.Text.Lines

/-!
# Lexing

From the characters of a source text to its tokens. At the start of a line the indentation is compared
with those that are open; inside brackets lines do not count. Tabs reach to the next multiple of eight,
but whether one indentation is deeper than another may not depend on that.
-/

namespace SchemaGuard.Source

/-- The width of an indentation, with tabs taken for eight blanks and for one. -/
structure Indentation where
  wide : Nat
  narrow : Nat
deriving DecidableEq

/-- The number of indentations, the leftmost included, that may be open at once. -/
def maxIndents : Nat := 100

/-- The number of brackets that may be open at once. -/
def maxBrackets : Nat := 200

/-- What lexing builds up, the last first. -/
structure Lexing where
  tokens : List Token
  indents : List Indentation
  brackets : List Char
  atLineStart : Bool

namespace Lexing

def start : Lexing := ⟨[], [⟨0, 0⟩], [], true⟩

def emit (lexing : Lexing) (token : Token) : Lexing := { lexing with tokens := token :: lexing.tokens }

end Lexing

/-! ## Texts -/

/-- Passes over a text in simple quotes, giving what is in it and what follows. -/
def closeSimple (quote : Char) : List Char → Option (List Char × List Char)
  | '\\' :: c :: rest => (closeSimple quote rest).map fun (body, after) => ('\\' :: c :: body, after)
  | c :: rest =>
    if c == quote then some ([], rest)
    else if c == '\n' || c == '\\' then none
    else (closeSimple quote rest).map fun (body, after) => (c :: body, after)
  | [] => none

/-- Passes over a text in triple quotes, giving what is in it and what follows. -/
def closeTriple (quote : Char) : List Char → Option (List Char × List Char)
  | '\\' :: c :: rest => (closeTriple quote rest).map fun (body, after) => ('\\' :: c :: body, after)
  | c :: rest =>
    if c == '\\' then none
    else if c == quote && [quote, quote].isPrefixOf rest then some ([], rest.drop 2)
    else (closeTriple quote rest).map fun (body, after) => (c :: body, after)
  | [] => none

/-- The marks that may stand before a text. -/
def textMarks : List String := ["b", "u", "r", "f", "br", "rb", "fr", "rf"]

/-- Cuts characters into tokens, if they can be. -/
abbrev Cutter := List Char → Option (List Token)

/-- The tokens of an expression in a formatted text, which counts as bracketed. -/
def fieldTokens (cut : Cutter) (expression : List Char) : Option (List Token) :=
  cut ('(' :: expression ++ [')'])

/-- Passes over a text with its marks, giving its token. -/
def passText (cut : Cutter) (marks : List Char) (quote : Char) (rest : List Char) :
    Option (Token × List Char) := do
  let isRaw := marks.contains 'r'
  let isBytes := marks.contains 'b'
  let (body, after) ←
    if [quote, quote].isPrefixOf rest then closeTriple quote (rest.drop 2) else closeSimple quote rest
  if marks.contains 'f' then
    let expressions ← Formatted.expressions? isRaw body
    return (.text false (← expressions.mapM (fieldTokens cut)), after)
  else if isBytes && body.any (·.toNat ≥ 128) then
    none
  else if !isRaw && !escapesAreComplete isBytes body then
    none
  else
    return (.text isBytes [], after)

/-- Passes over a text, if one starts here, with up to two marks before it. -/
def text? (cut : Cutter) (chars : List Char) : Option (Option (Token × List Char)) :=
  let marks := ((chars.take 2).takeWhile Char.isAlpha).map Char.toLower
  let isQuote (c : Char) : Bool := c == '"' || c == '\''
  match chars.drop marks.length with
  | quote :: rest =>
    if isQuote quote && (marks.isEmpty || textMarks.contains (String.ofList marks)) then
      some (passText cut marks quote rest)
    else
      none
  | [] => none

/-! ## Names and symbols -/

def word (chars : List Char) : Option (Token × List Char) :=
  let letters := chars.takeWhile Numeral.isNameLike
  let name := String.ofList letters
  if !Text.isIdentifier name then none
  else some (if Text.isKeyword name then .keyword name else .name name, chars.drop letters.length)

def longSymbol? (chars : List Char) : Option String :=
  longSymbols.find? fun symbol => symbol.toList.isPrefixOf chars

/-- Keeps track of brackets. -/
def bracket (lexing : Lexing) (c : Char) : Option Lexing :=
  match closing? c with
  | some close =>
    if lexing.brackets.length ≥ maxBrackets then none
    else some { lexing with brackets := close :: lexing.brackets }
  | none =>
    if isClosing c then
      match lexing.brackets with
      | expected :: brackets => if expected == c then some { lexing with brackets } else none
      | [] => none
    else
      some lexing

def symbol (lexing : Lexing) (chars : List Char) : Option (Lexing × List Char) :=
  match longSymbol? chars with
  | some symbol => some (lexing.emit (.op symbol), chars.drop symbol.length)
  | none =>
    match chars with
    | c :: rest =>
      if shortSymbols.contains c then
        (bracket lexing c).map fun lexing => (lexing.emit (.op (String.ofList [c])), rest)
      else
        none
    | [] => none

/-! ## Lines -/

/-- Measures an indentation, which may go on after a backslash at the end of a line; then the width before
the first such backslash counts, unless it is zero. -/
def measure (indentation : Indentation) (settled : Nat) : List Char → Option (Indentation × List Char)
  | ' ' :: rest => measure ⟨indentation.wide + 1, indentation.narrow + 1⟩ settled rest
  | '\t' :: rest => measure ⟨(indentation.wide / 8 + 1) * 8, indentation.narrow + 1⟩ settled rest
  | '\x0c' :: rest => measure ⟨0, 0⟩ settled rest
  | '\\' :: '\n' :: c :: rest =>
    measure indentation (if settled = 0 then indentation.wide else settled) (c :: rest)
  | '\\' :: _ => none
  | rest => some (if settled = 0 then indentation else ⟨settled, settled⟩, rest)

/-- Closes the indentations that are deeper than a line's. -/
def closeIndents (indentation : Indentation) (lexing : Lexing) : List Indentation → Option Lexing
  | [] => none
  | top :: below =>
    if indentation.wide < top.wide then closeIndents indentation (lexing.emit .dedent) below
    else if indentation = top then some { lexing with indents := top :: below }
    else none

/-- Begins a line with an indentation. -/
def beginLine (lexing : Lexing) (indentation : Indentation) : Option Lexing :=
  match lexing.indents with
  | [] => none
  | top :: _ =>
    if indentation.wide > top.wide then
      if indentation.narrow > top.narrow && lexing.indents.length < maxIndents then
        some { lexing.emit .indent with indents := indentation :: lexing.indents }
      else
        none
    else
      closeIndents indentation lexing lexing.indents

def skipComment (chars : List Char) : List Char := chars.dropWhile (· != '\n')

/-- Lexes the start of a line; a line without tokens is passed over. -/
def lineStart (lexing : Lexing) (chars : List Char) : Option (Lexing × List Char) := do
  match ← measure ⟨0, 0⟩ 0 chars with
  | (_, '\n' :: rest) => return (lexing, rest)
  | (_, '#' :: rest) => return (lexing, skipComment rest)
  | (_, []) => return (lexing, [])
  | (indentation, rest) => return ({ ← beginLine lexing indentation with atLineStart := false }, rest)

/-- Lexes a token inside a line. -/
def inLine (cut : Cutter) (lexing : Lexing) (chars : List Char) : Option (Lexing × List Char) :=
  match chars with
  | [] => some (lexing, [])
  | ' ' :: rest => some (lexing, rest)
  | '\t' :: rest => some (lexing, rest)
  | '\x0c' :: rest => some (lexing, rest)
  | '#' :: rest => some (lexing, skipComment rest)
  | '\n' :: rest =>
    if lexing.brackets.isEmpty then some ({ lexing.emit .newline with atLineStart := true }, rest)
    else some (lexing, rest)
  | '\\' :: '\n' :: c :: rest => some (lexing, c :: rest)
  | c :: rest =>
    if c.isDigit || (c == '.' && (rest.head?.map Char.isDigit).getD false) then
      let after := if c == '.' then Numeral.fraction? chars else Numeral.pass? chars
      after.map fun after => (lexing.emit (.number (Numeral.isImaginary chars after)), after)
    else
      match text? cut chars with
      | some found => found.map fun (token, after) => (lexing.emit token, after)
      | none =>
        if Numeral.isNameLike c then (word chars).map fun (token, after) => (lexing.emit token, after)
        else symbol lexing chars

/-- Ends a text: the last line ends, and all indentations close. -/
def finish (lexing : Lexing) : Option (List Token) :=
  if !lexing.brackets.isEmpty then
    none
  else
    let ended := if lexing.atLineStart then lexing else lexing.emit .newline
    some (ended.tokens.reverse ++ List.replicate (lexing.indents.length - 1) .dedent)

/-- Lexes characters; every second step passes over one, and an expression in a formatted text is shorter
than the text. -/
def lexFrom : Nat → Lexing → List Char → Option (List Token)
  | _, lexing, [] => finish lexing
  | 0, _, _ => none
  | fuel + 1, lexing, chars => do
    let (lexing, rest) ←
      if lexing.atLineStart then lineStart lexing chars
      else inLine (lexFrom fuel .start) lexing chars
    lexFrom fuel lexing rest

/-- The tokens of a source text, if it can be cut into tokens. -/
def lex? (text : String) : Option (List Token) :=
  let chars := Text.lineFeeds text.toList
  lexFrom (2 * chars.length + 2) .start chars

end SchemaGuard.Source
