import SchemaGuard.Source.Lexer
import SchemaGuard.Source.Statement

/-!
# Source texts

Whether a text is a module of the language that modules are written in, as far as its grammar says:
that of version 3.11 with `type` statements added to it. There, a null character is not a fault of
grammar, but a defect of its own.
-/

namespace SchemaGuard

/-- What is wrong with a source text. -/
inductive SourceDefect where
  | malformed
  | nullCharacter
deriving DecidableEq

/-- A check of source texts, which says what is wrong with one. -/
abbrev SourceCheck := String → Option SourceDefect

namespace Source

/-- Checks a source text against the grammar. -/
def check : SourceCheck := fun text =>
  if text.contains '\x00' then some .nullCharacter
  else
    match lex? text with
    | some tokens => if isModule text.length tokens then none else some .malformed
    | none => some .malformed

end Source

end SchemaGuard
