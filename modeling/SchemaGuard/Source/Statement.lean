import SchemaGuard.Source.CasePattern

/-!
# Statements

Which sequences of tokens are statements, and the recognizer that ties the productions together.
-/

namespace SchemaGuard.Source

/-- What is assigned: a value or what a generator is sent. -/
def assigned (self : Recognizer) : Passage := fun tokens =>
  if startsWithWord "yield" tokens then yieldExpression self tokens else self .starExpressions tokens

/-- What is assigned through one or more targets. -/
def assignments (self : Recognizer) : Nat → List Token → Option (List Token)
  | 0, _ => none
  | fuel + 1, tokens => do
    let (shape, rest) ← assigned self tokens
    match expect "=" rest with
    | none => return rest
    | some rest => if shape.isTarget then assignments self fuel rest else none

def augmentedOperators : List String :=
  ["+=", "-=", "*=", "/=", "%=", "&=", "|=", "^=", "<<=", ">>=", "**=", "//=", "@="]

/-- A statement that starts with an expression. -/
def expressionStatement (self : Recognizer) (tokens : List Token) : Option (List Token) := do
  let (shape, rest) ← assigned self tokens
  match rest with
  | .op "=" :: rest => if shape.isTarget then assignments self self.bound rest else none
  | .op ":" :: rest =>
    if !shape.isSingle then none
    else
      let (_, rest) ← self .expression rest
      match expect "=" rest with
      | some rest => (assigned self rest).map (·.2)
      | none => return rest
  | .op symbol :: rest' =>
    if augmentedOperators.contains symbol then
      if shape.isSingle then (assigned self rest').map (·.2) else none
    else
      return rest
  | rest => return rest

/-! ## Imports -/

/-- Names with dots between them. -/
def dottedName : List Token → Option (List Token)
  | .name _ :: .op "." :: rest => dottedName rest
  | .name _ :: rest => some rest
  | _ => none

/-- A new name for what is imported, if there is one. -/
def renamed (tokens : List Token) : Option (List Token) :=
  match expectWord "as" tokens with
  | some rest => expectName rest
  | none => some tokens

def importedModule : Passage := fun tokens => do
  return (.other, ← renamed (← dottedName tokens))

def importedName : Passage := fun tokens => do
  return (.other, ← renamed (← expectName tokens))

def plainName : Passage := fun tokens => (expectName tokens).map fun rest => (.other, rest)

/-- Names with commas between them and none after them. -/
def strictCommas (self : Recognizer) (item : Passage) (tokens : List Token) : Option (List Token) := do
  let (_, rest) ← item tokens
  let (_, rest) ← operations (expect ",") item self.bound rest
  return rest

/-- The dots before the name of a module. -/
def leadingDots : List Token → List Token
  | .op "." :: rest => leadingDots rest
  | .op "..." :: rest => leadingDots rest
  | rest => rest

/-- What is imported from a module. -/
def importedNames (self : Recognizer) (tokens : List Token) : Option (List Token) :=
  match tokens with
  | .op "*" :: rest => some rest
  | .op "(" :: rest => do
    let (_, rest) ← commas self importedName rest
    expect ")" rest
  | tokens => do
    let rest ← strictCommas self importedName tokens
    if startsWith "," rest then none else some rest

def importFrom (self : Recognizer) (tokens : List Token) : Option (List Token) := do
  let undotted := leadingDots tokens
  let rest ←
    match dottedName undotted with
    | some rest => some rest
    | none => if undotted.length < tokens.length then some undotted else none
  importedNames self (← expectWord "import" rest)

/-! ## Simple statements -/

/-- An expression, if there is one before the end of the statement. -/
def optionalExpressions (self : Recognizer) (tokens : List Token) : List Token :=
  match self .starExpressions tokens with
  | some (_, rest) => rest
  | none => tokens

def raiseStatement (self : Recognizer) (tokens : List Token) : Option (List Token) :=
  match self .expression tokens with
  | none => some tokens
  | some (_, rest) =>
    match expectWord "from" rest with
    | some rest => (self .expression rest).map (·.2)
    | none => some rest

def assertStatement (self : Recognizer) (tokens : List Token) : Option (List Token) := do
  let (_, rest) ← self .expression tokens
  match expect "," rest with
  | some rest => (self .expression rest).map (·.2)
  | none => return rest

def deleteStatement (self : Recognizer) (tokens : List Token) : Option (List Token) := do
  let (shape, rest) ← tupleOf self (self .bitwise) tokens
  if shape.isDeletable then some rest else none

/-- A parameter of a type, which may have a bound unless it is starred. -/
def typeParameter (self : Recognizer) : Passage
  | .op "*" :: .name _ :: rest => some (.other, rest)
  | .op "**" :: .name _ :: rest => some (.other, rest)
  | .name _ :: .op ":" :: rest => self .expression rest
  | .name _ :: rest => some (.other, rest)
  | _ => none

/-- The parameters of a type, if there are any. -/
def typeParameters (self : Recognizer) (tokens : List Token) : Option (List Token) :=
  match expect "[" tokens with
  | some rest => do
    let (_, rest) ← commas self (typeParameter self) rest
    expect "]" rest
  | none => some tokens

/-- A declaration of a name for a type. -/
def typeStatement (self : Recognizer) : List Token → Option (List Token)
  | .name "type" :: .name _ :: rest => do
    let rest ← expect "=" (← typeParameters self rest)
    let (_, rest) ← self .expression rest
    return rest
  | _ => none

def simpleStatement (self : Recognizer) (tokens : List Token) : Option (List Token) :=
  match tokens with
  | .keyword "pass" :: rest => some rest
  | .keyword "break" :: rest => some rest
  | .keyword "continue" :: rest => some rest
  | .keyword "return" :: rest => some (optionalExpressions self rest)
  | .keyword "raise" :: rest => raiseStatement self rest
  | .keyword "global" :: rest => strictCommas self plainName rest
  | .keyword "nonlocal" :: rest => strictCommas self plainName rest
  | .keyword "del" :: rest => deleteStatement self rest
  | .keyword "assert" :: rest => assertStatement self rest
  | .keyword "import" :: rest => strictCommas self importedModule rest
  | .keyword "from" :: rest => importFrom self rest
  | tokens =>
    match typeStatement self tokens with
    | some rest => some rest
    | none => expressionStatement self tokens

/-- Simple statements on one line. -/
def simpleStatements (self : Recognizer) : Nat → List Token → Option (List Token)
  | 0, _ => none
  | fuel + 1, tokens => do
    let rest ← simpleStatement self tokens
    match rest with
    | .newline :: rest => return rest
    | .op ";" :: .newline :: rest => return rest
    | .op ";" :: rest => simpleStatements self fuel rest
    | _ => none

/-! ## Compound statements -/

/-- A colon and a block. -/
def colonBlock (self : Recognizer) (tokens : List Token) : Option (List Token) := do
  let (_, rest) ← self .block (← expect ":" tokens)
  return rest

/-- A block after a keyword, if the keyword is there. -/
def optionalBlock (self : Recognizer) (keyword : String) (tokens : List Token) : Option (List Token) :=
  match expectWord keyword tokens with
  | some rest => colonBlock self rest
  | none => some tokens

/-- A condition and a block, and what follows in other cases. -/
def ifStatement (self : Recognizer) : Nat → List Token → Option (List Token)
  | 0, _ => none
  | fuel + 1, tokens => do
    let (_, rest) ← self .named tokens
    let rest ← colonBlock self rest
    match expectWord "elif" rest with
    | some rest => ifStatement self fuel rest
    | none => optionalBlock self "else" rest

def whileStatement (self : Recognizer) (tokens : List Token) : Option (List Token) := do
  let (_, rest) ← self .named tokens
  optionalBlock self "else" (← colonBlock self rest)

def forStatement (self : Recognizer) (tokens : List Token) : Option (List Token) := do
  let (_, rest) ← targets self tokens
  let (_, rest) ← self .starExpressions (← expectWord "in" rest)
  optionalBlock self "else" (← colonBlock self rest)

/-- A context, which may be bound to a target. -/
def withItem (self : Recognizer) : Passage := fun tokens => do
  let (_, rest) ← self .expression tokens
  match expectWord "as" rest with
  | none => return (.other, rest)
  | some rest => target self rest

/-- Contexts in brackets, up to the colon. -/
def bracketedContexts (self : Recognizer) (tokens : List Token) : Option (List Token) := do
  let (_, rest) ← commas self (withItem self) (← expect "(" tokens)
  let rest ← expect ")" rest
  if startsWith ":" rest then some rest else none

def withStatement (self : Recognizer) (tokens : List Token) : Option (List Token) := do
  let rest ←
    match bracketedContexts self tokens with
    | some rest => some rest
    | none => strictCommas self (withItem self) tokens
  colonBlock self rest

/-- A handler of errors, after its keyword. -/
def handler (self : Recognizer) (tokens : List Token) : Option (List Token) :=
  if startsWith ":" tokens then colonBlock self tokens
  else do
    let (_, rest) ← self .expression ((expect "*" tokens).getD tokens)
    let rest ← renamed rest
    colonBlock self rest

/-- Handlers, all of them with a star or none. -/
def handlers (self : Recognizer) (isStarred : Bool) : Nat → List Token → Option (List Token)
  | 0, _ => none
  | fuel + 1, tokens =>
    match expectWord "except" tokens with
    | none => some tokens
    | some rest =>
      if startsWith "*" rest == isStarred then do handlers self isStarred fuel (← handler self rest)
      else none

def tryStatement (self : Recognizer) (tokens : List Token) : Option (List Token) := do
  let rest ← colonBlock self tokens
  match expectWord "except" rest with
  | some after =>
    let rest ← handlers self (startsWith "*" after) self.bound rest
    optionalBlock self "finally" (← optionalBlock self "else" rest)
  | none => colonBlock self (← expectWord "finally" rest)

def functionStatement (self : Recognizer) (tokens : List Token) : Option (List Token) := do
  let rest ← expect "(" (← expectName tokens)
  let rest ← expect ")" (← allParameters self true ")" rest)
  match expect "->" rest with
  | some rest =>
    let (_, rest) ← self .expression rest
    colonBlock self rest
  | none => colonBlock self rest

def classStatement (self : Recognizer) (tokens : List Token) : Option (List Token) := do
  let rest ← expectName tokens
  match expect "(" rest with
  | some rest => do colonBlock self (← arguments self self.bound .positional rest)
  | none => colonBlock self rest

/-- What a value is matched by: something with a comma after it is a tuple. -/
def subject (self : Recognizer) (tokens : List Token) : Option (List Token) := do
  let (shape, rest) ← starNamed self tokens
  match moreItems self (starNamed self) shape rest with
  | ((_, false), rest) => if shape.isStarred then none else some rest
  | ((_, true), rest) => some rest

/-- The condition on a case, if there is one. -/
def guard (self : Recognizer) (tokens : List Token) : Option (List Token) :=
  match expectWord "if" tokens with
  | some rest => (self .named rest).map (·.2)
  | none => some tokens

/-- The cases of a value up to the end of their block; there is at least one. -/
def cases (self : Recognizer) : Nat → List Token → Option (List Token)
  | 0, _ => none
  | fuel + 1, tokens =>
    match tokens with
    | .name "case" :: rest => do
      let rest ← colonBlock self (← guard self (← casePatterns self rest))
      match rest with
      | .dedent :: rest => return rest
      | rest => cases self fuel rest
    | _ => none

def matchStatement (self : Recognizer) (tokens : List Token) : Option (List Token) := do
  match ← expect ":" (← subject self tokens) with
  | .newline :: .indent :: rest => cases self self.bound rest
  | _ => none

/-- What can be decorated, or run apart from the rest. -/
def definition (self : Recognizer) (tokens : List Token) : Option (List Token) :=
  match tokens with
  | .keyword "def" :: rest => functionStatement self rest
  | .keyword "async" :: .keyword "def" :: rest => functionStatement self rest
  | .keyword "class" :: rest => classStatement self rest
  | _ => none

/-- Decorators, each on a line, and what they decorate. -/
def decorated (self : Recognizer) : Nat → List Token → Option (List Token)
  | 0, _ => none
  | fuel + 1, tokens =>
    match expect "@" tokens with
    | none => definition self tokens
    | some rest => do
      match ← self .named rest with
      | (_, .newline :: rest) => decorated self fuel rest
      | _ => none

def statement (self : Recognizer) (tokens : List Token) : Option (List Token) :=
  match tokens with
  | .keyword "if" :: rest => ifStatement self self.bound rest
  | .keyword "while" :: rest => whileStatement self rest
  | .keyword "for" :: rest => forStatement self rest
  | .keyword "async" :: .keyword "for" :: rest => forStatement self rest
  | .keyword "with" :: rest => withStatement self rest
  | .keyword "async" :: .keyword "with" :: rest => withStatement self rest
  | .keyword "try" :: rest => tryStatement self rest
  | .keyword "def" :: _ => definition self tokens
  | .keyword "async" :: .keyword "def" :: _ => definition self tokens
  | .keyword "class" :: _ => definition self tokens
  | .op "@" :: _ => decorated self self.bound tokens
  | .name "match" :: rest =>
    match matchStatement self rest with
    | some rest => some rest
    | none => simpleStatements self self.bound tokens
  | tokens => simpleStatements self self.bound tokens

/-- Statements up to the end of a block. -/
def blockStatements (self : Recognizer) : Nat → List Token → Option (List Token)
  | 0, _ => none
  | fuel + 1, tokens => do
    let (_, rest) ← self .statement tokens
    match rest with
    | .dedent :: rest => return rest
    | rest => blockStatements self fuel rest

/-- A block: simple statements on the same line, or indented statements. -/
def block (self : Recognizer) (tokens : List Token) : Option (List Token) :=
  match tokens with
  | .newline :: .indent :: rest => blockStatements self self.bound rest
  | tokens => simpleStatements self self.bound tokens

/-! ## The recognizer -/

/-- The production of a symbol. -/
def production (self : Recognizer) : Symbol → Passage
  | .expression => expression self
  | .named => named self
  | .disjunction => disjunction self
  | .bitwise => bitwise self
  | .starExpressions => starExpressions self
  | .casePattern => casePattern self
  | .statement => fun tokens => (statement self tokens).map fun rest => (.other, rest)
  | .block => fun tokens => (block self tokens).map fun rest => (.other, rest)

/-- Passes over symbols that are not nested deeper than `fuel`. -/
def passage : Nat → Symbol → Passage
  | 0, _, _ => none
  | fuel + 1, symbol, tokens => production ⟨fuel, passage fuel⟩ symbol tokens

/-- Whether tokens are statements. -/
def areStatements (pass : Passage) : Nat → List Token → Bool
  | _, [] => true
  | 0, _ => false
  | fuel + 1, tokens =>
    match pass tokens with
    | some (_, rest) => areStatements pass fuel rest
    | none => false

/-- Whether tokens are a module. At most seven symbols are nested around a token that is not yet passed
over, so as many for every token are enough, and leave a bound that is greater than what is left. The
tokens inside of texts are no more than the characters given. -/
def isModule (characters : Nat) (tokens : List Token) : Bool :=
  areStatements (passage (8 * (characters + tokens.length) + 8) .statement) tokens.length tokens

end SchemaGuard.Source
