import SchemaGuard.Source.Token

/-!
# Expressions

Which sequences of tokens are expressions. What is recognized is passed over, and of its structure only
the `Shape` is kept that decides whether it can be assigned to.

The grammar is recursive everywhere. A production here takes the recognizer of all symbols as a
parameter, so that the recursion can be tied, and bounded, in one place. How operators bind is of no
matter here, only which operands they take.
-/

namespace SchemaGuard.Source

/-- What can be told of an expression for an assignment to it. -/
inductive Shape where
  | name
  | member
  | starred (shape : Shape)
  | group (shape : Shape)
  | tuple (items : List Shape)
  | list (items : List Shape)
  | other

namespace Shape

def isStarred : Shape → Bool
  | starred _ => true
  | _ => false

mutual

/-- Whether a shape can be assigned to. -/
def isTarget : Shape → Bool
  | name => true
  | member => true
  | starred (starred _) => false
  | starred shape => isTarget shape
  | group (starred _) => false
  | group shape => isTarget shape
  | tuple items => areTargets items
  | list items => areTargets items
  | other => false

def areTargets : List Shape → Bool
  | [] => true
  | item :: items => isTarget item && areTargets items

end

/-- Whether a shape is one place that can be assigned to. -/
def isSingle : Shape → Bool
  | name => true
  | member => true
  | group shape => isSingle shape
  | _ => false

mutual

/-- Whether a shape can be deleted. -/
def isDeletable : Shape → Bool
  | name => true
  | member => true
  | group shape => isDeletable shape
  | tuple items => areDeletable items
  | list items => areDeletable items
  | _ => false

def areDeletable : List Shape → Bool
  | [] => true
  | item :: items => isDeletable item && areDeletable items

end

end Shape

/-- The symbols of the grammar that productions refer to. -/
inductive Symbol where
  | expression
  | named
  | disjunction
  | bitwise
  | starExpressions
  | casePattern
  | statement
  | block

/-- Passes over tokens that make up something. -/
abbrev Passage := List Token → Option (Shape × List Token)

/-- What a production can call on: the passages of all symbols, and a bound on how often anything can be
repeated. -/
structure Recognizer where
  bound : Nat
  pass : Symbol → Passage

instance : CoeFun Recognizer fun _ => Symbol → Passage := ⟨Recognizer.pass⟩

/-! ## Tokens -/

/-- Passes over a symbol. -/
def expect (symbol : String) : List Token → Option (List Token)
  | .op found :: rest => if found == symbol then some rest else none
  | _ => none

/-- Passes over a keyword. -/
def expectWord (keyword : String) : List Token → Option (List Token)
  | .keyword found :: rest => if found == keyword then some rest else none
  | _ => none

def expectName : List Token → Option (List Token)
  | .name _ :: rest => some rest
  | _ => none

def startsWith (symbol : String) (tokens : List Token) : Bool := (expect symbol tokens).isSome

def startsWithWord (keyword : String) (tokens : List Token) : Bool := (expectWord keyword tokens).isSome

/-- Passes over items with commas between them, and perhaps one after them. -/
def commaList (item : Passage) : Nat → List Token → Option ((List Shape × Bool) × List Token)
  | 0, _ => none
  | fuel + 1, tokens => do
    let (shape, rest) ← item tokens
    match expect "," rest with
    | none => return (([shape], false), rest)
    | some after =>
      match commaList item fuel after with
      | some ((shapes, _), rest) => return ((shape :: shapes, true), rest)
      | none => return (([shape], true), after)

/-- Passes over what may follow a first item: a comma and more items. -/
def moreItems (self : Recognizer) (item : Passage) (first : Shape) (tokens : List Token) :
    (List Shape × Bool) × List Token :=
  match expect "," tokens with
  | none => (([first], false), tokens)
  | some after =>
    match commaList item self.bound after with
    | some ((shapes, _), rest) => ((first :: shapes, true), rest)
    | none => (([first], true), after)

def commas (self : Recognizer) (item : Passage) (tokens : List Token) :
    Option ((List Shape × Bool) × List Token) :=
  commaList item self.bound tokens

/-- One item without a comma is that item, anything else a tuple. -/
def tupleOf (self : Recognizer) (item : Passage) : Passage := fun tokens => do
  match ← commas self item tokens with
  | (([shape], false), rest) => return (shape, rest)
  | ((shapes, _), rest) => return (.tuple shapes, rest)

/-- Passes over operators with operands after them. -/
def operations (operator : List Token → Option (List Token)) (operand : Passage) : Nat → Passage
  | 0, _ => none
  | fuel + 1, tokens =>
    match operator tokens with
    | none => some (.other, tokens)
    | some rest => do
      let (_, rest) ← operand rest
      operations operator operand fuel rest

/-- Passes over operands with operators between them. -/
def chain (self : Recognizer) (operator : List Token → Option (List Token)) (operand : Passage) :
    Passage := fun tokens => do
  let (shape, rest) ← operand tokens
  match operator rest with
  | none => return (shape, rest)
  | some _ => operations operator operand self.bound rest

/-! ## Targets and comprehensions -/

/-- Something with a star before it. -/
def starredBy (passage : Passage) : Passage := fun tokens => do
  let rest ← expect "*" tokens
  let (shape, rest) ← passage rest
  return (.starred shape, rest)

def starExpression (self : Recognizer) : Passage := fun tokens =>
  if startsWith "*" tokens then starredBy (self .bitwise) tokens else self .expression tokens

def starNamed (self : Recognizer) : Passage := fun tokens =>
  if startsWith "*" tokens then starredBy (self .bitwise) tokens else self .named tokens

def target (self : Recognizer) : Passage := fun tokens => do
  let (shape, rest) ← if startsWith "*" tokens then starredBy (self .bitwise) tokens else self .bitwise tokens
  if shape.isTarget then some (shape, rest) else none

def targets (self : Recognizer) : Passage := tupleOf self (target self)

/-- The conditions of a comprehension. -/
def conditions (self : Recognizer) : Nat → List Token → Option (List Token)
  | 0, _ => none
  | fuel + 1, tokens =>
    match expectWord "if" tokens with
    | none => some tokens
    | some rest => do
      let (_, rest) ← self .disjunction rest
      conditions self fuel rest

/-- A `for` of a comprehension, with its conditions. -/
def comprehensionFor (self : Recognizer) (tokens : List Token) : Option (List Token) := do
  let tokens := (expectWord "async" tokens).getD tokens
  let rest ← expectWord "for" tokens
  let (_, rest) ← targets self rest
  let rest ← expectWord "in" rest
  let (_, rest) ← self .disjunction rest
  conditions self self.bound rest

def startsComprehension (tokens : List Token) : Bool :=
  startsWithWord "for" tokens || startsWithWord "async" tokens

/-- The clauses of a comprehension, of which there is at least one. -/
def comprehension (self : Recognizer) : Nat → List Token → Option (List Token)
  | 0, _ => none
  | fuel + 1, tokens => do
    let rest ← comprehensionFor self tokens
    if startsComprehension rest then comprehension self fuel rest else return rest

def clauses (self : Recognizer) (tokens : List Token) : Option (List Token) :=
  comprehension self self.bound tokens

def yieldExpression (self : Recognizer) : Passage := fun tokens => do
  let rest ← expectWord "yield" tokens
  match expectWord "from" rest with
  | some rest =>
    let (_, rest) ← self .expression rest
    return (.other, rest)
  | none =>
    match self .starExpressions rest with
    | some (_, rest) => return (.other, rest)
    | none => return (.other, rest)

/-! ## Calls and subscripts -/

/-- What may still come among the arguments of a call. -/
inductive ArgumentPhase where
  | positional
  | keyword
  | doubleStar

/-- An argument, and what may come after it. -/
def argument (self : Recognizer) (phase : ArgumentPhase) (tokens : List Token) :
    Option (ArgumentPhase × List Token) :=
  match tokens, phase with
  | .op "**" :: rest, _ => (self .expression rest).map fun (_, rest) => (.doubleStar, rest)
  | .op "*" :: _, .doubleStar => none
  | .op "*" :: rest, phase => (self .expression rest).map fun (_, rest) => (phase, rest)
  | .name _ :: .op "=" :: rest, .doubleStar =>
    (self .expression rest).map fun (_, rest) => (.doubleStar, rest)
  | .name _ :: .op "=" :: rest, _ => (self .expression rest).map fun (_, rest) => (.keyword, rest)
  | tokens, .positional => (self .named tokens).map fun (_, rest) => (.positional, rest)
  | _, _ => none

/-- The arguments of a call up to its closing bracket. -/
def arguments (self : Recognizer) : Nat → ArgumentPhase → List Token → Option (List Token)
  | 0, _, _ => none
  | fuel + 1, phase, tokens =>
    match expect ")" tokens with
    | some rest => some rest
    | none => do
      let (phase, rest) ← argument self phase tokens
      match expect "," rest with
      | some rest => arguments self fuel phase rest
      | none => expect ")" rest

/-- What is in the brackets of a call, after the opening one: arguments, or a lone generator. -/
def callArguments (self : Recognizer) (tokens : List Token) : Option (List Token) :=
  match expect ")" tokens with
  | some rest => some rest
  | none => do
    let (phase, rest) ← argument self .positional tokens
    match phase, startsComprehension rest && !startsWith "*" tokens with
    | .positional, true => expect ")" (← clauses self rest)
    | phase, _ =>
      match expect "," rest with
      | some rest => arguments self self.bound phase rest
      | none => expect ")" rest

/-- An expression, if there is one. -/
def optional (self : Recognizer) (tokens : List Token) : List Token :=
  match self .expression tokens with
  | some (_, rest) => rest
  | none => tokens

/-- The rest of a range, after its first colon. -/
def rangeEnd (self : Recognizer) (tokens : List Token) : List Token :=
  let rest := optional self tokens
  match expect ":" rest with
  | some rest => optional self rest
  | none => rest

def isAssignment : List Token → Bool
  | .name _ :: .op ":=" :: _ => true
  | _ => false

/-- An entry of a subscript: a range or an expression. -/
def subscript (self : Recognizer) : Passage := fun tokens =>
  match expect ":" tokens with
  | some rest => some (.other, rangeEnd self rest)
  | none =>
    if startsWith "*" tokens then
      starredBy (self .expression) tokens
    else do
      let (_, rest) ← self .named tokens
      match expect ":" rest with
      | some after => if isAssignment tokens then none else return (.other, rangeEnd self after)
      | none => return (.other, rest)

/-- What follows an atom: members, calls and subscripts. -/
def trailers (self : Recognizer) : Nat → Shape → Passage
  | 0, _, _ => none
  | fuel + 1, shape, tokens =>
    match tokens with
    | .op "." :: .name _ :: rest => trailers self fuel .member rest
    | .op "(" :: rest => do trailers self fuel .other (← callArguments self rest)
    | .op "[" :: rest => do
      let (_, rest) ← commas self (subscript self) rest
      trailers self fuel .member (← expect "]" rest)
    | .op "." :: _ => none
    | tokens => some (shape, tokens)

/-! ## Atoms -/

/-- Whether the tokens of an expression in a formatted text are one. -/
def isField (self : Recognizer) (tokens : List Token) : Bool :=
  match self .starExpressions tokens with
  | some (_, [.newline]) => true
  | _ => false

/-- Texts one after another, all of them of bytes or none. -/
def texts (self : Recognizer) (isBytes : Bool) : List Token → Option (List Token)
  | .text other fields :: rest =>
    if other == isBytes && fields.all (isField self) then texts self isBytes rest else none
  | rest => some rest

/-- What is in round brackets, after the opening one. -/
def parenthesized (self : Recognizer) : Passage := fun tokens =>
  if let some rest := expect ")" tokens then
    some (.tuple [], rest)
  else if startsWithWord "yield" tokens then do
    let (_, rest) ← yieldExpression self tokens
    return (.other, ← expect ")" rest)
  else do
    let (shape, rest) ← starNamed self tokens
    if startsComprehension rest && !shape.isStarred then
      return (.other, ← expect ")" (← clauses self rest))
    else
      match moreItems self (starNamed self) shape rest with
      | ((_, false), rest) =>
        if shape.isStarred then none else return (.group shape, ← expect ")" rest)
      | ((shapes, true), rest) => return (.tuple shapes, ← expect ")" rest)

/-- What is in square brackets, after the opening one. -/
def bracketed (self : Recognizer) : Passage := fun tokens =>
  if let some rest := expect "]" tokens then
    some (.list [], rest)
  else do
    let (shape, rest) ← starNamed self tokens
    if startsComprehension rest && !shape.isStarred then
      return (.other, ← expect "]" (← clauses self rest))
    else
      let ((shapes, _), rest) := moreItems self (starNamed self) shape rest
      return (.list shapes, ← expect "]" rest)

/-- A key with its value. -/
def pair (self : Recognizer) : Passage := fun tokens => do
  let (_, rest) ← self .expression tokens
  let (_, rest) ← self .expression (← expect ":" rest)
  return (.other, rest)

/-- A key with its value, or a dictionary that is taken over. -/
def pairOrAll (self : Recognizer) : Passage := fun tokens =>
  match expect "**" tokens with
  | some rest => (self .bitwise rest).map fun (_, rest) => (.other, rest)
  | none => pair self tokens

/-- What follows the first entry of a dictionary. -/
def dictionaryRest (self : Recognizer) (tokens : List Token) : Option (List Token) :=
  let (_, rest) := moreItems self (pairOrAll self) .other tokens
  expect "\x7d" rest

/-- What follows the first element of a set, or the first key of a dictionary. -/
def bracedRest (self : Recognizer) (isKey : Bool) (shape : Shape) (tokens : List Token) :
    Option (List Token) :=
  match expect ":" tokens with
  | some rest =>
    if !isKey then none
    else do
      let (_, rest) ← self .expression rest
      if startsComprehension rest then expect "\x7d" (← clauses self rest) else dictionaryRest self rest
  | none =>
    if startsComprehension tokens && !shape.isStarred then do expect "\x7d" (← clauses self tokens)
    else
      let (_, rest) := moreItems self (starNamed self) shape tokens
      expect "\x7d" rest

/-- What is in curly brackets, after the opening one: a dictionary or a set. -/
def braced (self : Recognizer) (tokens : List Token) : Option (List Token) :=
  if let some rest := expect "\x7d" tokens then
    some rest
  else if startsWith "**" tokens then do
    let (_, rest) ← pairOrAll self tokens
    dictionaryRest self rest
  else do
    let (shape, rest) ← starNamed self tokens
    bracedRest self (!shape.isStarred && !isAssignment tokens) shape rest

def atom (self : Recognizer) : Passage
  | .name _ :: rest => some (.name, rest)
  | .number _ :: rest => some (.other, rest)
  | .text isBytes fields :: rest =>
    (texts self isBytes (.text isBytes fields :: rest)).map fun rest => (.other, rest)
  | .keyword word :: rest => if ["True", "False", "None"].contains word then some (.other, rest) else none
  | .op "..." :: rest => some (.other, rest)
  | .op "(" :: rest => parenthesized self rest
  | .op "[" :: rest => bracketed self rest
  | .op "\x7b" :: rest => (braced self rest).map fun rest => (.other, rest)
  | _ => none

/-! ## Operators -/

def primary (self : Recognizer) : Passage := fun tokens => do
  let (shape, rest) ← atom self tokens
  trailers self self.bound shape rest

def awaited (self : Recognizer) : Passage := fun tokens =>
  match expectWord "await" tokens with
  | some rest => (primary self rest).map fun (_, rest) => (.other, rest)
  | none => primary self tokens

mutual

/-- A primary under signs. -/
def factor (self : Recognizer) : Nat → Passage
  | 0, _ => none
  | fuel + 1, tokens =>
    match tokens with
    | .op sign :: rest =>
      if ["+", "-", "~"].contains sign then (factor self fuel rest).map fun (_, rest) => (.other, rest)
      else power self fuel tokens
    | tokens => power self fuel tokens

/-- A primary with an exponent, which may have signs again. -/
def power (self : Recognizer) : Nat → Passage
  | 0, _ => none
  | fuel + 1, tokens => do
    let (shape, rest) ← awaited self tokens
    match expect "**" rest with
    | none => return (shape, rest)
    | some rest =>
      let (_, rest) ← factor self fuel rest
      return (.other, rest)

end

def arithmeticOperators : List String := ["|", "^", "&", "<<", ">>", "+", "-", "*", "/", "//", "%", "@"]

def arithmeticOperator : List Token → Option (List Token)
  | .op symbol :: rest => if arithmeticOperators.contains symbol then some rest else none
  | _ => none

def bitwise (self : Recognizer) : Passage := fun tokens =>
  chain self arithmeticOperator (factor self self.bound) tokens

def comparisonOperator : List Token → Option (List Token)
  | .op symbol :: rest => if ["==", "!=", "<=", "<", ">=", ">"].contains symbol then some rest else none
  | .keyword "in" :: rest => some rest
  | .keyword "not" :: .keyword "in" :: rest => some rest
  | .keyword "is" :: .keyword "not" :: rest => some rest
  | .keyword "is" :: rest => some rest
  | _ => none

def inversion (self : Recognizer) : Nat → Passage
  | 0, _ => none
  | fuel + 1, tokens =>
    match expectWord "not" tokens with
    | some rest => (inversion self fuel rest).map fun (_, rest) => (.other, rest)
    | none => chain self comparisonOperator (self .bitwise) tokens

def logicalOperator : List Token → Option (List Token)
  | .keyword "and" :: rest => some rest
  | .keyword "or" :: rest => some rest
  | _ => none

def disjunction (self : Recognizer) : Passage := fun tokens =>
  chain self logicalOperator (inversion self self.bound) tokens

/-! ## Parameters -/

/-- A default value, if there is one. -/
def defaultValue (self : Recognizer) (tokens : List Token) : Option (Bool × List Token) :=
  match expect "=" tokens with
  | some rest => (self .expression rest).map fun (_, rest) => (true, rest)
  | none => some (false, tokens)

/-- The type that is noted after a parameter, if there is one and there may be one. -/
def notedType (self : Recognizer) (isAllowed isStarred : Bool) (tokens : List Token) : Option (List Token) :=
  match expect ":" tokens with
  | some rest =>
    if !isAllowed then some tokens
    else if isStarred then (starExpression self rest).map (·.2)
    else (self .expression rest).map (·.2)
  | none => some tokens

/-- The end of a parameter: a comma, or the end of the parameters. -/
def parameterEnd (close : String) (tokens : List Token) : Option (List Token) :=
  match expect "," tokens with
  | some rest => some rest
  | none => if startsWith close tokens then some tokens else none

/-- The parameter that takes all other keywords, after its stars. -/
def keywordsParameter (self : Recognizer) (annotated : Bool) (close : String) (tokens : List Token) :
    Option (List Token) := do
  let rest ← notedType self annotated false (← expectName tokens)
  let rest := (expect "," rest).getD rest
  if startsWith close rest then some rest else none

/-- Parameters that are given by keyword; the first may be owed. -/
def keywordParameters (self : Recognizer) (annotated : Bool) (close : String) :
    Nat → Bool → List Token → Option (List Token)
  | 0, _, _ => none
  | fuel + 1, isOwed, tokens =>
    if startsWith close tokens then
      if isOwed then none else some tokens
    else
      match expect "**" tokens with
      | some rest => if isOwed then none else keywordsParameter self annotated close rest
      | none => do
        let rest ← notedType self annotated false (← expectName tokens)
        let (_, rest) ← defaultValue self rest
        keywordParameters self annotated close fuel false (← parameterEnd close rest)

/-- The parameter that takes all other positions, or just its star, and what follows it. -/
def starParameter (self : Recognizer) (annotated : Bool) (close : String) (tokens : List Token) :
    Option (List Token) :=
  match expect "," tokens with
  | some rest => keywordParameters self annotated close self.bound true rest
  | none => do
    let rest ← notedType self annotated true (← expectName tokens)
    keywordParameters self annotated close self.bound false (← parameterEnd close rest)

/-- What has been seen of the parameters of a function. -/
structure ParametersSeen where
  any : Bool
  default : Bool
  slash : Bool

/-- The parameters of a function or lambda up to what closes them. -/
def parameters (self : Recognizer) (annotated : Bool) (close : String) :
    Nat → ParametersSeen → List Token → Option (List Token)
  | 0, _, _ => none
  | fuel + 1, seen, tokens =>
    if startsWith close tokens then some tokens
    else
      match tokens with
      | .op "/" :: rest =>
        if seen.any && !seen.slash then do
          parameters self annotated close fuel { seen with slash := true } (← parameterEnd close rest)
        else
          none
      | .op "*" :: rest => starParameter self annotated close rest
      | .op "**" :: rest => keywordsParameter self annotated close rest
      | tokens => do
        let rest ← notedType self annotated false (← expectName tokens)
        let (hasDefault, rest) ← defaultValue self rest
        if seen.default && !hasDefault then none
        else
          parameters self annotated close fuel { seen with any := true, default := hasDefault }
            (← parameterEnd close rest)

def allParameters (self : Recognizer) (annotated : Bool) (close : String) (tokens : List Token) :
    Option (List Token) :=
  parameters self annotated close self.bound ⟨false, false, false⟩ tokens

/-! ## Whole expressions -/

def lambda (self : Recognizer) (tokens : List Token) : Option (List Token) := do
  let rest ← allParameters self false ":" tokens
  let (_, rest) ← self .expression (← expect ":" rest)
  return rest

def expression (self : Recognizer) : Passage := fun tokens =>
  match expectWord "lambda" tokens with
  | some rest => (lambda self rest).map fun rest => (.other, rest)
  | none => do
    let (shape, rest) ← self .disjunction tokens
    match expectWord "if" rest with
    | none => return (shape, rest)
    | some rest =>
      let (_, rest) ← self .disjunction rest
      let (_, rest) ← self .expression (← expectWord "else" rest)
      return (.other, rest)

/-- An expression that may be given a name. -/
def named (self : Recognizer) : Passage
  | .name _ :: .op ":=" :: rest => (self .expression rest).map fun (_, rest) => (.other, rest)
  | tokens => do
    let (shape, rest) ← self .expression tokens
    if startsWith ":=" rest then none else some (shape, rest)

def starExpressions (self : Recognizer) : Passage := tupleOf self (starExpression self)

end SchemaGuard.Source
