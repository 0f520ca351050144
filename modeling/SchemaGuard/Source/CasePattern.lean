import SchemaGuard.Source.Expression

/-!
# Patterns of cases

Which sequences of tokens are the patterns that a value is matched with: literals, names that are bound
or looked up, sequences, mappings and classes, several of which can be joined by bars.
-/

namespace SchemaGuard.Source

/-! ## Literals and names -/

/-- A number that may have a minus sign, and whether it is imaginary. -/
def signedNumber : List Token → Option (Bool × List Token)
  | .op "-" :: .number isImaginary :: rest => some (isImaginary, rest)
  | .number isImaginary :: rest => some (isImaginary, rest)
  | _ => none

/-- What may follow a number: an imaginary one that is added to or taken from a real one. -/
def imaginaryPart (isImaginary : Bool) : List Token → Option (List Token)
  | .op sign :: rest =>
    if sign == "+" || sign == "-" then
      match isImaginary, rest with
      | false, .number true :: rest => some rest
      | _, _ => none
    else
      some (.op sign :: rest)
  | rest => some rest

def literal (self : Recognizer) (tokens : List Token) : Option (List Token) :=
  match signedNumber tokens with
  | some (isImaginary, rest) => imaginaryPart isImaginary rest
  | none =>
    match tokens with
    | .text isBytes _ :: _ => texts self isBytes tokens
    | .keyword word :: rest => if ["True", "False", "None"].contains word then some rest else none
    | _ => none

/-- A name with members of it, and whether there are members. -/
def path : List Token → Option (Bool × List Token)
  | .name _ :: .op "." :: .name text :: rest => (path (.name text :: rest)).map fun (_, rest) => (true, rest)
  | .name _ :: rest => some (false, rest)
  | _ => none

/-- Whether a name cannot end before a token. -/
def continuesName (tokens : List Token) : Bool :=
  startsWith "." tokens || startsWith "(" tokens || startsWith "=" tokens

/-- A name that is bound: any but a lone underscore. -/
def boundName : List Token → Option (List Token)
  | .name text :: rest => if text == "_" || continuesName rest then none else some rest
  | _ => none

/-! ## Composite patterns -/

/-- A pattern, or a name with a star that takes what is left of a sequence. -/
def sequenceItem (self : Recognizer) : Passage
  | .op "*" :: .name "_" :: rest => some (.starred .name, rest)
  | .op "*" :: rest => (boundName rest).map fun rest => (.starred .name, rest)
  | tokens => self .casePattern tokens

/-- Patterns in round brackets, after the opening one: one pattern, or a sequence. -/
def roundPattern (self : Recognizer) (tokens : List Token) : Option (List Token) :=
  match expect ")" tokens with
  | some rest => some rest
  | none => do
    match ← commas self (sequenceItem self) tokens with
    | (([shape], false), rest) => if shape.isStarred then none else expect ")" rest
    | (_, rest) => expect ")" rest

/-- Patterns in square brackets, after the opening one. -/
def squarePattern (self : Recognizer) (tokens : List Token) : Option (List Token) :=
  match expect "]" tokens with
  | some rest => some rest
  | none => do
    let (_, rest) ← commas self (sequenceItem self) tokens
    expect "]" rest

/-- A key: a literal, or a member of something. -/
def key (self : Recognizer) (tokens : List Token) : Option (List Token) :=
  match literal self tokens with
  | some rest => some rest
  | none =>
    match path tokens with
    | some (true, rest) => some rest
    | _ => none

/-- Patterns of keys in curly brackets, after the opening one. A name with two stars comes last. -/
def curlyPattern (self : Recognizer) : Nat → List Token → Option (List Token)
  | 0, _ => none
  | fuel + 1, tokens =>
    match tokens with
    | .op "\x7d" :: rest => some rest
    | .op "**" :: rest => do
      let rest ← boundName rest
      expect "\x7d" ((expect "," rest).getD rest)
    | tokens => do
      let (_, rest) ← self .casePattern (← expect ":" (← key self tokens))
      match expect "," rest with
      | some rest => curlyPattern self fuel rest
      | none => expect "\x7d" rest

/-- The patterns of the parts of a class, after the opening bracket: by position, then by name. -/
def classParts (self : Recognizer) : Nat → Bool → List Token → Option (List Token)
  | 0, _, _ => none
  | fuel + 1, named, tokens =>
    match tokens with
    | .op ")" :: rest => some rest
    | tokens => do
      let (named, rest) ←
        match tokens with
        | .name _ :: .op "=" :: rest => (self .casePattern rest).map fun (_, rest) => (true, rest)
        | tokens => if named then none else (self .casePattern tokens).map fun (_, rest) => (false, rest)
      match expect "," rest with
      | some rest => classParts self fuel named rest
      | none => expect ")" rest

/-- A pattern that starts with a name: the name is bound or looked up, or it is that of a class. -/
def namePattern (self : Recognizer) (tokens : List Token) : Option (List Token) :=
  match tokens with
  | .name "_" :: rest => some rest
  | tokens => do
    let (_, rest) ← path tokens
    match expect "(" rest with
    | some rest => classParts self self.bound false rest
    | none => if continuesName rest then none else some rest

def closedPattern (self : Recognizer) : Passage := fun tokens =>
  let found :=
    match tokens with
    | .name _ :: _ => namePattern self tokens
    | .op "(" :: rest => roundPattern self rest
    | .op "[" :: rest => squarePattern self rest
    | .op "\x7b" :: rest => curlyPattern self self.bound rest
    | tokens => literal self tokens
  found.map fun rest => (.other, rest)

/-! ## Whole patterns -/

/-- Patterns with bars between them, and perhaps a name for what they match. -/
def casePattern (self : Recognizer) : Passage := fun tokens => do
  let (_, rest) ← chain self (expect "|") (closedPattern self) tokens
  match expectWord "as" rest with
  | some rest => return (.other, ← boundName rest)
  | none => return (.other, rest)

/-- The pattern of a case: one pattern, or a sequence without brackets. -/
def casePatterns (self : Recognizer) (tokens : List Token) : Option (List Token) := do
  match ← commas self (sequenceItem self) tokens with
  | (([shape], false), rest) => if shape.isStarred then none else some rest
  | (_, rest) => some rest

end SchemaGuard.Source
