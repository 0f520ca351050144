/-!
# Text patterns

The structure of a pattern: characters, sets, anchors, groups, repetitions, references back to
groups, and assertions about what lies ahead or behind. Code points are plain numbers, since a
pattern may name one that no text holds.

A pattern has a least and a greatest width, the number of characters it can match; what lies behind
is only looked for by patterns of one width.

Options that begin alike are one beginning and the options of what follows it, and options that are
single characters are a set.
-/

namespace SchemaGuard.Pattern

/-- Options that change what the parts of a pattern mean. -/
structure Flags where
  ignoreCase : Bool
  multiline : Bool
  dotAll : Bool
  verbose : Bool
  ascii : Bool
  unicode : Bool
  template : Bool
deriving DecidableEq

namespace Flags

def none : Flags := ⟨false, false, false, false, false, false, false⟩

def union (a b : Flags) : Flags where
  ignoreCase := a.ignoreCase || b.ignoreCase
  multiline := a.multiline || b.multiline
  dotAll := a.dotAll || b.dotAll
  verbose := a.verbose || b.verbose
  ascii := a.ascii || b.ascii
  unicode := a.unicode || b.unicode
  template := a.template || b.template

def inter (a b : Flags) : Flags where
  ignoreCase := a.ignoreCase && b.ignoreCase
  multiline := a.multiline && b.multiline
  dotAll := a.dotAll && b.dotAll
  verbose := a.verbose && b.verbose
  ascii := a.ascii && b.ascii
  unicode := a.unicode && b.unicode
  template := a.template && b.template

/-- The flags inside a group that turns some on and some off. Asking for one character set drops the
other. -/
def inside (outer on off : Flags) : Flags :=
  let outer := if on.ascii || on.unicode then { outer with ascii := false, unicode := false } else outer
  let joined := outer.union on
  { ignoreCase := joined.ignoreCase && !off.ignoreCase
    multiline := joined.multiline && !off.multiline
    dotAll := joined.dotAll && !off.dotAll
    verbose := joined.verbose && !off.verbose
    ascii := joined.ascii
    unicode := joined.unicode
    template := joined.template }

end Flags

inductive Category where
  | digit
  | space
  | word
deriving DecidableEq

/-- A member of a character set. -/
inductive SetItem where
  | code (code : Nat)
  | range (low high : Nat)
  | category (negated : Bool) (category : Category)
deriving DecidableEq

/-- A place between characters. -/
inductive Anchor where
  | lineStart
  | lineEnd
  | textStart
  | textEnd
  | boundary
  | notBoundary
deriving DecidableEq

inductive Greed where
  | greedy
  | lazy
  | possessive
deriving DecidableEq

inductive Expr where
  | code (code : Nat)
  | any
  | set (negated : Bool) (items : List SetItem)
  | anchor (anchor : Anchor)
  | sequence (parts : List Expr)
  | choice (options : List Expr)
  | capture (group : Nat) (body : Expr)
  | flagged (on off : Flags) (body : Expr)
  | atomic (body : Expr)
  | repeated (greed : Greed) (least : Nat) (most : Option Nat) (body : Expr)
  | backReference (group : Nat)
  | look (ahead negated : Bool) (width : Nat) (body : Expr)
  | conditional (group : Nat) (present absent : Expr)

/-! ## Widths -/

/-- The number at which repetition is unbounded. -/
def maxRepeat : Nat := 4294967295

/-- The least and the greatest number of characters something matches, up to a cap. -/
structure Width where
  least : Nat
  greatest : Nat
deriving DecidableEq

namespace Width

/-- Widths are cut off where repetition is unbounded; a least width stays below that. -/
def capped (width : Width) : Width := ⟨min width.least (maxRepeat - 1), min width.greatest maxRepeat⟩

def exactly (n : Nat) : Width := ⟨n, n⟩

def plus (a b : Width) : Width := ⟨a.least + b.least, a.greatest + b.greatest⟩

def either (a b : Width) : Width := ⟨min a.least b.least, max a.greatest b.greatest⟩

def times (width : Width) (least : Nat) : Option Nat → Width
  | some most => ⟨width.least * least, width.greatest * most⟩
  | none => ⟨width.least * least, width.greatest * maxRepeat⟩

end Width

mutual

/-- The width of a pattern, given those of the groups it refers back to. -/
def Expr.width (groups : Nat → Width) : Expr → Width
  | .code _ => .exactly 1
  | .any => .exactly 1
  | .set _ _ => .exactly 1
  | .anchor _ => .exactly 0
  | .sequence parts => (sequenceWidth groups parts).capped
  | .choice options => (choiceWidth groups options).capped
  | .capture _ body => body.width groups
  | .flagged _ _ body => body.width groups
  | .atomic body => body.width groups
  | .repeated _ least most body => ((body.width groups).times least most).capped
  | .backReference group => groups group
  | .look _ _ _ _ => .exactly 0
  | .conditional _ present absent => (present.width groups).either (absent.width groups)

def sequenceWidth (groups : Nat → Width) : List Expr → Width
  | [] => .exactly 0
  | part :: parts => (part.width groups).plus (sequenceWidth groups parts)

def choiceWidth (groups : Nat → Width) : List Expr → Width
  | [] => ⟨maxRepeat - 1, 0⟩
  | option :: options => (option.width groups).either (choiceWidth groups options)

end

/-! ## Options -/

/-- The parts of a pattern one after another. -/
def Expr.parts : Expr → List Expr
  | .sequence parts => parts
  | part => [part]

/-- Whether two parts are the same character, set, place or reference. -/
def Expr.sameUnit : Expr → Expr → Bool
  | .code a, .code b => a == b
  | .any, .any => true
  | .set negated items, .set negated' items' => negated == negated' && items == items'
  | .anchor a, .anchor b => a == b
  | .backReference a, .backReference b => a == b
  | _, _ => false

/-- The units that all sequences begin with. -/
def sharedStart : List Expr → List (List Expr) → List Expr
  | [], _ => []
  | unit :: rest, others =>
    let isShared (parts : List Expr) : Bool := (parts.head?.map unit.sameUnit).getD false
    if unit.sameUnit unit && others.all isShared then
      unit :: sharedStart rest (others.map (·.drop 1))
    else
      []

/-- A set; one of a single code point is that code point. -/
def Expr.ofMembers : Bool → List SetItem → Expr
  | false, [.code wanted] => .code wanted
  | negated, items => .set negated items

/-- The members of a part that is one character out of some. -/
def members? : List Expr → Option (List SetItem)
  | [.code code] => some [.code code]
  | [.set false items] => some items
  | _ => none

/-- One of several sequences, the first preferred. -/
def Expr.oneOf (first : List Expr) (others : List (List Expr)) : Expr :=
  let shared := sharedStart first others
  let rests := (first :: others).map (·.drop shared.length)
  match rests.mapM members? with
  | some items => .sequence (shared ++ [.set false items.flatten.eraseDups])
  | none => .sequence (shared ++ [.choice (rests.map .sequence)])

/-- Parts in which groups without a number or flags of their own have been dissolved. -/
def dissolved : List Expr → List Expr
  | [] => []
  | .flagged on off body :: parts =>
    if on = Flags.none && off = Flags.none then body.parts ++ dissolved parts
    else .flagged on off body :: dissolved parts
  | part :: parts => part :: dissolved parts

end SchemaGuard.Pattern
