import SchemaGuard.Notice
import SchemaGuard.Pattern.Parser

/-!
# Emission

What types and checks have in common when they are made from nodes: the ways of failing, and how a
reference that has no declaration of its own is expanded in place. Such a reference is followed by
pointer or, if that leads nowhere, looked up by its last segment among the reusable definitions; one
that is met again inside its own expansion is refused.
-/

namespace SchemaGuard

/-- Why a node cannot be compiled. -/
inductive EmitError where
  | cyclicRef (output : Output) (ref path : String)
  | cyclicAllOf (ref path : String)
  | index (error : IndexError)
  | type (error : TypeError)
  | pattern (error : PatternError)
  | unnamed (pointer : String)
  | tooDeep
deriving DecidableEq

def PatternError.message : PatternError → String
  | invalid => "invalid pattern"
  | repetitionTooLarge => "the repetition number is too large"
  | longInteger digits => Json.longIntegerMessage digits
  | flagClash => "ASCII and UNICODE flags are incompatible"
  | tooFarBehind => "invalid SRE code"
  | codeTooLarge => "Python int too large to convert to C int"

def Output.product : Output → String
  | types => "type"
  | validators => "validator"

def EmitError.message : EmitError → String
  | cyclicRef output ref path =>
    s!"Cyclic reference \"{ref}\" at {path} cannot be inlined; " ++
      s!"add it as a --target so it gets its own {output.product}"
  | cyclicAllOf ref path => s!"Cyclic allOf reference \"{ref}\" at {path}"
  | index error => error.message
  | type error => error.message
  | pattern error => error.message
  | unnamed pointer => s!"Internal error: no name registered for \"{pointer}\""
  | tooDeep => ""

namespace Emit

/-- What became of a reference, and the notices on the way. -/
structure Resolution where
  notices : List Notice
  outcome : Except EmitError (Option Node)

/-- Looks a reference up by its last segment among the reusable definitions. -/
def byName (document : Json) (ref : String) : Except TypeError (Option Node) :=
  match Pointer.lastSegment ref with
  | .ok name => Schema.definitionNode document name
  | .error _ => .ok none

/-- Finds the node to expand a reference to, which stands at a path inside the expansions of the
references `opened`. -/
def resolve (output : Output) (document : Json) (opened : List String) (ref path : String) : Resolution :=
  if opened.contains ref then
    ⟨[], .error (.cyclicRef output ref path)⟩
  else
    let start := [Notice.inlining output ref path]
    if !Pointer.isLocal ref then
      ⟨start ++ [.notLocal output ref], .ok none⟩
    else
      match Schema.nodeAt document ref with
      | .ok node => ⟨start, .ok (some node)⟩
      | .error (.type error) => ⟨start, .error (.type error)⟩
      | .error (.lookup (.index error)) => ⟨start, .error (.index error)⟩
      | .error (.lookup (.pointer error)) =>
        let failed := start ++ [.pointerFailed output error]
        match byName document ref with
        | .error error => ⟨failed, .error (.type error)⟩
        | .ok (some node) => ⟨failed, .ok (some node)⟩
        | .ok none => ⟨failed ++ [.unresolvedRef output ref], .ok none⟩

end Emit

end SchemaGuard
