import Dataflow.Compatibility

/-! Findings as they are shown to people and to programs. Each reason for which a connection is
refused has a code that never changes its meaning, and most come with a hint. -/
namespace Dataflow

structure Code where
  text : String
deriving DecidableEq, Repr

namespace Code

def emptyVariadic : Code := ⟨"E0100"⟩
def dtypeMismatch : Code := ⟨"E0101"⟩
def shapeResolution : Code := ⟨"E0102"⟩
def rankMismatch : Code := ⟨"E0103"⟩
def dimensionMismatch : Code := ⟨"E0104"⟩
def uncheckedVariadic : Code := ⟨"W0100"⟩

def all : List Code :=
  [emptyVariadic, dtypeMismatch, shapeResolution, rankMismatch, dimensionMismatch,
    uncheckedVariadic]

end Code

inductive Level where
  | error
  | warning
deriving DecidableEq, Repr

def Level.display : Level → String
  | error => "error"
  | warning => "warning"

structure Diagnostic where
  code? : Option Code := none
  level : Level
  message : String
  hint? : Option String := none
deriving DecidableEq, Repr

/-! ### Reasons -/

def ResolveError.hint : ResolveError → String
  | missingContext _ => "pass the owning node so symbolic dimensions can be looked up"
  | unresolvedSymbol name _ => "set an integer attribute '" ++ name ++ "' on the node"
  | wrongAttributeType name _ => "attribute '" ++ name ++ "' must hold an integer"
  | invalidDescriptor _ _ => "shape entries must be sizes >= 0, -1 for flexible, or attribute names"

namespace Incompatibility

def code : Incompatibility → Code
  | emptyVariadic => .emptyVariadic
  | dtypeMismatch _ _ => .dtypeMismatch
  | resolution _ => .shapeResolution
  | rankMismatch _ _ => .rankMismatch
  | dimensionMismatch _ _ _ => .dimensionMismatch

def hint? : Incompatibility → Option String
  | emptyVariadic => some "declare at least one spec for the variadic port"
  | dtypeMismatch _ _ => none
  | resolution error => some error.hint
  | rankMismatch _ _ => none
  | dimensionMismatch _ (.size _) (.size _) => some "use -1 on either side to accept any size"
  | dimensionMismatch _ _ _ =>
    some "pass node attributes to resolve symbolic dimensions before comparing"

def diagnostic (reason : Incompatibility) : Diagnostic :=
  { code? := some reason.code, level := .error, message := reason.message, hint? := reason.hint? }

end Incompatibility

namespace Diagnostic

/-! ### Text and JSON -/

def display (d : Diagnostic) : String :=
  let head := match d.code? with
    | some code => d.level.display ++ "[" ++ code.text ++ "]: " ++ d.message
    | none => d.level.display ++ ": " ++ d.message
  match d.hint? with
  | some hint => head ++ "\n  hint: " ++ hint
  | none => head

/-- A member that is left out when there is nothing to say. -/
def optionalMember (name : String) (text? : Option String) : List (String × Json) :=
  (text?.map fun text => (name, Json.string text)).toList

def toJson (d : Diagnostic) : Json :=
  .object (optionalMember "code" (d.code?.map Code.text) ++
    [("level", .string d.level.display), ("message", .string d.message)] ++
    optionalMember "hint" d.hint?)

end Diagnostic

end Dataflow
