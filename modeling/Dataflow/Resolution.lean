import Dataflow.Node
import Dataflow.Spec

/-! Resolving a shape: sizes stay, and each name gives way to the integer that the owning node has
under it. The leftmost dimension for which this fails is reported. -/
namespace Dataflow

inductive ResolveError where
  | missingContext (name : String)
  | unresolvedSymbol (name node : String)
  | wrongAttributeType (name : String) (actual : Json.Kind)
  | invalidDescriptor (index : Nat) (value : Int64)
deriving DecidableEq, Repr

def ResolveError.message : ResolveError → String
  | missingContext name =>
    "Cannot resolve symbolic dimension '" ++ name ++ "' without node instance"
  | unresolvedSymbol name node =>
    "Node " ++ node ++ " has no attribute '" ++ name ++ "' for dimension resolution"
  | wrongAttributeType name actual =>
    "Dimension '" ++ name ++ "' resolved to " ++ actual.display ++ ", expected int"
  | invalidDescriptor index value =>
    s!"Invalid dimension descriptor at index {index}: " ++ decimalText value.toInt

/-! ### One dimension -/

def resolveSymbol (node? : Option Context) (name : String) : Except ResolveError Int64 :=
  match node? with
  | none => .error (.missingContext name)
  | some node =>
    match node.attribute? name with
    | none => .error (.unresolvedSymbol name node.label)
    | some v =>
      match v.toInt64? with
      | some n => .ok n
      | none => .error (.wrongAttributeType name v.kind)

def resolveDim (node? : Option Context) (index : Nat) : Dim → Except ResolveError Int64
  | .size n => if (Dim.size n).IsValid then .ok n else .error (.invalidDescriptor index n)
  | .symbol name => resolveSymbol node? name

/-! ### Shapes -/

namespace Shape

/-- Resolves the dimensions from this index on. -/
def resolveFrom (node? : Option Context) : (index : Nat) → Shape → Except ResolveError (List Int64)
  | _, [] => .ok []
  | index, d :: shape => do
    let n ← resolveDim node? index d
    let ns ← resolveFrom node? (index + 1) shape
    return n :: ns

def resolve (shape : Shape) (node? : Option Context) : Except ResolveError (List Int64) :=
  resolveFrom node? 0 shape

/-- Only sizes can be invalid. -/
def validateFrom : (index : Nat) → Shape → Except ResolveError Unit
  | _, [] => .ok ()
  | index, .size n :: shape =>
    if (Dim.size n).IsValid then validateFrom (index + 1) shape
    else .error (.invalidDescriptor index n)
  | index, .symbol _ :: shape => validateFrom (index + 1) shape

/-- The shape as it is compared. Without a node its names stay, to be compared as they are. -/
def operands (shape : Shape) : Option Context → Except ResolveError Shape
  | some node => do return (← shape.resolve (some node)).map .size
  | none => do
    validateFrom 0 shape
    return shape

end Shape

def Spec.resolveShape (spec : Spec) (node? : Option Context) : Except ResolveError (List Int64) :=
  spec.shape.resolve node?

end Dataflow
