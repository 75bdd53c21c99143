import Dataflow.Dim
import Dataflow.Dtype

/-! The contract of an output or an input of a node. An input may be variadic and then lists a
contract for each of its values. -/
namespace Dataflow

structure Spec where
  dtype : Dtype
  shape : Shape
  description : String := ""
  optional : Bool := false
deriving DecidableEq, Repr

def Spec.rank (s : Spec) : Nat := s.shape.length

inductive InputSpec where
  | single (spec : Spec)
  | variadic (specs : List Spec)
deriving DecidableEq, Repr

namespace InputSpec

def isVariadic : InputSpec → Bool
  | single _ => false
  | variadic _ => true

/-- The contract that takes part in checks: the only one, or the first of the list. -/
def first? : InputSpec → Option Spec
  | single spec => some spec
  | variadic specs => specs.head?

end InputSpec

end Dataflow
