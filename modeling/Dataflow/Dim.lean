import Dataflow.Decimal

/-! A shape is a list of dimensions, each a size or the name of an attribute that holds one. The
size -1 leaves a dimension open. -/
namespace Dataflow

inductive Dim where
  | size (n : Int64)
  | symbol (name : String)
deriving DecidableEq, Repr

namespace Dim

/-- Matches every size. -/
def flexible : Dim := size (-1)

def isFlexible (d : Dim) : Bool := d = flexible

/-- No size lies below the open one. -/
def IsValid : Dim → Prop
  | size n => -1 ≤ n
  | symbol _ => True

instance : DecidablePred IsValid := fun
  | size n => inferInstanceAs (Decidable (-1 ≤ n))
  | symbol _ => .isTrue trivial

def display : Dim → String
  | size n => decimalText n.toInt
  | symbol name => name

end Dim

abbrev Shape := List Dim

namespace Shape

/-- Items between brackets, with a comma and a space between two of them. -/
def bracketed (items : List String) : String := "[" ++ ", ".intercalate items ++ "]"

def display (shape : Shape) : String := bracketed (shape.map Dim.display)

end Shape

end Dataflow
