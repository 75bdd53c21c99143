import Dataflow.Resolution

/-! Whether an output may feed an input. The stages come in a fixed order and the first that fails
gives the reason: there is a contract to meet, the types fit, both shapes resolve, they have the
same rank, and dimension for dimension the sizes agree or one of them is open. -/
namespace Dataflow

/-- The actual part is the output's, the expected part the input's. -/
inductive Incompatibility where
  | emptyVariadic
  | dtypeMismatch (actual expected : Dtype)
  | resolution (error : ResolveError)
  | rankMismatch (actual expected : Nat)
  | dimensionMismatch (index : Nat) (actual expected : Dim)
deriving DecidableEq, Repr

def Incompatibility.message : Incompatibility → String
  | emptyVariadic => "empty variadic spec"
  | dtypeMismatch actual expected =>
    "Dtype mismatch: source has " ++ actual.display ++ ", target expects " ++ expected.display
  | resolution error => "Shape resolution failed: " ++ error.message
  | rankMismatch actual expected =>
    s!"Shape rank mismatch: source has {actual} dimensions, target expects {expected}"
  | dimensionMismatch index actual expected =>
    s!"Dimension {index} mismatch: source has size " ++ actual.display ++ ", target expects " ++
      expected.display

def Dim.agrees (a b : Dim) : Bool := a.isFlexible || b.isFlexible || a = b

@[simp] theorem Dim.agrees_self (d : Dim) : d.agrees d := by simp [agrees]

theorem Dim.agrees_comm (a b : Dim) : a.agrees b = b.agrees a := by
  simp only [agrees, Bool.or_comm a.isFlexible, eq_comm]

/-- Compares shapes of one rank from this index on. -/
def Shape.agreeFrom : (index : Nat) → Shape → Shape → Except Incompatibility Unit
  | index, a :: as, b :: bs =>
    if a.agrees b then agreeFrom (index + 1) as bs else .error (.dimensionMismatch index a b)
  | _, _, _ => .ok ()

def Shape.agree (source target : Shape) : Except Incompatibility Unit :=
  if source.length ≠ target.length then .error (.rankMismatch source.length target.length)
  else agreeFrom 0 source target

/-- Whether this output may feed an input with one contract. -/
def Spec.fits (source target : Spec) (sourceNode? targetNode? : Option Context) :
    Except Incompatibility Unit := do
  if !source.dtype.accepts target.dtype then throw (.dtypeMismatch source.dtype target.dtype)
  let sourceShape ← (source.shape.operands sourceNode?).mapError .resolution
  let targetShape ← (target.shape.operands targetNode?).mapError .resolution
  sourceShape.agree targetShape

/-- Whether this output may feed the input. -/
def Spec.check (source : Spec) (target : InputSpec) (sourceNode? targetNode? : Option Context) :
    Except Incompatibility Unit :=
  match target.first? with
  | none => .error .emptyVariadic
  | some target => source.fits target sourceNode? targetNode?

end Dataflow
