import Dataflow.Text.Blank

/-! What an output or an input carries: any tensor, a tensor of one element kind, or another type
known by its name. Reading a name never fails, since a name that means nothing else is another
type. -/
namespace Dataflow

/-! ### Element kinds -/

/-- The constructors stand in the order of the kinds. -/
inductive ElementKind where
  | bool | uint8 | uint16 | int8 | int16 | int32 | int64
  | float16 | bfloat16 | float32 | float64 | complex64 | complex128
deriving DecidableEq, Repr

namespace ElementKind

def all : List ElementKind :=
  [bool, uint8, uint16, int8, int16, int32, int64,
    float16, bfloat16, float32, float64, complex64, complex128]

theorem mem_all (k : ElementKind) : k ∈ all := by cases k <;> decide

def name : ElementKind → String
  | bool => "bool"
  | uint8 => "uint8"
  | uint16 => "uint16"
  | int8 => "int8"
  | int16 => "int16"
  | int32 => "int32"
  | int64 => "int64"
  | float16 => "float16"
  | bfloat16 => "bfloat16"
  | float32 => "float32"
  | float64 => "float64"
  | complex64 => "complex64"
  | complex128 => "complex128"

/-- The name qualified as it is printed. -/
def display (k : ElementKind) : String := "torch." ++ k.name

/-- The bare name stands for the kind too, except that a bare `bool` is the truth-value type and
no tensor at all. -/
def ofName? (s : String) : Option ElementKind :=
  all.find? fun k => s = k.display || (s = k.name && k ≠ bool)

/-- The kinds that stand before this one. -/
def below (k : ElementKind) : List ElementKind := all.takeWhile (· ≠ k)

end ElementKind

/-! ### Types -/

inductive Dtype where
  | tensor
  | element (kind : ElementKind)
  | other (name : String)
deriving DecidableEq, Repr

namespace Dtype

def tensorNames : List String := ["tensor", "Tensor", "torch.Tensor"]

def ofTrimmed (s : String) : Dtype :=
  if s ∈ tensorNames then tensor
  else match ElementKind.ofName? s with
    | some kind => element kind
    | none => other s

/-- Blanks around the name do not count. -/
def ofName (s : String) : Dtype := ofTrimmed (Text.trim s)

def display : Dtype → String
  | tensor => "Tensor"
  | element kind => kind.display
  | other name => name

def isTensorLike : Dtype → Bool
  | tensor | element _ => true
  | other _ => false

/-- Equal types fit. A tensor of any kind also fits where any tensor goes, and the other way
round. -/
def accepts (source target : Dtype) : Bool :=
  source = target ||
    (source.isTensorLike && target.isTensorLike && (source = tensor || target = tensor))

@[simp] theorem accepts_self (t : Dtype) : t.accepts t := by simp [accepts]

theorem accepts_comm (a b : Dtype) : a.accepts b = b.accepts a := by
  simp only [accepts, Bool.and_comm a.isTensorLike, Bool.or_comm (decide (a = tensor)), eq_comm]

end Dtype

end Dataflow
