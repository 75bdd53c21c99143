import Dataflow.Json.Record
import Dataflow.Spec

/-! Contracts in JSON. They are written as objects with all fields. What is read may leave fields
with a default out, or give the fields as a list in their order. -/
namespace Dataflow

open Json (Reader)

/-! ### Writing -/

def Dtype.toJson (t : Dtype) : Json := .string t.display

def Dim.toJson : Dim → Json
  | size n => .ofInt64 n
  | symbol name => .string name

def Shape.toJson (shape : Shape) : Json := .array (shape.map Dim.toJson)

def Spec.toJson (spec : Spec) : Json :=
  .object [("dtype", spec.dtype.toJson), ("shape", spec.shape.toJson),
    ("description", .string spec.description), ("optional", .bool spec.optional)]

def InputSpec.toJson : InputSpec → Json
  | single spec => spec.toJson
  | variadic specs => .array (specs.map Spec.toJson)

/-! ### From values -/

namespace Json

def string? : Json → Option String
  | string s => some s
  | _ => none

def bool? : Json → Option Bool
  | bool b => some b
  | _ => none

def items? : Json → Option (List Json)
  | array items => some items
  | _ => none

/-- The value under a name; none at all if the name repeats. -/
def unique? (members : List (String × Json)) (name : String) : Option (Option Json) :=
  match members.filter (·.1 = name) with
  | [] => some none
  | [(_, v)] => some (some v)
  | _ => none

end Json

def Dtype.ofJson? (v : Json) : Option Dtype := v.string?.map .ofName

def Dim.ofJson? : Json → Option Dim
  | .string name => some (.symbol name)
  | v => v.toInt64?.map .size

def Shape.ofJson? (v : Json) : Option Shape := do (← v.items?).mapM Dim.ofJson?

namespace Spec

def ofFields? (dtype? shape? description? optional? : Option Json) : Option Spec := do
  let dtype ← Dtype.ofJson? (← dtype?)
  let shape ← Shape.ofJson? (← shape?)
  let description ← (description?.getD (.string "")).string?
  let optional ← (optional?.getD (.bool false)).bool?
  return { dtype, shape, description, optional }

/-- Members with other names do not count. -/
def ofMembers? (members : List (String × Json)) : Option Spec := do
  ofFields? (← Json.unique? members "dtype") (← Json.unique? members "shape")
    (← Json.unique? members "description") (← Json.unique? members "optional")

def ofJson? : Json → Option Spec
  | .object members => ofMembers? members
  | .array [dtype, shape] => ofFields? dtype shape none none
  | .array [dtype, shape, description] => ofFields? dtype shape description none
  | .array [dtype, shape, description, optional] => ofFields? dtype shape description optional
  | _ => none

end Spec

/-- A list that is a contract in itself is read as that one. -/
def InputSpec.ofJson? (v : Json) : Option InputSpec :=
  match Spec.ofJson? v with
  | some spec => some (.single spec)
  | none => do return .variadic (← (← v.items?).mapM Spec.ofJson?)

/-! ### From text -/

def Dtype.read : Reader Dtype := fun cs => do
  let (name, rest) ← Json.expectString cs
  return (.ofName name, rest)

def Dim.read : (depth : Nat) → Reader Dim := Json.readAlternative "Dim" Dim.ofJson?

def Shape.read : (depth : Nat) → Reader Shape := Json.expectList Dim.read

def InputSpec.read : (depth : Nat) → Reader InputSpec :=
  Json.readAlternative "InputSpec" InputSpec.ofJson?

namespace Spec

/-- What has been read of a contract. -/
structure Draft where
  dtype? : Option Dtype := none
  shape? : Option Shape := none
  description? : Option String := none
  optional? : Option Bool := none

def record : Json.Record Draft Spec where
  name := "PortSpec"
  fields := [
    .reading "dtype" Draft.dtype? (fun d x => { d with dtype? := some x }) fun _ => Dtype.read,
    .reading "shape" Draft.shape? (fun d x => { d with shape? := some x }) Shape.read,
    .reading "description" Draft.description? (fun d x => { d with description? := some x })
      fun _ => Json.expectString,
    .reading "optional" Draft.optional? (fun d x => { d with optional? := some x })
      fun _ => Json.expectBool]
  blank := {}
  finish d :=
    match d.dtype?, d.shape? with
    | none, _ => .error "dtype"
    | _, none => .error "shape"
    | some dtype, some shape =>
      .ok ⟨dtype, shape, d.description?.getD "", d.optional?.getD false⟩

def read : (depth : Nat) → Reader Spec := record.read

end Spec

def Dtype.ofText (text : String) : Except Json.Error Dtype := Json.readText Dtype.read text

def Dim.ofText (text : String) : Except Json.Error Dim :=
  Json.readText (Dim.read Json.maxDepth) text

def Spec.ofText (text : String) : Except Json.Error Spec :=
  Json.readText (Spec.read Json.maxDepth) text

def InputSpec.ofText (text : String) : Except Json.Error InputSpec :=
  Json.readText (InputSpec.read Json.maxDepth) text

end Dataflow
