import Dataflow.Proofs.Spec.Json

/-! Contracts in JSON text. Whatever a contract says, what it is written as is read again, as the
same contract but for its type. The type too is the same exactly if it is stable, and each type that
comes from a name is. -/
namespace Dataflow

open Json (MembersRead)

/-! ### One contract -/

theorem Dim.read_line {depth : Nat} (d : Dim) {rest : List Char} (hrest : Json.EndsNumber rest) :
    Dim.read depth (d.toJson.line ++ rest) = .ok (d, rest) :=
  Json.readAlternative_line "Dim" (d.nestsWithin_toJson depth) d.isFloatFree_toJson
    d.ofJson?_toJson hrest

theorem Shape.read_line {depth : Nat} (shape : Shape) (rest : List Char) :
    Shape.read (depth + 1) (shape.toJson.line ++ rest) = .ok (shape, rest) :=
  Json.expectList_line (fun d _ => d.isFloatFree_toJson) (fun d _ _ hrest => d.read_line hrest) rest

theorem Dtype.read_line (t : Dtype) (rest : List Char) :
    Dtype.read (t.toJson.line ++ rest) = .ok (.ofName t.display, rest) := by
  rw [Dtype.read, Dtype.toJson, Json.expectString_line]
  rfl

namespace Spec

theorem read_line {depth : Nat} (spec : Spec) (rest : List Char) :
    Spec.read (depth + 2) (spec.toJson.line ++ rest) = .ok (spec.reread, rest) := by
  have hdescription := Json.expectString_line spec.description
  have hoptional := Json.expectBool_line spec.optional
  have hmembers : MembersRead (record.readMember (depth + 1)) {}
      [("dtype", spec.dtype.toJson), ("shape", spec.shape.toJson),
        ("description", .string spec.description), ("optional", .bool spec.optional)]
      { dtype? := some (.ofName spec.dtype.display), shape? := some spec.shape,
        description? := some spec.description, optional? := some spec.optional } :=
    .cons (fun rest _ => Json.Record.readMember_colon rfl rfl (spec.dtype.read_line rest))
      (.cons (fun rest _ => Json.Record.readMember_colon rfl rfl (spec.shape.read_line rest))
        (.cons (fun rest _ => Json.Record.readMember_colon rfl rfl (hdescription rest))
          (.cons (fun rest _ => Json.Record.readMember_colon rfl rfl (hoptional rest)) (.nil _))))
  exact Json.Record.read_line hmembers rfl rest

theorem ofText_compact_eq_reread (spec : Spec) :
    Spec.ofText spec.toJson.compact = .ok spec.reread :=
  Json.readText_compact (spec.read_line [])

end Spec

/-! ### Contracts of inputs -/

namespace InputSpec

theorem ofText_compact_eq_reread (input : InputSpec) :
    InputSpec.ofText input.toJson.compact = .ok input.reread :=
  Json.readText_compact (Json.readAlternative_line "InputSpec" (rereads.nestsWithin 124 input)
    (rereads.isFloatFree input) input.ofJson?_toJson_eq_reread (fun _ hc => nomatch hc))

theorem isVariadic_reread (input : InputSpec) : input.reread.isVariadic = input.isVariadic := by
  cases input <;> simp only [reread, isVariadic]

/-- The contracts of an input, however many it has. -/
def specs : InputSpec → List Spec
  | single spec => [spec]
  | variadic specs => specs

theorem specs_reread (input : InputSpec) : input.reread.specs = input.specs.map Spec.reread := by
  cases input <;> simp only [reread, specs, List.map_cons, List.map_nil]

theorem reread_eq_self_iff {input : InputSpec} :
    input.reread = input ↔ ∀ spec ∈ input.specs, spec.dtype.IsStable := by
  simp only [← Spec.reread_eq_self_iff]
  cases input with
  | single spec => simp [reread, specs]
  | variadic specs =>
    rw [reread, variadic.injEq, InputSpec.specs]
    constructor
    · intro h spec hspec
      obtain ⟨i, hi⟩ := List.mem_iff_getElem?.1 hspec
      have hmap := List.getElem?_map (f := Spec.reread) (l := specs) (i := i)
      rw [h, hi, Option.map_some, Option.some.injEq] at hmap
      exact hmap.symm
    · intro h
      rw [List.map_congr_left h, List.map_id']

/-! ### Main statement -/

/-- What a contract is written as is always read, with the same number of contracts in the same
form. It is read as it was exactly if the types in it are stable, and only stable types ever come
from names. -/
theorem ofText_compact_iff_isStable :
    (∀ spec : Spec, ∃ back, Spec.ofText spec.toJson.compact = .ok back ∧
      (back = spec ↔ spec.dtype.IsStable)) ∧
    (∀ input : InputSpec, ∃ back, InputSpec.ofText input.toJson.compact = .ok back ∧
      back.isVariadic = input.isVariadic ∧ back.specs.length = input.specs.length ∧
      (back = input ↔ ∀ spec ∈ input.specs, spec.dtype.IsStable)) ∧
    ∀ name, (Dtype.ofName name).IsStable := by
  refine ⟨fun spec => ?_, fun input => ?_, Dtype.isStable_ofName⟩
  · exact ⟨spec.reread, spec.ofText_compact_eq_reread, Spec.reread_eq_self_iff⟩
  · refine ⟨input.reread, input.ofText_compact_eq_reread, input.isVariadic_reread, ?_,
      reread_eq_self_iff⟩
    rw [specs_reread, List.length_map]

end InputSpec

end Dataflow
