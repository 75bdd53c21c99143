import Dataflow.Proofs.Dtype
import Dataflow.Proofs.Json.Record
import Dataflow.Spec.Json

/-! Contracts as JSON values. A contract that has been read from a value, in whatever form, is
written as one that is read as the same contract. -/
namespace Dataflow

theorem Json.string?_eq_some_iff {v : Json} {s : String} : v.string? = some s ↔ v = string s := by
  cases v <;> simp [string?]

theorem Json.items?_eq_some_iff {v : Json} {items : List Json} :
    v.items? = some items ↔ v = array items := by
  cases v <;> simp [items?]

/-- What is read with `decode` is the same after it has been written with `encode`. What is
written is no string and within the bounds of all that may be read. -/
structure Rereads (encode : α → Json) (decode : Json → Option α) : Prop where
  again : ∀ {v a}, decode v = some a → decode (encode a) = some a
  notString : ∀ a, (encode a).string? = none
  isFloatFree : ∀ a, (encode a).IsFloatFree
  nestsWithin : ∀ depth a, (encode a).NestsWithin (depth + 3)

/-! ### Dimensions -/

theorem Dim.ofJson?_toJson (d : Dim) : Dim.ofJson? d.toJson = some d := by
  cases d with
  | size n =>
    have h : (Json.ofInt64 n).toInt64? = some n := int64OfInt?_toInt n
    exact congrArg (Option.map Dim.size) h
  | symbol name => rfl

theorem Shape.ofJson?_toJson (shape : Shape) : Shape.ofJson? shape.toJson = some shape :=
  mapM_map_eq_some fun d _ => d.ofJson?_toJson

theorem Dim.isFloatFree_toJson (d : Dim) : d.toJson.IsFloatFree := by
  cases d with
  | size n => exact .integer _
  | symbol name => exact .string name

theorem Dim.nestsWithin_toJson (depth : Nat) (d : Dim) : d.toJson.NestsWithin depth := by
  cases d with
  | size n => exact .number _
  | symbol name => exact .string name

/-! ### Contracts -/

namespace Spec

/-- The contract as it is read again: its type is the one that its name stands for. -/
def reread (spec : Spec) : Spec := { spec with dtype := .ofName spec.dtype.display }

theorem reread_eq_self_iff {spec : Spec} : spec.reread = spec ↔ spec.dtype.IsStable := by
  obtain ⟨dtype, shape, description, optional⟩ := spec
  simp only [reread, mk.injEq, and_true, Dtype.ofName_display_eq_self_iff]

theorem ofJson?_toJson_eq_reread (spec : Spec) : Spec.ofJson? spec.toJson = some spec.reread := by
  have hdtype : Dtype.ofJson? spec.dtype.toJson = some (.ofName spec.dtype.display) := rfl
  have hshape := spec.shape.ofJson?_toJson
  simp [toJson, Spec.ofJson?, ofMembers?, Json.unique?, ofFields?, hdtype, hshape, Json.string?,
    Json.bool?, reread]

theorem ofJson?_toJson {spec : Spec} (h : Dtype.ofName spec.dtype.display = spec.dtype) :
    Spec.ofJson? spec.toJson = some spec := by
  rw [ofJson?_toJson_eq_reread, reread, h]

/-- The type of a contract comes from a name. -/
theorem exists_name_of_ofFields? {dtype? shape? description? optional? : Option Json} {spec : Spec}
    (h : ofFields? dtype? shape? description? optional? = some spec) :
    ∃ name, dtype? = some (.string name) ∧ spec.dtype = .ofName name := by
  obtain ⟨w, rfl, h⟩ := Option.bind_eq_some_iff.1 h
  obtain ⟨dtype, hdtype, h⟩ := Option.bind_eq_some_iff.1 h
  obtain ⟨_, -, h⟩ := Option.bind_eq_some_iff.1 h
  obtain ⟨_, -, h⟩ := Option.bind_eq_some_iff.1 h
  obtain ⟨_, -, h⟩ := Option.bind_eq_some_iff.1 h
  obtain ⟨_, -, h⟩ := Option.bind_eq_some_iff.1 h
  cases h
  obtain ⟨name, hname, rfl⟩ := Option.map_eq_some_iff.1 hdtype
  have hw : some w = some (.string name) := congrArg some (Json.string?_eq_some_iff.1 hname)
  refine ⟨name, hw, ?_⟩
  dsimp only

/-- A list that is read as a contract starts with the name of the type. -/
theorem exists_name_of_ofJson?_array {items : List Json} {spec : Spec}
    (h : Spec.ofJson? (.array items) = some spec) :
    ∃ name rest, items = .string name :: rest ∧ spec.dtype = .ofName name := by
  have hfields {w : Json} {rest : List Json} {shape? description? optional? : Option Json}
      (h : ofFields? (some w) shape? description? optional? = some spec) :
      ∃ name rest', w :: rest = .string name :: rest' ∧ spec.dtype = .ofName name := by
    obtain ⟨name, hname, hdtype⟩ := exists_name_of_ofFields? h
    cases hname
    exact ⟨name, rest, rfl, hdtype⟩
  unfold Spec.ofJson? at h
  split at h
  · rename_i heq
    cases heq
  · rename_i heq
    cases heq
    exact hfields h
  · rename_i heq
    cases heq
    exact hfields h
  · rename_i heq
    cases heq
    exact hfields h
  · cases h

/-- The type in a contract that has been read is one that a name is read as. -/
theorem ofName_display_of_ofJson? {v : Json} {spec : Spec} (h : Spec.ofJson? v = some spec) :
    Dtype.ofName spec.dtype.display = spec.dtype := by
  have hname : ∃ name, spec.dtype = .ofName name := by
    cases v with
    | object members =>
      obtain ⟨_, -, h⟩ := Option.bind_eq_some_iff.1 h
      obtain ⟨_, -, h⟩ := Option.bind_eq_some_iff.1 h
      obtain ⟨_, -, h⟩ := Option.bind_eq_some_iff.1 h
      obtain ⟨_, -, h⟩ := Option.bind_eq_some_iff.1 h
      obtain ⟨name, -, hdtype⟩ := exists_name_of_ofFields? h
      exact ⟨name, hdtype⟩
    | array items =>
      obtain ⟨name, _, -, hdtype⟩ := exists_name_of_ofJson?_array h
      exact ⟨name, hdtype⟩
    | null => cases h
    | bool b => cases h
    | number n => cases h
    | string s => cases h
  obtain ⟨name, hdtype⟩ := hname
  rw [hdtype]
  exact Dtype.ofName_display_ofName name

/-- What a contract holds is a shape, a truth value and texts. -/
theorem forall_members {p : Json → Prop} (spec : Spec) (hbool : ∀ b, p (.bool b))
    (hstring : ∀ s, p (.string s)) (hshape : p (.array (spec.shape.map Dim.toJson))) :
    ∃ members, spec.toJson = .object members ∧ ∀ e ∈ members, p e.2 := by
  refine ⟨_, rfl, fun e he => ?_⟩
  simp only [List.mem_cons, List.not_mem_nil, or_false] at he
  rcases he with rfl | rfl | rfl | rfl
  · exact hstring _
  · exact hshape
  · exact hstring _
  · exact hbool _

theorem isFloatFree_toJson (spec : Spec) : spec.toJson.IsFloatFree := by
  obtain ⟨members, hspec, hmembers⟩ := spec.forall_members (p := Json.IsFloatFree) .bool .string
    (.array fun v hv => by
      obtain ⟨d, -, rfl⟩ := List.mem_map.1 hv
      exact d.isFloatFree_toJson)
  rw [hspec]
  exact .object hmembers

theorem nestsWithin_toJson (depth : Nat) (spec : Spec) : spec.toJson.NestsWithin (depth + 2) := by
  obtain ⟨members, hspec, hmembers⟩ := spec.forall_members (p := Json.NestsWithin (depth + 1))
    .bool .string (.array fun v hv => by
      obtain ⟨d, -, rfl⟩ := List.mem_map.1 hv
      exact d.nestsWithin_toJson depth)
  rw [hspec]
  exact .object hmembers

theorem rereads : Rereads Spec.toJson Spec.ofJson? where
  again h := ofJson?_toJson (ofName_display_of_ofJson? h)
  notString _ := rfl
  isFloatFree := isFloatFree_toJson
  nestsWithin depth spec := spec.nestsWithin_toJson (depth + 1)

end Spec

/-! ### Contracts of inputs -/

namespace InputSpec

/-- A list of contracts is no contract itself. -/
theorem spec_ofJson?_variadic (specs : List Spec) :
    Spec.ofJson? (variadic specs).toJson = none := by
  match specs with
  | [] | [_] | [_, _] | [_, _, _] | [_, _, _, _] | _ :: _ :: _ :: _ :: _ :: _ => rfl

/-- Each contract as it is read again. -/
def reread : InputSpec → InputSpec
  | single spec => single spec.reread
  | variadic specs => variadic (specs.map Spec.reread)

theorem ofJson?_toJson_eq_reread (input : InputSpec) :
    InputSpec.ofJson? input.toJson = some input.reread := by
  cases input with
  | single spec => simp only [toJson, InputSpec.ofJson?, spec.ofJson?_toJson_eq_reread, reread]
  | variadic specs =>
    have hspecs : (specs.map Spec.toJson).mapM Spec.ofJson? = some (specs.map Spec.reread) :=
      mapM_map_eq_some_map fun spec _ => spec.ofJson?_toJson_eq_reread
    rw [InputSpec.ofJson?, spec_ofJson?_variadic]
    simp [toJson, Json.items?, hspecs, reread]

theorem ofJson?_toJson_single {spec : Spec} (h : Spec.ofJson? spec.toJson = some spec) :
    InputSpec.ofJson? (single spec).toJson = some (single spec) := by
  simp only [toJson, InputSpec.ofJson?, h]

theorem ofJson?_toJson_variadic {specs : List Spec}
    (h : ∀ spec ∈ specs, Spec.ofJson? spec.toJson = some spec) :
    InputSpec.ofJson? (variadic specs).toJson = some (variadic specs) := by
  have hreread : ∀ spec ∈ specs, spec.reread = spec := fun spec hspec =>
    Option.some.inj (spec.ofJson?_toJson_eq_reread.symm.trans (h spec hspec))
  rw [ofJson?_toJson_eq_reread, reread, List.map_congr_left hreread, List.map_id']

theorem again_of_ofJson? {v : Json} {input : InputSpec} (h : InputSpec.ofJson? v = some input) :
    InputSpec.ofJson? input.toJson = some input := by
  unfold InputSpec.ofJson? at h
  split at h
  · rename_i spec hspec
    cases h
    exact ofJson?_toJson_single (Spec.rereads.again hspec)
  · obtain ⟨items, -, h⟩ := Option.bind_eq_some_iff.1 h
    obtain ⟨specs, hspecs, h⟩ := Option.bind_eq_some_iff.1 h
    cases h
    refine ofJson?_toJson_variadic fun spec hspec => ?_
    obtain ⟨w, hw⟩ := exists_mem_of_mapM_eq_some hspecs spec hspec
    exact Spec.rereads.again hw

theorem rereads : Rereads InputSpec.toJson InputSpec.ofJson? where
  again := again_of_ofJson?
  notString input := by cases input <;> rfl
  isFloatFree input := by
    cases input with
    | single spec => exact spec.isFloatFree_toJson
    | variadic specs =>
      refine .array fun v hv => ?_
      obtain ⟨spec, -, rfl⟩ := List.mem_map.1 hv
      exact spec.isFloatFree_toJson
  nestsWithin depth input := by
    cases input with
    | single spec => exact spec.nestsWithin_toJson (depth + 1)
    | variadic specs =>
      refine .array fun v hv => ?_
      obtain ⟨spec, -, rfl⟩ := List.mem_map.1 hv
      exact spec.nestsWithin_toJson depth

end InputSpec

end Dataflow
