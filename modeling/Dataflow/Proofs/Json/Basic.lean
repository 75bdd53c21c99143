import Dataflow.Json.Value

/-! Two bounds on values: how deep their containers nest, and that none of their numbers is a
float. The canonical form of a value nests no deeper than the value. -/
namespace Dataflow.Json

/-! ### Bounds -/

/-- Opens at most `depth` containers one inside another. -/
inductive NestsWithin : Nat → Json → Prop
  | null {depth : Nat} : NestsWithin depth .null
  | bool {depth : Nat} (b : Bool) : NestsWithin depth (.bool b)
  | number {depth : Nat} (n : Number) : NestsWithin depth (.number n)
  | string {depth : Nat} (s : String) : NestsWithin depth (.string s)
  | array {depth : Nat} {items : List Json} (h : ∀ v ∈ items, NestsWithin depth v) :
      NestsWithin (depth + 1) (.array items)
  | object {depth : Nat} {members : List (String × Json)}
      (h : ∀ e ∈ members, NestsWithin depth e.2) : NestsWithin (depth + 1) (.object members)

theorem nestsWithin_object_iff {depth : Nat} {members : List (String × Json)} :
    NestsWithin (depth + 1) (.object members) ↔ ∀ e ∈ members, NestsWithin depth e.2 :=
  ⟨fun | .object h => h, .object⟩

inductive IsFloatFree : Json → Prop
  | null : IsFloatFree .null
  | bool (b : Bool) : IsFloatFree (.bool b)
  | integer (n : WordInt) : IsFloatFree (.number (.integer n))
  | string (s : String) : IsFloatFree (.string s)
  | array {items : List Json} (h : ∀ v ∈ items, IsFloatFree v) : IsFloatFree (.array items)
  | object {members : List (String × Json)} (h : ∀ e ∈ members, IsFloatFree e.2) :
      IsFloatFree (.object members)

/-! ### Canonical forms -/

theorem canonicalItems_eq_map (items : List Json) :
    canonicalItems items = items.map canonical := by
  induction items with
  | nil => rfl
  | cons v items ih => rw [canonicalItems, ih, List.map_cons]

theorem NestsWithin.canonical {depth : Nat} {v : Json} (h : NestsWithin depth v) :
    NestsWithin depth v.canonical := by
  induction h with
  | null | bool | number | string =>
    simp only [Json.canonical]
    constructor
  | array _ ih =>
    simp only [Json.canonical, canonicalItems_eq_map]
    refine .array fun v hv => ?_
    obtain ⟨w, hw, rfl⟩ := List.mem_map.1 hv
    exact ih w hw
  | object _ ih =>
    simp only [Json.canonical, canonicalMembers_eq_map]
    refine .object fun e he => ?_
    obtain ⟨d, hd, rfl⟩ := List.mem_map.1 (mem_sortEntries he)
    exact ih d hd

end Dataflow.Json
