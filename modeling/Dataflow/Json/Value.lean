import Dataflow.Json.Reader

/-! Values that stand for what they mean and not for how they were written: their objects are in
canonical form. -/
namespace Dataflow.Json

/-! ### The canonical form of a canonical form -/

theorem canonicalMembers_eq_map (members : List (String × Json)) :
    canonicalMembers members = members.map fun e => (e.1, e.2.canonical) := by
  induction members with
  | nil => rfl
  | cons e members ih => rw [canonicalMembers, ih, List.map_cons]

/-- Members whose values are canonical and whose names ascend are left as they are. -/
theorem sortEntries_canonicalMembers {members : List (String × Json)} (ha : Ascending members)
    (hc : ∀ e ∈ members, e.2.canonical = e.2) :
    sortEntries (canonicalMembers members) = members := by
  have h : members.map (fun e => (e.1, e.2.canonical)) = members.map id :=
    List.map_congr_left fun e he => Prod.ext rfl (hc e he)
  rw [canonicalMembers_eq_map, h, List.map_id, sortEntries_of_ascending ha]

mutual

theorem canonical_canonical : (v : Json) → v.canonical.canonical = v.canonical
  | null | bool _ | number _ | string _ => by simp only [canonical]
  | array items => by simp only [canonical, canonicalItems_canonicalItems items]
  | object members => by
    simp only [canonical]
    rw [sortEntries_canonicalMembers (ascending_sortEntries _) fun e he =>
      canonical_of_mem_canonicalMembers members e (mem_sortEntries he)]

theorem canonicalItems_canonicalItems :
    (items : List Json) → canonicalItems (canonicalItems items) = canonicalItems items
  | [] => rfl
  | v :: items => by
    simp only [canonicalItems, canonical_canonical v, canonicalItems_canonicalItems items]

theorem canonical_of_mem_canonicalMembers :
    (members : List (String × Json)) → ∀ e ∈ canonicalMembers members, e.2.canonical = e.2
  | [] => nofun
  | (_, v) :: members => fun e he => by
    rcases List.mem_cons.1 he with rfl | he
    · exact canonical_canonical v
    · exact canonical_of_mem_canonicalMembers members e he

end

end Dataflow.Json

namespace Dataflow

/-! ### Values -/

/-- A value in canonical form. -/
structure Value where
  json : Json
  isCanonical : json.canonical = json

namespace Value

instance : DecidableEq Value := fun a b =>
  decidable_of_iff (a.json = b.json) ⟨fun h => by cases a; cases b; cases h; rfl, fun h => h ▸ rfl⟩

def ofJson (v : Json) : Value := ⟨v.canonical, v.canonical_canonical⟩

def ofInt64 (n : Int64) : Value := ⟨.ofInt64 n, by simp only [Json.ofInt64, Json.canonical]⟩

def ofString (s : String) : Value := ⟨.string s, by simp only [Json.canonical]⟩

def kind (v : Value) : Json.Kind := v.json.kind

def toInt64? (v : Value) : Option Int64 := v.json.toInt64?

def compact (v : Value) : String := v.json.compact

def read : (depth : Nat) → Json.Reader Value := fun depth cs => do
  let (v, rest) ← Json.readValue depth cs
  return (.ofJson v, rest)

def ofText (text : String) : Except Json.Error Value := Json.readText (read Json.maxDepth) text

end Value

end Dataflow
