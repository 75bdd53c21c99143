import Dataflow.Proofs.Decimal
import Dataflow.Proofs.Traversal
import Dataflow.Resolution

/-! Resolution told by rules: what a dimension is compared as and why one fails. A shape gives the
former for all its dimensions, or the latter for the leftmost one that fails. -/
namespace Dataflow

/-! ### Integers as attributes -/

theorem Json.toInt64?_eq_some_iff {v : Json} {n : Int64} :
    v.toInt64? = some n ↔ v = .ofInt64 n := by
  constructor
  · intro h
    match v with
    | .number (.integer ⟨m, _⟩) =>
      cases int64OfInt?_eq_some_iff.1 h
      rfl
  · rintro rfl
    exact int64OfInt?_toInt n

theorem Value.toInt64?_eq_some_iff {v : Value} {n : Int64} :
    v.toInt64? = some n ↔ v = .ofInt64 n := by
  refine Json.toInt64?_eq_some_iff.trans ⟨fun h => ?_, fun h => h ▸ rfl⟩
  cases v
  cases h
  rfl

theorem Value.toInt64?_eq_none_iff {v : Value} : v.toInt64? = none ↔ ∀ n, v ≠ .ofInt64 n := by
  simp only [Option.eq_none_iff_forall_ne_some, ne_eq, toInt64?_eq_some_iff]

/-! ### One dimension -/

namespace Dim

/-- What a dimension is compared as on a side that has this node, or none. Names are left only on a
side without a node. -/
inductive Stands : Option Context → Dim → Dim → Prop
  | size {node? : Option Context} {n : Int64} (h : -1 ≤ n) : Stands node? (.size n) (.size n)
  | name {name : String} : Stands none (.symbol name) (.symbol name)
  | attribute {node : Context} {name : String} {n : Int64}
      (h : node.attribute? name = some (.ofInt64 n)) : Stands (some node) (.symbol name) (.size n)

/-- Why the dimension with this number fails on such a side. -/
inductive Fails : Option Context → Nat → Dim → ResolveError → Prop
  | invalid {node? : Option Context} {index : Nat} {n : Int64} (h : n < -1) :
      Fails node? index (.size n) (.invalidDescriptor index n)
  | absent {node : Context} {index : Nat} {name : String} (h : node.attribute? name = none) :
      Fails (some node) index (.symbol name) (.unresolvedSymbol name node.label)
  | noInteger {node : Context} {index : Nat} {name : String} {v : Value}
      (h : node.attribute? name = some v) (hv : ∀ n, v ≠ .ofInt64 n) :
      Fails (some node) index (.symbol name) (.wrongAttributeType name v.kind)

theorem Stands.eq_symbol {node? : Option Context} {d : Dim} {name : String}
    (h : d.Stands node? (.symbol name)) : node? = none ∧ d = .symbol name := by
  cases h
  exact ⟨rfl, rfl⟩

theorem isValid_size_iff {n : Int64} : (Dim.size n).IsValid ↔ -1 ≤ n := Iff.rfl

theorem fails_size_iff {node? : Option Context} {index : Nat} {n : Int64} {e : ResolveError} :
    (size n).Fails node? index e ↔ n < -1 ∧ e = .invalidDescriptor index n := by
  constructor
  · rintro ⟨hn⟩
    exact ⟨hn, rfl⟩
  · rintro ⟨hn, rfl⟩
    exact .invalid hn

/-- The dimension with this number as it is compared. -/
def operandAt (node? : Option Context) (index : Nat) : Dim → Except ResolveError Dim
  | size n => (resolveDim node? index (.size n)).map .size
  | symbol name =>
    match node? with
    | none => .ok (.symbol name)
    | some node => (resolveDim (some node) index (.symbol name)).map .size

theorem resolveDim_size_eq_ok_iff {node? : Option Context} {index : Nat} {n m : Int64} :
    resolveDim node? index (.size n) = .ok m ↔ -1 ≤ n ∧ n = m := by
  simp only [resolveDim, isValid_size_iff]
  split <;> simp [*]

theorem resolveDim_size_eq_error_iff {node? : Option Context} {index : Nat} {n : Int64}
    {e : ResolveError} : resolveDim node? index (.size n) = .error e ↔
      n < -1 ∧ e = .invalidDescriptor index n := by
  simp only [resolveDim, isValid_size_iff, ← Int64.not_le]
  split <;> simp [*, eq_comm]

theorem resolveDim_symbol_eq_ok_iff {node : Context} {index : Nat} {name : String} {n : Int64} :
    resolveDim (some node) index (.symbol name) = .ok n ↔
      node.attribute? name = some (.ofInt64 n) := by
  simp only [resolveDim, resolveSymbol]
  cases hv : node.attribute? name with
  | none => simp
  | some v =>
    simp only [Option.some.injEq, ← Value.toInt64?_eq_some_iff]
    cases v.toInt64? <;> simp

theorem resolveDim_symbol_eq_error_iff {node : Context} {index : Nat} {name : String}
    {e : ResolveError} : resolveDim (some node) index (.symbol name) = .error e ↔
      (node.attribute? name = none ∧ e = .unresolvedSymbol name node.label) ∨
        ∃ v, node.attribute? name = some v ∧ (∀ n, v ≠ .ofInt64 n) ∧
          e = .wrongAttributeType name v.kind := by
  simp only [resolveDim, resolveSymbol]
  cases hv : node.attribute? name with
  | none => simp [eq_comm]
  | some v =>
    simp only [Option.some.injEq, ← Value.toInt64?_eq_none_iff]
    cases hn : v.toInt64? <;> simp [hn, eq_comm]

theorem operandAt_eq_ok_iff {node? : Option Context} {index : Nat} {d d' : Dim} :
    operandAt node? index d = .ok d' ↔ d.Stands node? d' := by
  cases d with
  | size n =>
    simp only [operandAt, map_eq_ok_iff, resolveDim_size_eq_ok_iff]
    constructor
    · rintro ⟨m, ⟨hn, rfl⟩, rfl⟩
      exact .size hn
    · rintro ⟨hn⟩
      exact ⟨n, ⟨hn, rfl⟩, rfl⟩
  | symbol name =>
    cases node? with
    | none =>
      simp only [operandAt, Except.ok.injEq]
      constructor
      · rintro rfl
        exact .name
      · rintro ⟨⟩
        rfl
    | some node =>
      simp only [operandAt, map_eq_ok_iff, resolveDim_symbol_eq_ok_iff]
      constructor
      · rintro ⟨n, hn, rfl⟩
        exact .attribute hn
      · rintro ⟨⟩
        exact ⟨_, ‹_›, rfl⟩

theorem operandAt_eq_error_iff {node? : Option Context} {index : Nat} {d : Dim} {e : ResolveError} :
    operandAt node? index d = .error e ↔ d.Fails node? index e := by
  cases d with
  | size n =>
    rw [operandAt, map_eq_error_iff, resolveDim_size_eq_error_iff, fails_size_iff]
  | symbol name =>
    cases node? with
    | none =>
      simp only [operandAt, reduceCtorEq, false_iff]
      rintro ⟨⟩
    | some node =>
      simp only [operandAt, map_eq_error_iff, resolveDim_symbol_eq_error_iff]
      constructor
      · rintro (⟨h, rfl⟩ | ⟨v, h, hv, rfl⟩)
        · exact .absent h
        · exact .noInteger h hv
      · rintro (_ | ⟨h⟩ | ⟨h, hv⟩)
        · exact .inl ⟨h, rfl⟩
        · exact .inr ⟨_, h, hv, rfl⟩

end Dim

/-! ### Shapes -/

namespace Shape

/-- Both ways of preparing a shape go over its dimensions one by one. -/
theorem resolveFrom_eq_traverseFrom (node? : Option Context) (index : Nat) (shape : Shape) :
    shape.resolveFrom node? index = traverseFrom (resolveDim node?) index shape := by
  induction shape generalizing index with
  | nil => rfl
  | cons d shape ih => simp only [resolveFrom, traverseFrom, ih]

theorem validateFrom_eq_traverseFrom (index : Nat) (shape : Shape) :
    (shape.validateFrom index).map (fun _ => shape) =
      traverseFrom (Dim.operandAt none) index shape := by
  induction shape generalizing index with
  | nil => rfl
  | cons d shape ih =>
    rw [traverseFrom, ← ih]
    cases d with
    | symbol name => cases h : validateFrom (index + 1) shape <;> simp [validateFrom, h] <;> rfl
    | size n =>
      simp only [validateFrom, Dim.operandAt, resolveDim]
      split
      · cases validateFrom (index + 1) shape <;> rfl
      · rfl

theorem operands_none (shape : Shape) :
    shape.operands none = (shape.validateFrom 0).map fun _ => shape := by
  rw [operands]
  cases shape.validateFrom 0 <;> rfl

theorem operands_some (shape : Shape) (node : Context) :
    shape.operands (some node) = (shape.resolve (some node)).map (List.map .size) := by
  rw [operands]
  cases shape.resolve (some node) <;> rfl

theorem operands_eq_traverseFrom (shape : Shape) (node? : Option Context) :
    shape.operands node? = traverseFrom (Dim.operandAt node?) 0 shape := by
  cases node? with
  | none => rw [operands_none, validateFrom_eq_traverseFrom]
  | some node =>
    have hdim : Dim.operandAt (some node) =
        fun i d => (resolveDim (some node) i d).map .size := by
      funext i d
      cases d <;> rfl
    rw [operands_some, resolve, resolveFrom_eq_traverseFrom, traverseFrom_map, hdim]

/-- All dimensions as they are compared. -/
def Stands (node? : Option Context) (shape operands : Shape) : Prop :=
  List.Forall₂ (Dim.Stands node?) shape operands

/-- Why the leftmost dimension that fails does so. -/
def Fails (node? : Option Context) (shape : Shape) (e : ResolveError) : Prop :=
  ∃ i d, FirstAt (fun j d => ∃ e, Dim.Fails node? j d e) shape i d ∧ d.Fails node? i e

theorem operands_eq_ok_iff {shape operands : Shape} {node? : Option Context} :
    shape.operands node? = .ok operands ↔ shape.Stands node? operands := by
  rw [operands_eq_traverseFrom]
  exact traverseFrom_eq_ok_iff (f := Dim.operandAt node?)
    (fun _ _ _ => Dim.operandAt_eq_ok_iff) 0 _ _

theorem operands_eq_error_iff {shape : Shape} {node? : Option Context} {e : ResolveError} :
    shape.operands node? = .error e ↔ shape.Fails node? e := by
  rw [operands_eq_traverseFrom, traverseFrom_eq_error_iff]
  simp only [Nat.zero_add, Dim.operandAt_eq_error_iff, Fails]

end Shape

end Dataflow
