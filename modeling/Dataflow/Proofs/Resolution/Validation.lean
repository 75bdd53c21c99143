import Dataflow.Proofs.Resolution.Sizes

/-! Validation beside resolution. Without a node a shape is searched for a size that is not valid
and is then taken as it stands, with a node it is resolved dimension for dimension. As long as the
node has an integer under each name, both fail for the same reason or neither does, and then the
results differ in the names alone. For shapes without names there is no difference. -/
namespace Dataflow

/-! ### One dimension -/

namespace Dim

/-- The integer that a dimension is on a side with this node or none, whether or not it is valid. -/
inductive Denotes : Option Context → Dim → Int64 → Prop
  | size {node? : Option Context} {n : Int64} : Denotes node? (.size n) n
  | named {node : Context} {name : String} {n : Int64}
      (h : node.attribute? name = some (.ofInt64 n)) : Denotes (some node) (.symbol name) n

variable {node? : Option Context} {d : Dim} {n : Int64}

theorem resolveDim_eq_ite (h : d.Denotes node? n) (index : Nat) :
    resolveDim node? index d =
      if d.IsValid then .ok n else .error (.invalidDescriptor index n) := by
  cases h with
  | size => rfl
  | named h => exact resolveDim_symbol_eq_ok_iff.2 h

theorem validateFrom_cons (h : d.Denotes node? n) (index : Nat) (shape : Shape) :
    Shape.validateFrom index (d :: shape) =
      if d.IsValid then shape.validateFrom (index + 1)
      else .error (.invalidDescriptor index n) := by
  cases h with
  | size => rfl
  | named => rfl

theorem fails_none_iff {index : Nat} {e : ResolveError} :
    d.Fails none index e ↔ ∃ n, d = .size n ∧ ¬ d.IsValid ∧ e = .invalidDescriptor index n := by
  cases d with
  | size n => simp [fails_size_iff, isValid_size_iff, Int64.not_le]
  | symbol name =>
    constructor
    · rintro ⟨⟩
    · rintro ⟨n, ⟨⟩, -⟩

end Dim

/-! ### Shapes -/

namespace Shape

variable {shape : Shape}

/-- The loop that resolves and the search for a size that is not valid stop at one place, or both
go to the end. -/
theorem resolveFrom_eq_map_validateFrom {node? : Option Context} {v : List Int64}
    (h : List.Forall₂ (Dim.Denotes node?) shape v) (index : Nat) :
    shape.resolveFrom node? index = (shape.validateFrom index).map fun _ => v := by
  induction h generalizing index with
  | nil => rfl
  | @cons d n shape v hd _ ih =>
    rw [resolveFrom, Dim.resolveDim_eq_ite hd, Dim.validateFrom_cons hd, ih]
    split
    · cases validateFrom (index + 1) shape <;> rfl
    · -- a head that is not valid ends both, whatever it denotes
      rfl

/-- The search stops at the first size that is not valid. -/
theorem fails_none_iff {e : ResolveError} : shape.Fails none e ↔
    ∃ index n, FirstAt (fun _ d => ¬ d.IsValid) shape index (.size n) ∧
      e = .invalidDescriptor index n := by
  have hplace : (fun (j : Nat) d => ∃ e, Dim.Fails none j d e) = fun _ d => ¬ d.IsValid := by
    funext j d
    cases d <;> simp [Dim.fails_none_iff, Dim.IsValid]
  rw [Fails, hplace]
  simp only [Dim.fails_none_iff]
  constructor
  · rintro ⟨index, _, hfirst, n, rfl, -, rfl⟩
    exact ⟨index, n, hfirst, rfl⟩
  · rintro ⟨index, n, hfirst, rfl⟩
    exact ⟨index, _, hfirst, n, rfl, hfirst.2.1, rfl⟩

theorem exists_denotes {node : Context}
    (h : ∀ name, .symbol name ∈ shape → ∃ n, node.attribute? name = some (.ofInt64 n)) :
    ∃ v, List.Forall₂ (Dim.Denotes (some node)) shape v := by
  refine exists_forall₂_iff.2 fun d hd => ?_
  cases d with
  | size n => exact ⟨n, .size⟩
  | symbol name =>
    obtain ⟨n, hn⟩ := h name hd
    exact ⟨n, .named hn⟩

theorem exists_eq_ofSizes (h : ∀ name, .symbol name ∉ shape) : ∃ v, shape = ofSizes v := by
  have hsizes : ∃ v, List.Forall₂ (fun d n => d = .size n) shape v := by
    refine exists_forall₂_iff.2 fun d hd => ?_
    cases d with
    | size n => exact ⟨n, rfl⟩
    | symbol name => exact absurd hd (h name)
  obtain ⟨v, hv⟩ := hsizes
  exact ⟨v, forall₂_eq_size_iff.1 hv⟩

/-- Sizes are looked over in the same way on all sides. -/
theorem resolve_ofSizes (v : List Int64) (node? : Option Context) :
    (ofSizes v).resolve node? = ((ofSizes v).validateFrom 0).map fun _ => v := by
  refine resolveFrom_eq_map_validateFrom ?_ 0
  rw [ofSizes, List.forall₂_map_left_iff, List.forall₂_same]
  exact fun n _ => .size

theorem operands_ofSizes (v : List Int64) (node? other? : Option Context) :
    (ofSizes v).operands node? = ((ofSizes v).resolve other?).map ofSizes := by
  have hnone : (ofSizes v).operands none = ((ofSizes v).resolve other?).map ofSizes := by
    rw [operands_none, resolve_ofSizes]
    cases (ofSizes v).validateFrom 0 <;> rfl
  cases node? with
  | none => exact hnone
  | some node =>
    rw [operands_some, resolve_ofSizes v (some node), resolve_ofSizes v other?]
    rfl

/-! ### Main statement -/

/-- With an integer under each name of the shape, validating it and resolving it fail together, at
the first size that is not valid. Otherwise the one returns the shape as it stands and the other
the same sizes in the same places and, in the place of each name, the integer under it. Without
names the two come to the same on all sides. -/
theorem resolve_validated (shape : Shape) :
    (∀ node : Context,
      (∀ name, .symbol name ∈ shape → ∃ n, node.attribute? name = some (.ofInt64 n)) →
      (∀ e, shape.operands none = .error e ↔ shape.resolve (some node) = .error e) ∧
      (∀ e, shape.resolve (some node) = .error e ↔
        ∃ index n, FirstAt (fun _ d => ¬ d.IsValid) shape index (.size n) ∧
          e = .invalidDescriptor index n) ∧
      ∀ as v, shape.operands none = .ok as → shape.resolve (some node) = .ok v →
        as = shape ∧ v.length = as.length ∧
        (∀ (i : Nat) n, as[i]? = some (Dim.size n) → v[i]? = some n) ∧
        ∀ (i : Nat) name, as[i]? = some (Dim.symbol name) →
          ∃ n, v[i]? = some n ∧ node.attribute? name = some (.ofInt64 n)) ∧
    ((∀ name, .symbol name ∉ shape) →
      ∀ node? other?, shape.operands node? = (shape.resolve other?).map ofSizes) := by
  refine ⟨fun node hnode => ?_, fun hnames node? other? => ?_⟩
  · obtain ⟨v, hv⟩ := exists_denotes hnode
    have hresolve : shape.resolve (some node) = (shape.validateFrom 0).map fun _ => v :=
      resolveFrom_eq_map_validateFrom hv 0
    have herror (e : ResolveError) :
        shape.operands none = .error e ↔ shape.resolve (some node) = .error e := by
      rw [operands_none, hresolve, map_eq_error_iff, map_eq_error_iff]
    refine ⟨herror, fun e => ?_, fun as w has hw => ?_⟩
    · rw [← herror, operands_eq_error_iff, fails_none_iff]
    · rw [operands_none, map_eq_ok_iff] at has
      rw [hresolve, map_eq_ok_iff] at hw
      obtain ⟨-, -, rfl⟩ := has
      obtain ⟨-, -, rfl⟩ := hw
      refine ⟨rfl, hv.length_eq.symm, fun i n hi => ?_, fun i name hi => ?_⟩
      · obtain ⟨m, hm, hdenotes⟩ := exists_getElem?_of_forall₂ hv hi
        cases hdenotes
        exact hm
      · obtain ⟨m, hm, hdenotes⟩ := exists_getElem?_of_forall₂ hv hi
        cases hdenotes with
        | named h => exact ⟨m, hm, h⟩
  · obtain ⟨v, rfl⟩ := exists_eq_ofSizes hnames
    exact operands_ofSizes v node? other?

/-- An image of named height and width. -/
def image (channels : Int64) : Shape := [.symbol "height", .size channels, .symbol "width"]

/-- A node with a width and with a height that no shape could have. -/
def camera : Context :=
  (((Node.withId "camera").set "height" (.ofInt64 (-5))).set "width" (.ofInt64 640)).context

/-- The height is taken as it is, but the number of channels is looked at on either way. -/
theorem resolve_validated_image :
    (image (-7)).operands none = .error (.invalidDescriptor 1 (-7)) ∧
    (image (-7)).resolve (some camera) = .error (.invalidDescriptor 1 (-7)) ∧
    (image 3).operands none = .ok (image 3) ∧
    (image 3).resolve (some camera) = .ok [-5, 3, 640] ∧
    camera.attribute? "height" = some (.ofInt64 (-5)) ∧
    (ofSizes [2, -7]).operands (some camera) = .error (.invalidDescriptor 1 (-7)) := by
  have hnames (channels : Int64) : ∀ name, .symbol name ∈ image channels →
      ∃ n, camera.attribute? name = some (.ofInt64 n) := by
    intro name hname
    simp only [image, List.mem_cons, Dim.symbol.injEq, reduceCtorEq, List.not_mem_nil, or_false,
      false_or] at hname
    obtain rfl | rfl := hname
    · exact ⟨-5, by rfl⟩
    · exact ⟨640, by rfl⟩
  obtain ⟨hinvalid, -⟩ := resolve_validated (image (-7))
  obtain ⟨hvalid, -⟩ := resolve_validated (image 3)
  obtain ⟨-, hsizes⟩ := resolve_validated (ofSizes [2, -7])
  have hnone : (image (-7)).operands none = .error (.invalidDescriptor 1 (-7)) := by rfl
  have hshape : (image 3).operands none = .ok (image 3) := by rfl
  have hresolve : (image 3).resolve (some camera) = .ok [-5, 3, 640] := by rfl
  obtain ⟨-, -, hok⟩ := hvalid camera (hnames 3)
  obtain ⟨-, -, -, hheight⟩ := hok _ _ hshape hresolve
  obtain ⟨n, hn, hattribute⟩ := hheight 0 "height" rfl
  cases hn
  refine ⟨hnone, ((hinvalid camera (hnames (-7))).1 _).1 hnone, hshape, hresolve, hattribute, ?_⟩
  exact (hsizes (by simp [ofSizes]) (some camera) none).trans (by rfl)

end Shape

end Dataflow
