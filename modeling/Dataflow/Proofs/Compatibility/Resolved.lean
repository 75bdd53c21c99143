import Dataflow.Proofs.Compatibility.ByName
import Dataflow.Proofs.Resolution.Validation

/-! Resolving first. The sizes that two shapes resolve to are compared with each other as the shapes
are with their nodes, and with any nodes or none. The two ways part only over a size below the open
one: an attribute may bring it in, but it may not stand in a shape. -/
namespace Dataflow

/-! ### Shapes of sizes -/

namespace Shape

theorem operands_of_resolve {shape : Shape} {node : Context} {v : List Int64}
    (h : shape.resolve (some node) = .ok v) : shape.operands (some node) = .ok (ofSizes v) := by
  rw [operands_some, h]
  rfl

theorem operands_ofSizes_eq_ok_iff {v : List Int64} {node? : Option Context} {as : Shape} :
    (ofSizes v).operands node? = .ok as ↔ (∀ n ∈ v, -1 ≤ n) ∧ as = ofSizes v := by
  rw [operands_ofSizes v node? none, map_eq_ok_iff]
  simp only [resolve_ofSizes_eq_ok_iff, Dim.isValid_size_iff]
  constructor
  · rintro ⟨_, ⟨rfl, hv⟩, rfl⟩
    exact ⟨hv, rfl⟩
  · rintro ⟨hv, rfl⟩
    exact ⟨v, ⟨rfl, hv⟩, rfl⟩

theorem operands_ofSizes_eq_error_iff {v : List Int64} {node? : Option Context}
    {e : ResolveError} : (ofSizes v).operands node? = .error e ↔
      ∃ i n, FirstAt (fun _ n => n < -1) v i n ∧ e = .invalidDescriptor i n := by
  rw [operands_ofSizes v node? none, map_eq_error_iff, resolve_ofSizes_eq_error_iff]
  simp only [Dim.isValid_size_iff, Int64.not_le]

/-- Shapes that can be compared are not refused for the sake of resolution any more. -/
theorem agree_ne_resolution (as bs : Shape) (e : ResolveError) :
    as.agree bs ≠ .error (.resolution e) := by
  intro h
  rw [agree] at h
  split at h
  · cases h
  · obtain ⟨_, _, _, -, hr⟩ := agreeFrom_eq_error_iff.1 h
    cases hr

end Shape

/-! ### Contracts of sizes -/

namespace Spec

/-- The contract with these sizes for its shape. -/
def withSizes (spec : Spec) (v : List Int64) : Spec := { spec with shape := .ofSizes v }

variable {source target : Spec} {n m : Context} {v w : List Int64}

/-- With both nodes at hand the sizes are what is compared. -/
theorem fits_of_resolve (hd : source.dtype.Fits target.dtype)
    (hv : source.shape.resolve (some n) = .ok v) (hw : target.shape.resolve (some m) = .ok w) :
    source.fits target (some n) (some m) = (Shape.ofSizes v).agree (.ofSizes w) :=
  fits_of_operands hd (Shape.operands_of_resolve hv) (Shape.operands_of_resolve hw)

variable {sourceNode? targetNode? : Option Context}

theorem fits_withSizes (hd : source.dtype.Fits target.dtype) (hv : ∀ k ∈ v, -1 ≤ k)
    (hw : ∀ k ∈ w, -1 ≤ k) :
    (source.withSizes v).fits (target.withSizes w) sourceNode? targetNode? =
      (Shape.ofSizes v).agree (.ofSizes w) :=
  fits_of_operands hd (Shape.operands_ofSizes_eq_ok_iff.2 ⟨hv, rfl⟩)
    (Shape.operands_ofSizes_eq_ok_iff.2 ⟨hw, rfl⟩)

/-- A size below the open one is reported where it comes first, on the side of the source before
the other. -/
theorem exists_fits_withSizes_eq_error (hd : source.dtype.Fits target.dtype)
    (hbelow : ¬ ∀ k ∈ v ++ w, -1 ≤ k) :
    ∃ i k, (FirstAt (fun _ k => k < -1) v i k ∨
        (∀ k ∈ v, -1 ≤ k) ∧ FirstAt (fun _ k => k < -1) w i k) ∧
      (source.withSizes v).fits (target.withSizes w) sourceNode? targetNode? =
        .error (.resolution (.invalidDescriptor i k)) := by
  cases hs : (Shape.ofSizes v).operands sourceNode? with
  | error e =>
    obtain ⟨i, k, hk, rfl⟩ := Shape.operands_ofSizes_eq_error_iff.1 hs
    exact ⟨i, k, .inl hk, fits_of_source_error hd hs⟩
  | ok as =>
    obtain ⟨hv, -⟩ := Shape.operands_ofSizes_eq_ok_iff.1 hs
    cases ht : (Shape.ofSizes w).operands targetNode? with
    | error e =>
      obtain ⟨i, k, hk, rfl⟩ := Shape.operands_ofSizes_eq_error_iff.1 ht
      exact ⟨i, k, .inr ⟨hv, hk⟩, fits_of_target_error hd hs ht⟩
    | ok bs =>
      obtain ⟨hw, -⟩ := Shape.operands_ofSizes_eq_ok_iff.1 ht
      exact absurd (List.forall_mem_append.2 ⟨hv, hw⟩) hbelow

/-! ### Main statement -/

/-- Contracts whose shapes have been resolved with their nodes compare, with any nodes, as the
contracts do with theirs, unless the types fit and some size lies below the open one. Then the
first such size is the reason, be it in the source or, if there is none, in the target. -/
theorem check_withSizes (hv : source.shape.resolve (some n) = .ok v)
    (hw : target.shape.resolve (some m) = .ok w) (sourceNode? targetNode? : Option Context) :
    ((source.withSizes v).check (.single (target.withSizes w)) sourceNode? targetNode? =
        source.check (.single target) (some n) (some m) ↔
      (∀ k ∈ v ++ w, -1 ≤ k) ∨ ¬ source.dtype.Fits target.dtype) ∧
    (source.dtype.Fits target.dtype → (∃ k ∈ v ++ w, k < -1) →
      ∃ i k, (FirstAt (fun _ k => k < -1) v i k ∨
          (∀ k ∈ v, -1 ≤ k) ∧ FirstAt (fun _ k => k < -1) w i k) ∧
        (source.withSizes v).check (.single (target.withSizes w)) sourceNode? targetNode? =
          .error (.resolution (.invalidDescriptor i k))) := by
  refine ⟨?_, fun hd ⟨k, hk, hlt⟩ => ?_⟩
  · by_cases hd : source.dtype.Fits target.dtype
    case neg =>
      refine iff_of_true ?_ (.inr hd)
      calc (source.withSizes v).fits (target.withSizes w) sourceNode? targetNode?
          = .error (.dtypeMismatch source.dtype target.dtype) := fits_of_not_fits hd
        _ = source.fits target (some n) (some m) := (fits_of_not_fits hd).symm
    by_cases hall : ∀ k ∈ v ++ w, -1 ≤ k
    · obtain ⟨hvk, hwk⟩ := List.forall_mem_append.1 hall
      refine iff_of_true ?_ (.inl hall)
      calc (source.withSizes v).fits (target.withSizes w) sourceNode? targetNode?
          = (Shape.ofSizes v).agree (.ofSizes w) := fits_withSizes hd hvk hwk
        _ = source.fits target (some n) (some m) := (fits_of_resolve hd hv hw).symm
    · refine iff_of_false (fun heq => ?_) (not_or.2 ⟨hall, not_not.2 hd⟩)
      obtain ⟨i, k, -, herror⟩ := exists_fits_withSizes_eq_error hd hall
      have hagree : source.fits target (some n) (some m) =
          .error (.resolution (.invalidDescriptor i k)) := heq.symm.trans herror
      rw [fits_of_resolve hd hv hw] at hagree
      exact Shape.agree_ne_resolution _ _ _ hagree
  · have hbelow : ¬ ∀ k ∈ v ++ w, -1 ≤ k := fun hall => Int64.not_le.2 hlt (hall k hk)
    exact exists_fits_withSizes_eq_error hd hbelow

/-- A node whose batch has this size. -/
def ofBatch (k : Int64) : Context := (Node.set {} "batch" (.ofInt64 k)).context

/-- Batches of one size differ in their rows. A batch of a size below the open one only differs in
size as long as its shape has a name for it. -/
theorem check_withSizes_rows :
    ((rows 3).withSizes [4, 3]).check (.single ((rows 2).withSizes [4, 2])) none none =
      .error (.dimensionMismatch 1 (.size 3) (.size 2)) ∧
    (rows 3).check (.single (rows 2)) (some (ofBatch 4)) (some (ofBatch (-5))) =
      .error (.dimensionMismatch 0 (.size 4) (.size (-5))) ∧
    ((rows 3).withSizes [4, 3]).check (.single ((rows 2).withSizes [-5, 2])) none none =
      .error (.resolution (.invalidDescriptor 0 (-5))) := by
  have hsource : (rows 3).shape.resolve (some (ofBatch 4)) = .ok [4, 3] := by rfl
  have htarget : (rows 2).shape.resolve (some (ofBatch 4)) = .ok [4, 2] := by rfl
  have hbelow : (rows 2).shape.resolve (some (ofBatch (-5))) = .ok [-5, 2] := by rfl
  obtain ⟨halike, -⟩ := check_withSizes hsource htarget none none
  obtain ⟨-, hfirst⟩ := check_withSizes hsource hbelow none none
  have hopen : ∀ k ∈ ([4, 3] ++ [4, 2] : List Int64), -1 ≤ k := by simp
  refine ⟨(halike.2 (.inl hopen)).trans (by rfl), by rfl, ?_⟩
  obtain ⟨i, k, hplace, h⟩ := hfirst (.inl rfl) ⟨-5, by decide, by decide⟩
  rcases hplace with hplace | ⟨-, hplace⟩
  · have hlt : k < -1 := hplace.2.1
    match i, hplace.1 with
    | 0, rfl => exact absurd hlt (by decide)
    | 1, rfl => exact absurd hlt (by decide)
  · have hlt : k < -1 := hplace.2.1
    match i, hplace.1 with
    | 0, rfl => exact h
    | 1, rfl => exact absurd hlt (by decide)

end Spec

end Dataflow
