import Dataflow.Compatibility
import Dataflow.Proofs.Resolution

/-! The rules of a comparison, stage by stage. A check comes to the outcome that they allow, and
they allow no other. -/
namespace Dataflow

/-! ### Types -/

/-- Equal types fit, and so do two tensors one of which is of any kind. -/
def Dtype.Fits (source target : Dtype) : Prop :=
  source = target ∨
    source.isTensorLike ∧ target.isTensorLike ∧ (source = .tensor ∨ target = .tensor)

theorem Dtype.accepts_iff {source target : Dtype} : source.accepts target ↔ source.Fits target := by
  simp [accepts, Fits, and_assoc]

/-! ### Dimensions -/

theorem Dim.isFlexible_iff {d : Dim} : d.isFlexible ↔ d = .size (-1) := decide_eq_true_iff

/-- Neither dimension is open and they are not the same. -/
def Dim.Differs (a b : Dim) : Prop := a ≠ .size (-1) ∧ b ≠ .size (-1) ∧ a ≠ b

theorem Dim.not_agrees_iff {a b : Dim} : ¬ a.agrees b ↔ a.Differs b := by
  simp only [agrees, Differs, Bool.or_eq_true, isFlexible_iff, decide_eq_true_eq, not_or, and_assoc,
    ne_eq]

namespace Shape

/-- The comparison of two dimensions at one index. -/
def agreeAt (index : Nat) (p : Dim × Dim) : Except Incompatibility Unit :=
  if p.1.agrees p.2 then .ok () else .error (.dimensionMismatch index p.1 p.2)

theorem agreeAt_eq_error_iff {index : Nat} {p : Dim × Dim} {r : Incompatibility} :
    agreeAt index p = .error r ↔ p.1.Differs p.2 ∧ r = .dimensionMismatch index p.1 p.2 := by
  rw [← Dim.not_agrees_iff, agreeAt]
  split <;> simp [*, eq_comm]

theorem agreeFrom_eq_traverseFrom (index : Nat) (source target : Shape) :
    agreeFrom index source target =
      (traverseFrom agreeAt index (source.zip target)).map fun _ => () := by
  induction source generalizing index target with
  | nil => rfl
  | cons a as ih =>
    cases target with
    | nil => rfl
    | cons b bs =>
      rw [agreeFrom, ih, List.zip_cons_cons, traverseFrom, agreeAt]
      split
      · cases traverseFrom agreeAt (index + 1) (as.zip bs) <;> rfl
      · rfl

/-- The first index at which the shapes differ and what stands there. -/
def DiffersAt (source target : Shape) (index : Nat) (a b : Dim) : Prop :=
  FirstAt (fun _ p => p.1.Differs p.2) (source.zip target) index (a, b)

theorem agreeFrom_eq_error_iff {source target : Shape} {r : Incompatibility} :
    agreeFrom 0 source target = .error r ↔
      ∃ index a b, DiffersAt source target index a b ∧ r = .dimensionMismatch index a b := by
  have hplace : (fun (i : Nat) p => ∃ r, agreeAt (0 + i) p = .error r) =
      fun _ p => p.1.Differs p.2 := by
    funext i p
    simp [agreeAt_eq_error_iff]
  rw [agreeFrom_eq_traverseFrom, map_eq_error_iff, traverseFrom_eq_error_iff, hplace]
  simp only [Nat.zero_add, agreeAt_eq_error_iff]
  constructor
  · rintro ⟨i, p, hi, -, rfl⟩
    exact ⟨i, p.1, p.2, hi, rfl⟩
  · rintro ⟨i, a, b, hi, rfl⟩
    exact ⟨i, (a, b), hi, hi.2.1, rfl⟩

end Shape

/-! ### Stages -/

/-- What comes of comparing an output with one contract. Each rule asks that the stages before its
own have been passed. -/
inductive Spec.Compares (source target : Spec) (sourceNode? targetNode? : Option Context) :
    Except Incompatibility Unit → Prop
  | dtype (h : ¬ source.dtype.Fits target.dtype) :
      Compares source target sourceNode? targetNode?
        (.error (.dtypeMismatch source.dtype target.dtype))
  | sourceShape {e : ResolveError} (hd : source.dtype.Fits target.dtype)
      (h : source.shape.Fails sourceNode? e) :
      Compares source target sourceNode? targetNode? (.error (.resolution e))
  | targetShape {as : Shape} {e : ResolveError} (hd : source.dtype.Fits target.dtype)
      (hs : source.shape.Stands sourceNode? as) (h : target.shape.Fails targetNode? e) :
      Compares source target sourceNode? targetNode? (.error (.resolution e))
  | rank {as bs : Shape} (hd : source.dtype.Fits target.dtype)
      (hs : source.shape.Stands sourceNode? as) (ht : target.shape.Stands targetNode? bs)
      (h : source.shape.length ≠ target.shape.length) :
      Compares source target sourceNode? targetNode?
        (.error (.rankMismatch source.shape.length target.shape.length))
  | dimension {as bs : Shape} {index : Nat} {a b : Dim} (hd : source.dtype.Fits target.dtype)
      (hs : source.shape.Stands sourceNode? as) (ht : target.shape.Stands targetNode? bs)
      (hr : source.shape.length = target.shape.length) (h : as.DiffersAt bs index a b) :
      Compares source target sourceNode? targetNode? (.error (.dimensionMismatch index a b))
  | compatible {as bs : Shape} (hd : source.dtype.Fits target.dtype)
      (hs : source.shape.Stands sourceNode? as) (ht : target.shape.Stands targetNode? bs)
      (hr : source.shape.length = target.shape.length)
      (h : ∀ index a b, ¬ as.DiffersAt bs index a b) :
      Compares source target sourceNode? targetNode? (.ok ())

/-- What comes of a check: of the contracts of a variadic input the first one counts. -/
inductive Spec.Checks (source : Spec) (sourceNode? targetNode? : Option Context) :
    InputSpec → Except Incompatibility Unit → Prop
  | empty : Checks source sourceNode? targetNode? (.variadic []) (.error .emptyVariadic)
  | single {target : Spec} {r : Except Incompatibility Unit}
      (h : source.Compares target sourceNode? targetNode? r) :
      Checks source sourceNode? targetNode? (.single target) r
  | first {target : Spec} {others : List Spec} {r : Except Incompatibility Unit}
      (h : source.Compares target sourceNode? targetNode? r) :
      Checks source sourceNode? targetNode? (.variadic (target :: others)) r

namespace Spec

variable {source target : Spec} {sourceNode? targetNode? : Option Context} {as bs : Shape}

theorem fits_of_not_fits (h : ¬ source.dtype.Fits target.dtype) :
    source.fits target sourceNode? targetNode? =
      .error (.dtypeMismatch source.dtype target.dtype) := by
  rw [← Dtype.accepts_iff, Bool.not_eq_true] at h
  simp [fits, h, throw, throwThe, MonadExceptOf.throw, bind, Except.bind]

/-- With types that fit the shapes decide. -/
theorem fits_eq_bind (h : source.dtype.Fits target.dtype) :
    source.fits target sourceNode? targetNode? =
      ((source.shape.operands sourceNode?).mapError .resolution).bind fun as =>
        ((target.shape.operands targetNode?).mapError .resolution).bind fun bs => as.agree bs := by
  simp [fits, Dtype.accepts_iff.2 h, bind, Except.bind]

theorem fits_of_source_error {e : ResolveError} (hd : source.dtype.Fits target.dtype)
    (h : source.shape.operands sourceNode? = .error e) :
    source.fits target sourceNode? targetNode? = .error (.resolution e) := by
  rw [fits_eq_bind hd, h]
  rfl

theorem fits_of_target_error {e : ResolveError} (hd : source.dtype.Fits target.dtype)
    (hs : source.shape.operands sourceNode? = .ok as)
    (h : target.shape.operands targetNode? = .error e) :
    source.fits target sourceNode? targetNode? = .error (.resolution e) := by
  rw [fits_eq_bind hd, hs, h]
  rfl

theorem fits_of_operands (hd : source.dtype.Fits target.dtype)
    (hs : source.shape.operands sourceNode? = .ok as)
    (ht : target.shape.operands targetNode? = .ok bs) :
    source.fits target sourceNode? targetNode? = as.agree bs := by
  rw [fits_eq_bind hd, hs, ht]
  rfl

/-- An outcome that the rules allow is the one that is returned. -/
theorem Compares.fits_eq {r : Except Incompatibility Unit}
    (h : source.Compares target sourceNode? targetNode? r) :
    source.fits target sourceNode? targetNode? = r := by
  cases h with
  | dtype h => exact fits_of_not_fits h
  | sourceShape hd h => exact fits_of_source_error hd (Shape.operands_eq_error_iff.2 h)
  | targetShape hd hs h =>
    exact fits_of_target_error hd (Shape.operands_eq_ok_iff.2 hs) (Shape.operands_eq_error_iff.2 h)
  | rank hd hs ht h =>
    rw [fits_of_operands hd (Shape.operands_eq_ok_iff.2 hs) (Shape.operands_eq_ok_iff.2 ht)]
    rw [Shape.agree, ← hs.length_eq, ← ht.length_eq, if_pos h]
  | dimension hd hs ht hr h =>
    rw [fits_of_operands hd (Shape.operands_eq_ok_iff.2 hs) (Shape.operands_eq_ok_iff.2 ht)]
    rw [Shape.agree, ← hs.length_eq, ← ht.length_eq, if_neg (not_not.2 hr)]
    exact Shape.agreeFrom_eq_error_iff.2 ⟨_, _, _, h, rfl⟩
  | @compatible as bs hd hs ht hr h =>
    rw [fits_of_operands hd (Shape.operands_eq_ok_iff.2 hs) (Shape.operands_eq_ok_iff.2 ht)]
    rw [Shape.agree, ← hs.length_eq, ← ht.length_eq, if_neg (not_not.2 hr)]
    cases hag : Shape.agreeFrom 0 as bs with
    | ok => rfl
    | error r =>
      obtain ⟨i, a, b, hi, -⟩ := Shape.agreeFrom_eq_error_iff.1 hag
      exact absurd hi (h i a b)

/-- The outcome that is returned is one that the rules allow. -/
theorem compares_fits (source target : Spec) (sourceNode? targetNode? : Option Context) :
    source.Compares target sourceNode? targetNode?
      (source.fits target sourceNode? targetNode?) := by
  by_cases hd : source.dtype.Fits target.dtype
  case neg => exact fits_of_not_fits hd ▸ .dtype hd
  cases hs : source.shape.operands sourceNode? with
  | error e => exact fits_of_source_error hd hs ▸ .sourceShape hd (Shape.operands_eq_error_iff.1 hs)
  | ok as =>
    have has := Shape.operands_eq_ok_iff.1 hs
    cases ht : target.shape.operands targetNode? with
    | error e =>
      exact fits_of_target_error hd hs ht ▸ .targetShape hd has (Shape.operands_eq_error_iff.1 ht)
    | ok bs =>
      have hbs := Shape.operands_eq_ok_iff.1 ht
      rw [fits_of_operands hd hs ht, Shape.agree, ← has.length_eq, ← hbs.length_eq]
      split
      · exact .rank hd has hbs ‹_›
      · have hr := not_not.1 ‹_›
        cases hag : Shape.agreeFrom 0 as bs with
        | ok =>
          refine .compatible hd has hbs hr fun i a b hi => ?_
          have herr := Shape.agreeFrom_eq_error_iff.2 ⟨i, a, b, hi, rfl⟩
          rw [hag] at herr
          cases herr
        | error r =>
          obtain ⟨i, a, b, hi, rfl⟩ := Shape.agreeFrom_eq_error_iff.1 hag
          exact .dimension hd has hbs hr hi

theorem fits_eq_iff {r : Except Incompatibility Unit} :
    source.fits target sourceNode? targetNode? = r ↔
      source.Compares target sourceNode? targetNode? r :=
  ⟨fun h => h ▸ compares_fits source target sourceNode? targetNode?, Compares.fits_eq⟩

/-- A name is compared only on a side without a node, and there it stands in the shape. -/
theorem symbol_of_fits {index : Nat} {a b : Dim}
    (h : source.fits target sourceNode? targetNode? = .error (.dimensionMismatch index a b)) :
    (∀ name, a = .symbol name → sourceNode? = none ∧ source.shape[index]? = some a) ∧
      ∀ name, b = .symbol name → targetNode? = none ∧ target.shape[index]? = some b := by
  cases fits_eq_iff.1 h with
  | dimension _ hs ht _ hfirst =>
    obtain ⟨ha, hb⟩ := List.getElem?_zip_eq_some.1 hfirst.1
    obtain ⟨c, hc, hca⟩ := exists_getElem?_of_forall₂ hs.flip ha
    obtain ⟨d, hd, hdb⟩ := exists_getElem?_of_forall₂ ht.flip hb
    constructor
    · rintro name rfl
      obtain ⟨hnone, rfl⟩ := hca.eq_symbol
      exact ⟨hnone, hc⟩
    · rintro name rfl
      obtain ⟨hnone, rfl⟩ := hdb.eq_symbol
      exact ⟨hnone, hd⟩

/-- With a node on both sides only sizes are compared. -/
theorem exists_size_of_fits {n m : Context} {index : Nat} {a b : Dim}
    (h : source.fits target (some n) (some m) = .error (.dimensionMismatch index a b)) :
    ∃ k l, a = .size k ∧ b = .size l := by
  obtain ⟨ha, hb⟩ := symbol_of_fits h
  cases a with
  | symbol name => cases (ha name rfl).1
  | size k =>
    cases b with
    | symbol name => cases (hb name rfl).1
    | size l => exact ⟨k, l, rfl, rfl⟩

/-- All reasons but one come of the comparison with the contract that counts. -/
theorem exists_fits_of_check {input : InputSpec} {r : Incompatibility}
    (h : source.check input sourceNode? targetNode? = .error r) (hr : r ≠ .emptyVariadic) :
    ∃ target ∈ input.first?, source.fits target sourceNode? targetNode? = .error r := by
  rw [check] at h
  cases hfirst : input.first? with
  | none =>
    rw [hfirst] at h
    cases h
    exact absurd rfl hr
  | some target =>
    rw [hfirst] at h
    exact ⟨target, rfl, h⟩

/-- A check returns exactly what the rules say, for all contracts and nodes on both sides. -/
theorem check_eq_iff_checks (source : Spec) (target : InputSpec)
    (sourceNode? targetNode? : Option Context) (r : Except Incompatibility Unit) :
    source.check target sourceNode? targetNode? = r ↔
      source.Checks sourceNode? targetNode? target r := by
  match target with
  | .variadic [] =>
    constructor
    · rintro rfl
      exact .empty
    · rintro ⟨⟩
      rfl
  | .single t =>
    refine fits_eq_iff.trans ⟨.single, ?_⟩
    rintro ⟨⟩
    assumption
  | .variadic (t :: ts) =>
    refine fits_eq_iff.trans ⟨.first, ?_⟩
    rintro ⟨⟩
    assumption

end Spec

end Dataflow
