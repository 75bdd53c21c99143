import Dataflow.Proofs.Compatibility

/-! The other direction. Two contracts, each with its node, fit in one direction exactly if they fit
in the other, and the reason why they do not is the same with its two parts exchanged. The two
directions part only where neither shape resolves: each then tells what is wrong with its own
source. -/
namespace Dataflow

/-! ### Reasons -/

namespace Incompatibility

/-- The reason as the other side sees it. -/
def mirror : Incompatibility → Incompatibility
  | emptyVariadic => emptyVariadic
  | dtypeMismatch actual expected => dtypeMismatch expected actual
  | resolution error => resolution error
  | rankMismatch actual expected => rankMismatch expected actual
  | dimensionMismatch index actual expected => dimensionMismatch index expected actual

@[simp] theorem mirror_mirror (r : Incompatibility) : r.mirror.mirror = r := by cases r <;> rfl

theorem mapError_mirror_eq_error_iff {x : Except Incompatibility Unit} {r : Incompatibility} :
    x.mapError mirror = .error r ↔ x = .error r.mirror := by
  cases x with
  | ok => simp [Except.mapError]
  | error r' =>
    simp only [Except.mapError, Except.error.injEq]
    constructor
    · intro h
      rw [← h, mirror_mirror]
    · intro h
      rw [h, mirror_mirror]

end Incompatibility

open Incompatibility (mirror mapError_mirror_eq_error_iff)

/-! ### Stages -/

theorem Dtype.fits_comm {a b : Dtype} : a.Fits b ↔ b.Fits a := by
  rw [← accepts_iff, ← accepts_iff, accepts_comm]

namespace Shape

/-- The first pair that differs is the first in both directions. -/
theorem agreeFrom_swap (index : Nat) (as bs : Shape) :
    (agreeFrom index as bs).mapError mirror = agreeFrom index bs as := by
  induction as generalizing index bs with
  | nil => cases bs <;> rfl
  | cons a as ih =>
    cases bs with
    | nil => rfl
    | cons b bs =>
      have hagrees : b.agrees a = a.agrees b := b.agrees_comm a
      rw [agreeFrom, agreeFrom, hagrees]
      split
      · exact ih (index + 1) bs
      · rfl

theorem agree_swap (as bs : Shape) : (as.agree bs).mapError mirror = bs.agree as := by
  by_cases h : as.length = bs.length
  · have hleft : as.agree bs = agreeFrom 0 as bs := by simp [agree, h]
    have hright : bs.agree as = agreeFrom 0 bs as := by simp [agree, h]
    rw [hleft, hright, agreeFrom_swap]
  · have hleft : as.agree bs = .error (.rankMismatch as.length bs.length) := by simp [agree, h]
    have hright : bs.agree as = .error (.rankMismatch bs.length as.length) := by
      simp [agree, Ne.symm h]
    rw [hleft, hright]
    rfl

/-- A shape that can be compared does not fail. -/
theorem Stands.not_fails {shape as : Shape} {node? : Option Context} {e : ResolveError}
    (h : shape.Stands node? as) : ¬ shape.Fails node? e := by
  intro hfails
  have hok := operands_eq_ok_iff.2 h
  rw [operands_eq_error_iff.2 hfails] at hok
  cases hok

end Shape

/-! ### Contracts -/

namespace Spec

variable {s t : Spec} {n? m? : Option Context}

/-- The directions mirror each other, or each tells the fault of its own source. -/
theorem fits_swap (s t : Spec) (n? m? : Option Context) :
    (s.fits t n? m?).mapError mirror = t.fits s m? n? ∨
      ∃ e e', s.shape.Fails n? e ∧ t.shape.Fails m? e' ∧
        s.fits t n? m? = .error (.resolution e) ∧ t.fits s m? n? = .error (.resolution e') := by
  by_cases hd : s.dtype.Fits t.dtype
  case neg =>
    have hd' : ¬ t.dtype.Fits s.dtype := fun h => hd (Dtype.fits_comm.1 h)
    left
    rw [fits_of_not_fits hd, fits_of_not_fits hd']
    rfl
  have hd' : t.dtype.Fits s.dtype := Dtype.fits_comm.1 hd
  cases hs : s.shape.operands n? with
  | error e =>
    cases ht : t.shape.operands m? with
    | error e' =>
      right
      exact ⟨e, e', Shape.operands_eq_error_iff.1 hs, Shape.operands_eq_error_iff.1 ht,
        fits_of_source_error hd hs, fits_of_source_error hd' ht⟩
    | ok bs =>
      left
      rw [fits_of_source_error hd hs, fits_of_target_error hd' ht hs]
      rfl
  | ok as =>
    left
    cases ht : t.shape.operands m? with
    | error e' =>
      rw [fits_of_target_error hd hs ht, fits_of_source_error hd' ht]
      rfl
    | ok bs => rw [fits_of_operands hd hs ht, fits_of_operands hd' ht hs, Shape.agree_swap]

/-- Only with types that fit it comes to resolving. -/
theorem fits_of_fits_eq_resolution {e : ResolveError}
    (h : s.fits t n? m? = .error (.resolution e)) : s.dtype.Fits t.dtype := by
  by_contra hd
  rw [fits_of_not_fits hd] at h
  cases h

theorem fits_eq_ok_swap : s.fits t n? m? = .ok () ↔ t.fits s m? n? = .ok () := by
  obtain hswap | ⟨e, e', -, -, hs, ht⟩ := fits_swap s t n? m?
  · rw [← hswap, mapError_eq_ok_iff]
  · simp [hs, ht]

/-- All reasons but failed resolution are mirrored. -/
theorem fits_eq_error_swap {r : Incompatibility} (hr : ∀ e, r ≠ .resolution e)
    (hr' : ∀ e, r.mirror ≠ .resolution e) :
    s.fits t n? m? = .error r ↔ t.fits s m? n? = .error r.mirror := by
  obtain hswap | ⟨e, e', -, -, hs, ht⟩ := fits_swap s t n? m?
  · rw [← hswap, mapError_mirror_eq_error_iff, Incompatibility.mirror_mirror]
  · simp [hs, ht, Ne.symm (hr e), Ne.symm (hr' e')]

theorem exists_fits_eq_resolution_swap :
    (∃ e, s.fits t n? m? = .error (.resolution e)) ↔
      ∃ e, t.fits s m? n? = .error (.resolution e) := by
  obtain hswap | ⟨e, e', -, -, hs, ht⟩ := fits_swap s t n? m?
  · simp only [← hswap, mapError_mirror_eq_error_iff, mirror]
  · exact iff_of_true ⟨e, hs⟩ ⟨e', ht⟩

/-! ### Main statement -/

/-- A check and the check in the other direction succeed together. They fail for one kind of reason,
with what is actual in one direction expected in the other, at the same index. If just one shape
fails to resolve, both tell why. If both do, each direction tells it of its own source. -/
theorem check_swap (s t : Spec) (n? m? : Option Context) :
    (s.check (.single t) n? m? = .ok () ↔ t.check (.single s) m? n? = .ok ()) ∧
    (∀ actual expected,
      s.check (.single t) n? m? = .error (.dtypeMismatch actual expected) ↔
        t.check (.single s) m? n? = .error (.dtypeMismatch expected actual)) ∧
    (∀ actual expected,
      s.check (.single t) n? m? = .error (.rankMismatch actual expected) ↔
        t.check (.single s) m? n? = .error (.rankMismatch expected actual)) ∧
    (∀ index actual expected,
      s.check (.single t) n? m? = .error (.dimensionMismatch index actual expected) ↔
        t.check (.single s) m? n? = .error (.dimensionMismatch index expected actual)) ∧
    ((∃ e, s.check (.single t) n? m? = .error (.resolution e)) ↔
      ∃ e, t.check (.single s) m? n? = .error (.resolution e)) ∧
    ∀ e, s.check (.single t) n? m? = .error (.resolution e) →
      ((∃ as, s.shape.Stands n? as) ∨ (∃ bs, t.shape.Stands m? bs) →
        t.check (.single s) m? n? = .error (.resolution e)) ∧
      ∀ e₁ e₂, s.shape.Fails n? e₁ → t.shape.Fails m? e₂ →
        e = e₁ ∧ t.check (.single s) m? n? = .error (.resolution e₂) := by
  refine ⟨fits_eq_ok_swap, fun _ _ => fits_eq_error_swap nofun nofun,
    fun _ _ => fits_eq_error_swap nofun nofun, fun _ _ _ => fits_eq_error_swap nofun nofun,
    exists_fits_eq_resolution_swap, fun e h => ⟨fun hstands => ?_, fun e₁ e₂ hs ht => ?_⟩⟩
  · obtain hswap | ⟨e₁, e₂, hs, ht, -, -⟩ := fits_swap s t n? m?
    · refine hswap.symm.trans (mapError_mirror_eq_error_iff.2 ?_)
      exact h
    · obtain ⟨as, has⟩ | ⟨bs, hbs⟩ := hstands
      · exact absurd hs has.not_fails
      · exact absurd ht hbs.not_fails
  · have hd : s.dtype.Fits t.dtype := fits_of_fits_eq_resolution h
    have hsource : s.fits t n? m? = .error (.resolution e₁) :=
      fits_of_source_error hd (Shape.operands_eq_error_iff.2 hs)
    have htarget : t.fits s m? n? = .error (.resolution e₂) :=
      fits_of_source_error (Dtype.fits_comm.1 hd) (Shape.operands_eq_error_iff.2 ht)
    refine ⟨?_, htarget⟩
    have hsame : (Except.error (.resolution e) : Except Incompatibility Unit) =
        .error (.resolution e₁) := h.symm.trans hsource
    cases hsame
    rfl

/-- A tensor with this one dimension. -/
def vector (d : Dim) : Spec := { dtype := .tensor, shape := [d] }

/-- A node without attributes cannot tell the length of a vector. The check with a valid length says
so in both directions, that with an invalid one only in the direction of the vector. -/
theorem check_swap_vector :
    (vector (.symbol "n")).check (.single (vector (.size 3))) (some (Node.withId "a").context)
      none = .error (.resolution (.unresolvedSymbol "n" "a")) ∧
    (vector (.size 3)).check (.single (vector (.symbol "n"))) none
      (some (Node.withId "a").context) = .error (.resolution (.unresolvedSymbol "n" "a")) ∧
    (vector (.symbol "n")).check (.single (vector (.size (-2)))) (some (Node.withId "a").context)
      none = .error (.resolution (.unresolvedSymbol "n" "a")) ∧
    (vector (.size (-2))).check (.single (vector (.symbol "n"))) none
      (some (Node.withId "a").context) = .error (.resolution (.invalidDescriptor 0 (-2))) := by
  have hvalid : (vector (.symbol "n")).check (.single (vector (.size 3)))
      (some (Node.withId "a").context) none =
      .error (.resolution (.unresolvedSymbol "n" "a")) := by rfl
  have hinvalid : (vector (.symbol "n")).check (.single (vector (.size (-2))))
      (some (Node.withId "a").context) none =
      .error (.resolution (.unresolvedSymbol "n" "a")) := by rfl
  have hstands : (vector (.size 3)).shape.Stands none [.size 3] :=
    Shape.operands_eq_ok_iff.1 (by rfl)
  have hsource : (vector (.symbol "n")).shape.Fails (some (Node.withId "a").context)
      (.unresolvedSymbol "n" "a") := Shape.operands_eq_error_iff.1 (by rfl)
  have htarget : (vector (.size (-2))).shape.Fails none (.invalidDescriptor 0 (-2)) :=
    Shape.operands_eq_error_iff.1 (by rfl)
  obtain ⟨-, -, -, -, -, hone⟩ := check_swap (vector (.symbol "n")) (vector (.size 3))
    (some (Node.withId "a").context) none
  obtain ⟨-, -, -, -, -, hboth⟩ := check_swap (vector (.symbol "n")) (vector (.size (-2)))
    (some (Node.withId "a").context) none
  obtain ⟨-, hown⟩ := (hboth _ hinvalid).2 _ _ hsource htarget
  exact ⟨hvalid, (hone _ hvalid).1 (.inr ⟨_, hstands⟩), hinvalid, hown⟩

end Spec

end Dataflow
