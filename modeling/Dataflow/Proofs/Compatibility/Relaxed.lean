import Dataflow.Diagnostic
import Dataflow.Proofs.Compatibility.Symmetry

/-! Leaving a dimension open, which is what the hint of a mismatch in size asks for. On either side
it never makes an outcome worse: a mismatch at this dimension goes away or moves on to a later one,
all others stay, and so does what fails before the dimensions are compared. The mismatches thus
come to an end after no more such repairs than there are dimensions, on whichever side each is
made. -/
namespace Dataflow

/-! ### Outcomes -/

/-- What leaving the dimension with this index open may make of an outcome. A shape that does not
resolve may do so then, and what comes of that is left open. -/
inductive Eased (i : Nat) : Except Incompatibility Unit → Except Incompatibility Unit → Prop
  | compatible : Eased i (.ok ()) (.ok ())
  | mended {a b : Dim} : Eased i (.error (.dimensionMismatch i a b)) (.ok ())
  | moved {a b a' b' : Dim} {j : Nat} (h : i < j) :
      Eased i (.error (.dimensionMismatch i a b)) (.error (.dimensionMismatch j a' b'))
  | same {r : Incompatibility} (h : ∀ a b, r ≠ .dimensionMismatch i a b) :
      Eased i (.error r) (.error r)
  | unresolved {e : ResolveError} {x : Except Incompatibility Unit} :
      Eased i (.error (.resolution e)) x

namespace Eased

variable {i : Nat} {x y : Except Incompatibility Unit}

theorem eq_ok (h : Eased i x y) (hx : x = .ok ()) : y = .ok () := by
  cases h with
  | compatible => rfl
  | mended | moved | same | unresolved => cases hx

theorem eq_ok_or_later {a b : Dim} (h : Eased i x y) (hx : x = .error (.dimensionMismatch i a b)) :
    y = .ok () ∨ ∃ j a' b', i < j ∧ y = .error (.dimensionMismatch j a' b') := by
  cases h with
  | mended => exact .inl rfl
  | moved hlt => exact .inr ⟨_, _, _, hlt, rfl⟩
  | same hne =>
    cases hx
    exact absurd rfl (hne a b)
  | compatible | unresolved => cases hx

theorem eq_self {r : Incompatibility} (h : Eased i x y) (hx : x = .error r)
    (hi : ∀ a b, r ≠ .dimensionMismatch i a b) (hr : ∀ e, r ≠ .resolution e) : y = .error r := by
  cases h with
  | same => exact hx
  | compatible => cases hx
  | mended | moved =>
    cases hx
    exact absurd rfl (hi _ _)
  | unresolved =>
    cases hx
    exact absurd rfl (hr _)

theorem elsewhere {j : Nat} {a b : Dim} (h : j ≠ i) :
    Eased i (.error (.dimensionMismatch j a b)) (.error (.dimensionMismatch j a b)) := by
  refine .same fun _ _ heq => ?_
  cases heq
  exact h rfl

/-- The same repair seen from the other side. -/
theorem mirror (h : Eased i x y) :
    Eased i (x.mapError Incompatibility.mirror) (y.mapError Incompatibility.mirror) := by
  cases h with
  | compatible => exact .compatible
  | mended => exact .mended
  | moved hlt => exact .moved hlt
  | unresolved => exact .unresolved
  | @same r hne =>
    refine .same fun a b heq => hne b a ?_
    rw [← r.mirror_mirror, heq]
    rfl

end Eased

/-! ### Comparing the dimensions -/

theorem Dim.flexible_agrees (d : Dim) : flexible.agrees d := by simp [agrees, isFlexible]

namespace Shape

theorem agreeFrom_eq_ok_or_later (index : Nat) (as bs : Shape) :
    agreeFrom index as bs = .ok () ∨
      ∃ j a b, index ≤ j ∧ agreeFrom index as bs = .error (.dimensionMismatch j a b) := by
  induction as generalizing index bs with
  | nil => exact .inl rfl
  | cons a as ih =>
    cases bs with
    | nil => exact .inl rfl
    | cons b bs =>
      rw [agreeFrom]
      split
      · obtain hok | ⟨j, c, d, hle, herr⟩ := ih (index + 1) bs
        · exact .inl hok
        · exact .inr ⟨j, c, d, by omega, herr⟩
      · exact .inr ⟨index, a, b, Nat.le_refl index, rfl⟩

/-- The comparison goes on from the open dimension as it does from two that agree. -/
theorem eased_agreeFrom (index i : Nat) (as bs : Shape) :
    Eased (index + i) (agreeFrom index as bs) (agreeFrom index (as.set i .flexible) bs) := by
  induction as generalizing index i bs with
  | nil => exact .compatible
  | cons a as ih =>
    cases bs with
    | nil =>
      cases i <;> exact .compatible
    | cons b bs =>
      cases i with
      | zero =>
        rw [List.set_cons_zero, agreeFrom, agreeFrom, if_pos b.flexible_agrees]
        obtain hok | ⟨j, c, d, hle, herr⟩ := agreeFrom_eq_ok_or_later (index + 1) as bs
        · rw [hok]
          split
          · exact .compatible
          · exact .mended
        · rw [herr]
          split
          · exact .elsewhere (by omega)
          · exact .moved (by omega)
      | succ i =>
        rw [List.set_cons_succ, agreeFrom, agreeFrom]
        split
        · have hnext : index + (i + 1) = index + 1 + i := by omega
          rw [hnext]
          exact ih (index + 1) i bs
        · exact .elsewhere (by omega)

theorem eased_agree (i : Nat) (as bs : Shape) :
    Eased i (as.agree bs) (agree (as.set i .flexible) bs) := by
  rw [agree, agree, List.length_set]
  split
  · refine .same fun _ _ heq => ?_
    cases heq
  · have heased := eased_agreeFrom 0 i as bs
    rwa [Nat.zero_add] at heased

theorem eased_agree_right (i : Nat) (as bs : Shape) :
    Eased i (as.agree bs) (as.agree (bs.set i .flexible)) := by
  rw [← agree_swap bs as, ← agree_swap (bs.set i .flexible) as]
  exact (eased_agree i bs as).mirror

/-- The other dimensions are compared as before. -/
theorem Stands.set_flexible {node? : Option Context} {shape operands : Shape}
    (h : shape.Stands node? operands) (i : Nat) :
    Stands node? (shape.set i .flexible) (operands.set i .flexible) := by
  induction h generalizing i with
  | nil => exact .nil
  | cons hd htail ih =>
    cases i with
    | zero => exact .cons (.size (by decide)) htail
    | succ i => exact .cons hd (ih i)

end Shape

/-! ### Checks -/

/-- The contract with this dimension left open. -/
def Spec.relax (s : Spec) (i : Nat) : Spec := { s with shape := s.shape.set i .flexible }

@[simp] theorem Spec.relax_rank (s : Spec) (i : Nat) : (s.relax i).rank = s.rank :=
  List.length_set

/-- The input with this dimension left open in the contract that counts. -/
def InputSpec.relax (i : Nat) : InputSpec → InputSpec
  | single t => single (t.relax i)
  | variadic (t :: ts) => variadic (t.relax i :: ts)
  | variadic [] => variadic []

namespace Spec

variable {s s' t t' : Spec} {n? m? : Option Context} {i : Nat}

/-- Two contracts that are no harder to meet in the comparison are so in the check. -/
theorem eased_fits (hs : s'.dtype = s.dtype) (ht : t'.dtype = t.dtype)
    (h : ∀ as bs, s.shape.Stands n? as → t.shape.Stands m? bs →
      ∃ as' bs', s'.shape.Stands n? as' ∧ t'.shape.Stands m? bs' ∧
        Eased i (as.agree bs) (as'.agree bs')) :
    Eased i (s.fits t n? m?) (s'.fits t' n? m?) := by
  by_cases hd : s.dtype.Fits t.dtype
  case neg =>
    have hd' : ¬ s'.dtype.Fits t'.dtype := by rwa [hs, ht]
    rw [fits_of_not_fits hd, fits_of_not_fits hd', hs, ht]
    exact .same nofun
  have hd' : s'.dtype.Fits t'.dtype := by rwa [hs, ht]
  cases has : s.shape.operands n? with
  | error e =>
    rw [fits_of_source_error hd has]
    exact .unresolved
  | ok as =>
    cases hbs : t.shape.operands m? with
    | error e =>
      rw [fits_of_target_error hd has hbs]
      exact .unresolved
    | ok bs =>
      obtain ⟨as', bs', has', hbs', heased⟩ :=
        h as bs (Shape.operands_eq_ok_iff.1 has) (Shape.operands_eq_ok_iff.1 hbs)
      rw [fits_of_operands hd has hbs, fits_of_operands hd' (Shape.operands_eq_ok_iff.2 has')
        (Shape.operands_eq_ok_iff.2 hbs')]
      exact heased

theorem eased_fits_source (s t : Spec) (n? m? : Option Context) (i : Nat) :
    Eased i (s.fits t n? m?) ((s.relax i).fits t n? m?) :=
  eased_fits rfl rfl fun as bs has hbs =>
    ⟨_, bs, has.set_flexible i, hbs, Shape.eased_agree i as bs⟩

theorem eased_fits_target (s t : Spec) (n? m? : Option Context) (i : Nat) :
    Eased i (s.fits t n? m?) (s.fits (t.relax i) n? m?) :=
  eased_fits rfl rfl fun as bs has hbs =>
    ⟨as, _, has, hbs.set_flexible i, Shape.eased_agree_right i as bs⟩

/-- Shapes are compared at indices that they have. -/
theorem lt_rank_of_fits {a b : Dim} (h : s.fits t n? m? = .error (.dimensionMismatch i a b)) :
    i < s.rank := by
  cases fits_eq_iff.1 h with
  | dimension _ hs _ _ hfirst =>
    have hlt := (List.getElem?_eq_some_iff.1 hfirst.1).1
    rw [List.length_zip, ← hs.length_eq] at hlt
    exact Nat.lt_of_lt_of_le hlt (Nat.min_le_left _ _)

end Spec

/-! ### Repairs -/

inductive Side where
  | source
  | target
deriving DecidableEq, Repr

/-- An output and the input that it is to feed. -/
abbrev Pairing := Spec × InputSpec

namespace Pairing

def check (p : Pairing) (n? m? : Option Context) : Except Incompatibility Unit :=
  p.1.check p.2 n? m?

/-- Leaves this dimension open on one of the two sides. -/
def relax (p : Pairing) (i : Nat) : Side → Pairing
  | .source => (p.1.relax i, p.2)
  | .target => (p.1, p.2.relax i)

def rank (p : Pairing) : Nat := p.1.rank

@[simp] theorem rank_relax (p : Pairing) (i : Nat) (side : Side) :
    (p.relax i side).rank = p.rank := by
  cases side with
  | source => exact p.1.relax_rank i
  | target => rfl

/-- As long as there is a mismatch, leaves its dimension open on the next of the sides. -/
def repair (n? m? : Option Context) : Pairing → List Side → Pairing
  | p, [] => p
  | p, side :: sides =>
    match p.check n? m? with
    | .error (.dimensionMismatch i _ _) => repair n? m? (p.relax i side) sides
    | _ => p

variable {p : Pairing} {n? m? : Option Context}

theorem eased_check (p : Pairing) (n? m? : Option Context) (i : Nat) (side : Side) :
    Eased i (p.check n? m?) ((p.relax i side).check n? m?) := by
  obtain ⟨s, t | _ | ⟨t, ts⟩⟩ := p
  · cases side with
    | source => exact Spec.eased_fits_source s t n? m? i
    | target => exact Spec.eased_fits_target s t n? m? i
  · -- an input without contracts has no dimension to leave open
    have hempty : (relax (s, .variadic []) i side).check n? m? = .error .emptyVariadic := by
      cases side <;> rfl
    rw [hempty]
    refine .same fun _ _ heq => ?_
    cases heq
  · cases side with
    | source => exact Spec.eased_fits_source s t n? m? i
    | target => exact Spec.eased_fits_target s t n? m? i

theorem lt_rank_of_check {i : Nat} {a b : Dim}
    (h : p.check n? m? = .error (.dimensionMismatch i a b)) : i < p.rank := by
  obtain ⟨target, -, hfits⟩ := Spec.exists_fits_of_check h nofun
  exact Spec.lt_rank_of_fits hfits

/-- The next mismatch is to come at an index from which on there are at most as many dimensions as
there are sides left. -/
theorem check_repair_of_le (sides : List Side) {p : Pairing}
    (h : p.check n? m? = .ok () ∨ ∃ i a b, p.check n? m? = .error (.dimensionMismatch i a b) ∧
      p.rank ≤ i + sides.length) : (repair n? m? p sides).check n? m? = .ok () := by
  induction sides generalizing p with
  | nil =>
    obtain hok | ⟨i, a, b, herr, hle⟩ := h
    · exact hok
    · have hlt := lt_rank_of_check herr
      simp only [List.length_nil] at hle
      omega
  | cons side sides ih =>
    obtain hok | ⟨i, a, b, herr, hle⟩ := h
    · simp only [repair, hok]
    · simp only [repair, herr]
      refine ih ?_
      obtain hok | ⟨j, c, d, hlt, hnext⟩ := (eased_check p n? m? i side).eq_ok_or_later herr
      · exact .inl hok
      · refine .inr ⟨j, c, d, hnext, ?_⟩
        rw [rank_relax]
        rw [List.length_cons] at hle
        omega

/-! ### Main statement -/

/-- With a dimension left open on either side what fits still fits. A mismatch there goes away or
moves on to a later dimension. Mismatches elsewhere, in rank and in type stay as they are. So what
fits but for its dimensions does so after as many repairs as it has dimensions, if not before, and
each may be made on either side. -/
theorem check_relaxed (p : Pairing) (n? m? : Option Context) :
    (∀ i side,
      (p.check n? m? = .ok () → (p.relax i side).check n? m? = .ok ()) ∧
      (∀ a b, p.check n? m? = .error (.dimensionMismatch i a b) →
        (p.relax i side).check n? m? = .ok () ∨ ∃ j a' b', i < j ∧
          (p.relax i side).check n? m? = .error (.dimensionMismatch j a' b')) ∧
      (∀ j a b, j ≠ i → p.check n? m? = .error (.dimensionMismatch j a b) →
        (p.relax i side).check n? m? = .error (.dimensionMismatch j a b)) ∧
      (∀ a b, p.check n? m? = .error (.rankMismatch a b) →
        (p.relax i side).check n? m? = .error (.rankMismatch a b)) ∧
      ∀ a b, p.check n? m? = .error (.dtypeMismatch a b) →
        (p.relax i side).check n? m? = .error (.dtypeMismatch a b)) ∧
    ∀ sides : List Side, p.rank ≤ sides.length →
      (p.check n? m? = .ok () ∨ ∃ i a b, p.check n? m? = .error (.dimensionMismatch i a b)) →
      (repair n? m? p sides).check n? m? = .ok () := by
  refine ⟨fun i side => ?_, fun sides hle h => ?_⟩
  · have heased := eased_check p n? m? i side
    refine ⟨heased.eq_ok, fun _ _ => heased.eq_ok_or_later, fun j a b hj h => ?_,
      fun _ _ h => heased.eq_self h nofun nofun, fun _ _ h => heased.eq_self h nofun nofun⟩
    refine heased.eq_self h (fun _ _ heq => ?_) nofun
    cases heq
    exact hj rfl
  · refine check_repair_of_le sides (h.imp_right ?_)
    rintro ⟨i, a, b, herr⟩
    exact ⟨i, a, b, herr, by omega⟩

/-- Two tensors of rank three that differ in two dimensions, one of them known by name only. -/
def volumes : Pairing :=
  ({ dtype := .tensor, shape := [.size 2, .size 3, .symbol "n"] },
    .variadic [{ dtype := .tensor, shape := [.size 4, .size 3, .size 5] }])

theorem check_relaxed_volumes :
    volumes.check none none = .error (.dimensionMismatch 0 (.size 2) (.size 4)) ∧
    (∃ j a b, 0 < j ∧
      (volumes.relax 0 .source).check none none = .error (.dimensionMismatch j a b)) ∧
    (volumes.relax 2 .target).check none none =
      .error (.dimensionMismatch 0 (.size 2) (.size 4)) ∧
    (repair none none volumes [.source, .target, .source]).check none none = .ok () := by
  obtain ⟨hstep, hrun⟩ := check_relaxed volumes none none
  have hfirst : volumes.check none none = .error (.dimensionMismatch 0 (.size 2) (.size 4)) := by
    rfl
  have hleft : (volumes.relax 0 .source).check none none ≠ .ok () := by decide
  obtain ⟨-, hat, -⟩ := hstep 0 .source
  obtain ⟨-, -, helsewhere, -⟩ := hstep 2 .target
  exact ⟨hfirst, (hat _ _ hfirst).resolve_left hleft, helsewhere 0 _ _ (by decide) hfirst,
    hrun _ (by decide) (.inr ⟨0, _, _, hfirst⟩)⟩

end Pairing

end Dataflow
