import Dataflow.Proofs.Compatibility
import Dataflow.Proofs.Resolution.Sizes

/-! Comparing by name. Without nodes the names in shapes are compared as they are. What is accepted
in this way is accepted with all nodes that give equal values to the names that both sides share.
What is refused for a reason in which no name takes part is refused with all nodes. -/
namespace Dataflow

/-! ### Dimensions -/

theorem Value.ofInt64_inj {m n : Int64} : Value.ofInt64 m = .ofInt64 n ↔ m = n := by
  rw [← toInt64?_eq_some_iff, toInt64?_eq_some_iff.2 rfl, Option.some.injEq]

namespace Dim

theorem agrees_iff {a b : Dim} : a.agrees b ↔ a = .size (-1) ∨ b = .size (-1) ∨ a = b := by
  simp only [agrees, Bool.or_eq_true, isFlexible_iff, decide_eq_true_eq, or_assoc]

theorem stands_none_iff {d d' : Dim} : d.Stands none d' ↔ d.IsValid ∧ d = d' := by
  constructor
  · rintro (hn | _)
    · exact ⟨hn, rfl⟩
    · exact ⟨trivial, rfl⟩
  · rintro ⟨hd, rfl⟩
    cases d with
    | size n => exact .size hd
    | symbol name => exact .name

theorem stands_size_iff {node? : Option Context} {n : Int64} {d : Dim} :
    (size n).Stands node? d ↔ -1 ≤ n ∧ d = .size n := by
  constructor
  · rintro ⟨hn⟩
    exact ⟨hn, rfl⟩
  · rintro ⟨hn, rfl⟩
    exact .size hn

theorem stands_symbol_iff {node : Context} {name : String} {d : Dim} :
    (symbol name).Stands (some node) d ↔
      ∃ n, node.attribute? name = some (.ofInt64 n) ∧ d = .size n := by
  constructor
  · rintro ⟨⟩
    exact ⟨_, ‹_›, rfl⟩
  · rintro ⟨n, hn, rfl⟩
    exact .attribute hn

theorem Stands.isValid {node? : Option Context} {d d' : Dim} (h : d.Stands node? d') :
    d.IsValid := by
  cases d with
  | size n => exact (stands_size_iff.1 h).1
  | symbol name => trivial

/-- Dimensions that agree as they are agree as sizes, if a name that both are has one value. -/
theorem Stands.agrees {n m : Context} {a b a' b' : Dim} (ha : a.Stands (some n) a')
    (hb : b.Stands (some m) b')
    (hname : ∀ name, a = .symbol name → b = .symbol name → n.attribute? name = m.attribute? name)
    (h : a.agrees b) : a'.agrees b' := by
  rw [agrees_iff] at h ⊢
  obtain rfl | rfl | rfl := h
  · exact .inl (stands_size_iff.1 ha).2
  · exact .inr (.inl (stands_size_iff.1 hb).2)
  · refine .inr (.inr ?_)
    cases a with
    | size k => rw [(stands_size_iff.1 ha).2, (stands_size_iff.1 hb).2]
    | symbol name =>
      obtain ⟨i, hi, rfl⟩ := stands_symbol_iff.1 ha
      obtain ⟨j, hj, rfl⟩ := stands_symbol_iff.1 hb
      rw [hname name rfl rfl, hj, Option.some.injEq, Value.ofInt64_inj] at hi
      rw [hi]

end Dim

/-! ### Shapes -/

namespace Shape

theorem stands_none_iff {shape as : Shape} :
    shape.Stands none as ↔ (∀ d ∈ shape, d.IsValid) ∧ shape = as := by
  have hdim : Dim.Stands none = fun d d' => d.IsValid ∧ d = d' := by
    funext d d'
    exact propext Dim.stands_none_iff
  rw [Stands, hdim, List.forall₂_and_left, List.forall₂_eq_eq_eq]

/-- With a node a shape can be compared exactly if it can be resolved. -/
theorem exists_stands_iff {shape : Shape} {node : Context} :
    (∃ as, shape.Stands (some node) as) ↔ ∃ v, shape.resolve (some node) = .ok v := by
  simp only [← operands_eq_ok_iff, operands, bind_eq_ok_iff]
  constructor
  · rintro ⟨_, v, hv, -⟩
    exact ⟨v, hv⟩
  · rintro ⟨v, hv⟩
    exact ⟨_, v, hv, rfl⟩

/-- A shape that can be compared with some node, or with none, does not fail without one. -/
theorem Stands.not_fails_none {shape as : Shape} {node? : Option Context} {e : ResolveError}
    (h : shape.Stands node? as) : ¬ shape.Fails none e := by
  rintro ⟨i, d, ⟨hd, -⟩, hfails⟩
  obtain ⟨d', -, hstands⟩ := exists_getElem?_of_forall₂ h hd
  have hvalid := hstands.isValid
  cases hfails with
  | invalid hn => exact Int64.not_le.2 hn hvalid

/-- Two shapes agree if they do so dimension for dimension. -/
def Agrees (as bs : Shape) : Prop := List.Forall₂ (fun a b => a.agrees b = true) as bs

theorem agreeFrom_eq_ok_iff {as bs : Shape} (h : as.length = bs.length) (index : Nat) :
    agreeFrom index as bs = .ok () ↔ as.Agrees bs := by
  induction as generalizing index bs with
  | nil =>
    cases bs with
    | nil => exact iff_of_true rfl .nil
    | cons b bs => cases h
  | cons a as ih =>
    cases bs with
    | nil => cases h
    | cons b bs =>
      have hrest := ih (Nat.succ.inj h) (index + 1)
      rw [Agrees] at hrest ⊢
      rw [List.forall₂_cons, agreeFrom]
      split
      · rename_i hab
        rw [hrest]
        exact (and_iff_right hab).symm
      · rename_i hab
        simp [hab]

theorem agree_eq_ok_iff {as bs : Shape} : as.agree bs = .ok () ↔ as.Agrees bs := by
  rw [agree]
  split
  · rename_i hlength
    simp only [reduceCtorEq, false_iff]
    exact fun h => hlength (List.Forall₂.length_eq h)
  · rename_i hlength
    exact agreeFrom_eq_ok_iff (not_not.1 hlength) 0

theorem Agrees.of_stands {n m : Context} {as bs as' bs' : Shape} (h : as.Agrees bs)
    (ha : as.Stands (some n) as') (hb : bs.Stands (some m) bs')
    (hname : ∀ name, .symbol name ∈ as → .symbol name ∈ bs →
      n.attribute? name = m.attribute? name) : as'.Agrees bs' := by
  rw [Agrees] at h
  induction h generalizing as' bs' with
  | nil =>
    cases ha
    cases hb
    exact .nil
  | @cons a b as bs hab _ ih =>
    cases ha with
    | cons ha has =>
      cases hb with
      | cons hb hbs =>
        refine .cons (ha.agrees hb (fun name hna hnb => ?_) hab) (ih has hbs fun name hna hnb => ?_)
        · exact hname name (hna ▸ List.mem_cons_self) (hnb ▸ List.mem_cons_self)
        · exact hname name (List.mem_cons_of_mem a hna) (List.mem_cons_of_mem b hnb)

end Shape

/-! ### Contracts -/

namespace Spec

variable {source target : Spec} {sourceNode? targetNode? : Option Context}

theorem fits_eq_ok_iff : source.fits target sourceNode? targetNode? = .ok () ↔
    source.dtype.Fits target.dtype ∧ ∃ as bs, source.shape.Stands sourceNode? as ∧
      target.shape.Stands targetNode? bs ∧ as.Agrees bs := by
  constructor
  · intro h
    cases fits_eq_iff.1 h with
    | @compatible as bs hd hs ht _ _ =>
      rw [fits_of_operands hd (Shape.operands_eq_ok_iff.2 hs) (Shape.operands_eq_ok_iff.2 ht)] at h
      exact ⟨hd, as, bs, hs, ht, Shape.agree_eq_ok_iff.1 h⟩
  · rintro ⟨hd, as, bs, hs, ht, hagrees⟩
    rw [fits_of_operands hd (Shape.operands_eq_ok_iff.2 hs) (Shape.operands_eq_ok_iff.2 ht)]
    exact Shape.agree_eq_ok_iff.2 hagrees

theorem check_eq_ok_iff {input : InputSpec} :
    source.check input sourceNode? targetNode? = .ok () ↔
      ∃ target ∈ input.first?, source.fits target sourceNode? targetNode? = .ok () := by
  rw [check]
  cases input.first? <;> simp

end Spec

/-! ### Reasons -/

/-- The reasons in which no name takes part. -/
inductive Incompatibility.IsDefinite : Incompatibility → Prop
  | emptyVariadic : IsDefinite .emptyVariadic
  | dtypeMismatch (actual expected : Dtype) : IsDefinite (.dtypeMismatch actual expected)
  | invalidDescriptor (index : Nat) (value : Int64) :
      IsDefinite (.resolution (.invalidDescriptor index value))
  | rankMismatch (actual expected : Nat) : IsDefinite (.rankMismatch actual expected)
  | dimensionMismatch (index : Nat) (m n : Int64) :
      IsDefinite (.dimensionMismatch index (.size m) (.size n))

namespace Spec

variable {source target : Spec} {sourceNode? targetNode? : Option Context}

/-- Sizes that differ where no node is known differ with any nodes. -/
theorem not_differsAt_size {as bs : Shape} (hs : source.shape.Stands sourceNode? as)
    (ht : target.shape.Stands targetNode? bs) (hagrees : as.Agrees bs) {index : Nat} {m n : Int64} :
    ¬ source.shape.DiffersAt target.shape index (.size m) (.size n) := by
  rintro ⟨hindex, hdiffers, -⟩
  obtain ⟨hm, hn⟩ := List.getElem?_zip_eq_some.1 hindex
  obtain ⟨a, ha, hma⟩ := exists_getElem?_of_forall₂ hs hm
  obtain ⟨b, hb, hnb⟩ := exists_getElem?_of_forall₂ ht hn
  obtain ⟨b', hb', hab⟩ := exists_getElem?_of_forall₂ hagrees ha
  rw [(Dim.stands_size_iff.1 hma).2] at hab
  rw [hb, Option.some.injEq] at hb'
  rw [← hb', (Dim.stands_size_iff.1 hnb).2] at hab
  exact Dim.not_agrees_iff.2 hdiffers hab

/-- What fits with some nodes is refused without nodes on account of a name at most. -/
theorem not_isDefinite_of_fits (h : source.fits target sourceNode? targetNode? = .ok ())
    {reason : Incompatibility} (hnone : source.fits target none none = .error reason) :
    ¬ reason.IsDefinite := by
  obtain ⟨hd, as, bs, hs, ht, hagrees⟩ := fits_eq_ok_iff.1 h
  intro hdefinite
  cases fits_eq_iff.1 hnone with
  | dtype hnot => exact hnot hd
  | sourceShape _ hfails => exact hs.not_fails_none hfails
  | targetShape _ _ hfails => exact ht.not_fails_none hfails
  | rank _ _ _ hrank =>
    apply hrank
    rw [List.Forall₂.length_eq hs, List.Forall₂.length_eq ht, List.Forall₂.length_eq hagrees]
  | dimension _ hs' ht' _ hdiffers =>
    cases hdefinite
    rw [← (Shape.stands_none_iff.1 hs').2, ← (Shape.stands_none_iff.1 ht').2] at hdiffers
    exact not_differsAt_size hs ht hagrees hdiffers

theorem fits_self_iff {node? : Option Context} :
    source.fits source node? node? = .ok () ↔ ∃ as, source.shape.Stands node? as := by
  rw [fits_eq_ok_iff]
  constructor
  · rintro ⟨-, as, -, hs, -, -⟩
    exact ⟨as, hs⟩
  · rintro ⟨as, hs⟩
    exact ⟨.inl rfl, as, as, hs, hs, List.forall₂_same.2 fun d _ => d.agrees_self⟩

/-! ### Main statement -/

/-- What is accepted without nodes is accepted with all nodes that resolve the shapes and give
equal values to the names in both, and what is refused without nodes for a reason in which no name
takes part is refused with all nodes. A contract without invalid sizes accepts itself, and with a
node it does so exactly if its shape resolves. -/
theorem check_without_nodes (source : Spec) (input : InputSpec) :
    (source.check input none none = .ok () → ∀ n m : Context,
      (∀ target ∈ input.first?, ∀ name, .symbol name ∈ source.shape →
        .symbol name ∈ target.shape → n.attribute? name = m.attribute? name) →
      (∃ v, source.shape.resolve (some n) = .ok v) →
      (∀ target ∈ input.first?, ∃ v, target.shape.resolve (some m) = .ok v) →
      source.check input (some n) (some m) = .ok ()) ∧
    (∀ reason, source.check input none none = .error reason → reason.IsDefinite →
      ∀ sourceNode? targetNode?, ∃ reason',
        source.check input sourceNode? targetNode? = .error reason') ∧
    ((∀ n, .size n ∈ source.shape → -1 ≤ n) → source.check (.single source) none none = .ok ()) ∧
    ∀ n, source.check (.single source) (some n) (some n) = .ok () ↔
      ∃ v, source.shape.resolve (some n) = .ok v := by
  refine ⟨fun h n m hname hs ht => ?_, fun reason h hdefinite sourceNode? targetNode? => ?_,
    fun hvalid => ?_, fun n => ?_⟩
  · obtain ⟨target, htarget, h⟩ := check_eq_ok_iff.1 h
    obtain ⟨hd, as, bs, has, hbs, hagrees⟩ := fits_eq_ok_iff.1 h
    obtain ⟨-, rfl⟩ := Shape.stands_none_iff.1 has
    obtain ⟨-, rfl⟩ := Shape.stands_none_iff.1 hbs
    obtain ⟨as', has'⟩ := Shape.exists_stands_iff.2 hs
    obtain ⟨bs', hbs'⟩ := Shape.exists_stands_iff.2 (ht target htarget)
    have hagrees' := hagrees.of_stands has' hbs' (hname target htarget)
    exact check_eq_ok_iff.2 ⟨target, htarget, fits_eq_ok_iff.2 ⟨hd, as', bs', has', hbs', hagrees'⟩⟩
  · cases hnodes : source.check input sourceNode? targetNode? with
    | error reason' => exact ⟨reason', rfl⟩
    | ok =>
      obtain ⟨target, htarget, hfits⟩ := check_eq_ok_iff.1 hnodes
      rw [Option.mem_def] at htarget
      simp only [check, htarget] at h
      exact absurd hdefinite (not_isDefinite_of_fits hfits h)
  · refine fits_self_iff.2 ⟨source.shape, Shape.stands_none_iff.2 ⟨fun d hd => ?_, rfl⟩⟩
    cases d with
    | size n => exact hvalid n hd
    | symbol name => trivial
  · exact fits_self_iff.trans Shape.exists_stands_iff

/-- A batch of rows of three, and rows of any length. -/
def rows (n : Int64) : Spec := { dtype := .tensor, shape := [.symbol "batch", .size n] }

/-- A node whose attribute is the size of a batch. -/
def batched (id : String) : Context := ((Node.withId id).set "batch" (.ofInt64 4)).context

theorem check_without_nodes_rows :
    (rows 3).check (.variadic [rows (-1), rows 2]) none none = .ok () ∧
    (rows 3).check (.variadic [rows (-1), rows 2]) (some (batched "a")) (some (batched "b")) =
      .ok () ∧
    (rows 3).check (.single (rows 2)) none none =
      .error (.dimensionMismatch 1 (.size 3) (.size 2)) ∧
    (∃ reason, (rows 3).check (.single (rows 2)) (some (batched "a")) none = .error reason) ∧
    (rows 3).check (.single (rows 3)) none none = .ok () := by
  have hnone : (rows 3).check (.variadic [rows (-1), rows 2]) none none = .ok () := by rfl
  have hsizes : (rows 3).check (.single (rows 2)) none none =
      .error (.dimensionMismatch 1 (.size 3) (.size 2)) := by rfl
  obtain ⟨hnodes, -, hself, -⟩ := check_without_nodes (rows 3) (.variadic [rows (-1), rows 2])
  obtain ⟨-, hrefused, -⟩ := check_without_nodes (rows 3) (.single (rows 2))
  refine ⟨hnone, hnodes hnone _ _ ?_ ⟨[4, 3], by rfl⟩ ?_, hsizes,
    hrefused _ hsizes (.dimensionMismatch 1 3 2) _ _, hself ?_⟩
  · rintro target ⟨⟩ name hname -
    simp only [rows, List.mem_cons, Dim.symbol.injEq, reduceCtorEq, List.not_mem_nil,
      or_false] at hname
    rw [hname]
    rfl
  · rintro target ⟨⟩
    exact ⟨[4, -1], by rfl⟩
  · intro n hn
    simp only [rows, List.mem_cons, Dim.size.injEq, reduceCtorEq, List.not_mem_nil, or_false,
      false_or] at hn
    rw [hn]
    decide

end Spec

end Dataflow
