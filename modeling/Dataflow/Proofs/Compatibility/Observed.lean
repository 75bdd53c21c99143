import Dataflow.Compatibility

/-! What a check depends on. Of an output and an input it sees their types and shapes, and of the
node on each side the label and the attributes that the shape on this side names. Two checks to
which all of this looks alike come to the same result, whatever else there is. -/
namespace Dataflow

/-! ### Nodes -/

/-- Two nodes have the same label and answer alike for every name in the shape. -/
structure Shape.SeesAlike (shape : Shape) (n m : Context) : Prop where
  label : n.label = m.label
  answers : ∀ name, .symbol name ∈ shape → n.attribute? name = m.attribute? name

namespace Shape

variable {shape : Shape} {n m : Context}

theorem SeesAlike.tail {d : Dim} (h : SeesAlike (d :: shape) n m) : shape.SeesAlike n m where
  label := h.label
  answers name hname := h.answers name (List.mem_cons_of_mem d hname)

/-- One dimension resolves alike, down to the label in the reason why it does not. -/
theorem SeesAlike.resolveDim_eq (h : shape.SeesAlike n m) {d : Dim} (hd : d ∈ shape)
    (index : Nat) : resolveDim (some n) index d = resolveDim (some m) index d := by
  cases d with
  | size k => rfl
  | symbol name =>
    have hanswer := h.answers name hd
    simp only [resolveDim, resolveSymbol, hanswer, h.label]

theorem SeesAlike.resolveFrom_eq (h : shape.SeesAlike n m) (index : Nat) :
    shape.resolveFrom (some n) index = shape.resolveFrom (some m) index := by
  induction shape generalizing index with
  | nil => rfl
  | cons d shape ih =>
    have hd := h.resolveDim_eq List.mem_cons_self index
    simp only [resolveFrom, hd, ih h.tail]

/-- A side without a node is alike only to one that has none either. -/
theorem operands_congr {n? m? : Option Context} (h : Option.Rel shape.SeesAlike n? m?) :
    shape.operands n? = shape.operands m? := by
  cases h with
  | none => rfl
  | some h => simp only [operands, resolve, h.resolveFrom_eq]

end Shape

/-! ### Contracts -/

/-- Two contracts have the same type and the same shape. -/
structure Spec.Alike (s t : Spec) : Prop where
  dtype : s.dtype = t.dtype
  shape : s.shape = t.shape

namespace Spec

variable {source source' : Spec} {n? n'? m? m'? : Option Context}

theorem fits_congr {target target' : Spec} (hsource : source.Alike source')
    (htarget : target.Alike target') (hn : Option.Rel source.shape.SeesAlike n? n'?)
    (hm : Option.Rel target.shape.SeesAlike m? m'?) :
    source.fits target n? m? = source'.fits target' n'? m'? := by
  have hs : source.shape.operands n? = source'.shape.operands n'? := by
    rw [← hsource.shape, Shape.operands_congr hn]
  have ht : target.shape.operands m? = target'.shape.operands m'? := by
    rw [← htarget.shape, Shape.operands_congr hm]
  simp only [fits, hsource.dtype, htarget.dtype, hs, ht]

/-! ### Main statement -/

/-- Checks of like contracts with like nodes have one result. It does not matter what else the
contracts say, whether the input is variadic and what follows its first contract, nor what the
nodes hold under names that are not in the shape on their side. -/
theorem check_congr {input input' : InputSpec} (hsource : source.Alike source')
    (hinput : Option.Rel Alike input.first? input'.first?)
    (hn : Option.Rel source.shape.SeesAlike n? n'?)
    (hm : ∀ target ∈ input.first?, Option.Rel target.shape.SeesAlike m? m'?) :
    source.check input n? m? = source'.check input' n'? m'? := by
  unfold check
  generalize input.first? = target? at hinput hm ⊢
  generalize input'.first? = target'? at hinput ⊢
  cases hinput with
  | none => rfl
  | some htarget => exact fits_congr hsource htarget hn (hm _ rfl)

/-- Frames of three channels. -/
def frames (description : String) (optional : Bool) : Spec :=
  { dtype := .tensor, shape := [.symbol "batch", .size 3], description, optional }

/-- A node that holds an attribute of this name besides the size of its batch. -/
def reader (name : String) : Node :=
  ((Node.withId "reader").set "batch" (.ofInt64 4)).set name (.ofString "rgb")

/-- The two checks differ in what they do not see. Both tell that the target has no batch. -/
theorem check_congr_frames :
    (frames "" false).check (.single (frames "in" false)) (some (reader "mode").context)
        (some (Node.set {} "gain" (.ofInt64 2)).context) =
      .error (.resolution (.unresolvedSymbol "batch" Context.anonymous)) ∧
    (frames "out" true).check (.variadic [frames "" true, frames "next" false])
        (some (reader "gain").context) (some (.ofSizes .empty)) =
      .error (.resolution (.unresolvedSymbol "batch" Context.anonymous)) := by
  have hsource : (frames "" false).Alike (frames "out" true) := ⟨rfl, rfl⟩
  have hnames : ∀ name, .symbol name ∈ (frames "" false).shape → name = "batch" := by
    simp [frames]
  have hreader : (frames "" false).shape.SeesAlike (reader "mode").context
      (reader "gain").context := by
    refine ⟨rfl, fun name hname => ?_⟩
    rw [hnames name hname]
    rfl
  have htarget : ∀ target ∈ (InputSpec.single (frames "in" false)).first?,
      Option.Rel target.shape.SeesAlike (some (Node.set {} "gain" (.ofInt64 2)).context)
        (some (.ofSizes .empty)) := by
    intro target ht
    cases ht
    refine .some ⟨rfl, fun name hname => ?_⟩
    rw [hnames name hname]
    rfl
  have hplain : (frames "" false).check (.single (frames "in" false)) (some (reader "mode").context)
      (some (Node.set {} "gain" (.ofInt64 2)).context) =
      .error (.resolution (.unresolvedSymbol "batch" Context.anonymous)) := by rfl
  refine ⟨hplain, Eq.trans ?_ hplain⟩
  exact (check_congr hsource (.some ⟨rfl, rfl⟩) (.some hreader) htarget).symm

end Spec

end Dataflow
