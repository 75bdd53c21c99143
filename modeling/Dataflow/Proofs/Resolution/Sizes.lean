import Dataflow.CommandLine.Run
import Dataflow.Proofs.Notation.Printing
import Dataflow.Proofs.Resolution

/-! The sizes that a shape resolves to. A size that stands in the shape is checked, one that comes
from an attribute is taken as it is. The sizes resolve to themselves once more exactly if none of
them lies below the open one. -/
namespace Dataflow

/-! ### One dimension -/

namespace Dim

/-- What a dimension resolves to on a side that has this node, or none. -/
inductive ResolvesTo : Option Context → Dim → Int64 → Prop
  | size {node? : Option Context} {n : Int64} (h : -1 ≤ n) : ResolvesTo node? (.size n) n
  | named {node : Context} {name : String} {n : Int64}
      (h : node.attribute? name = some (.ofInt64 n)) : ResolvesTo (some node) (.symbol name) n

theorem resolvesTo_size_iff {node? : Option Context} {m n : Int64} :
    (size m).ResolvesTo node? n ↔ -1 ≤ m ∧ m = n := by
  constructor
  · rintro ⟨hm⟩
    exact ⟨hm, rfl⟩
  · rintro ⟨hm, rfl⟩
    exact .size hm

theorem resolvesTo_symbol_iff {node : Context} {name : String} {n : Int64} :
    (symbol name).ResolvesTo (some node) n ↔ node.attribute? name = some (.ofInt64 n) := by
  constructor
  · rintro ⟨⟩
    assumption
  · exact .named

theorem resolveDim_eq_ok_iff {node? : Option Context} {index : Nat} {d : Dim} {n : Int64} :
    resolveDim node? index d = .ok n ↔ d.ResolvesTo node? n := by
  cases d with
  | size m => rw [resolveDim_size_eq_ok_iff, resolvesTo_size_iff]
  | symbol name =>
    cases node? with
    | none =>
      constructor
      · intro h
        cases h
      · rintro ⟨⟩
    | some node => rw [resolveDim_symbol_eq_ok_iff, resolvesTo_symbol_iff]

theorem resolveDim_eq_error_iff {node : Context} {index : Nat} {d : Dim} {e : ResolveError} :
    resolveDim (some node) index d = .error e ↔ d.Fails (some node) index e := by
  rw [← operandAt_eq_error_iff]
  cases d <;> exact map_eq_error_iff.symm

theorem ResolvesTo.unique {node? : Option Context} {d : Dim} {m n : Int64}
    (hm : d.ResolvesTo node? m) (hn : d.ResolvesTo node? n) : m = n := by
  have hm : resolveDim node? 0 d = .ok m := resolveDim_eq_ok_iff.2 hm
  have hn : resolveDim node? 0 d = .ok n := resolveDim_eq_ok_iff.2 hn
  exact Except.ok.inj (hm.symm.trans hn)

theorem isValid_size_iff_eq_or_le {n : Int64} : (size n).IsValid ↔ n = -1 ∨ 0 ≤ n := by
  have hopen : (-1 : Int64).toInt = -1 := by decide
  have hzero : (0 : Int64).toInt = 0 := by decide
  rw [isValid_size_iff, Int64.le_iff_toInt_le, Int64.le_iff_toInt_le, ← Int64.toInt_inj]
  omega

end Dim

/-! ### Shapes -/

namespace Shape

theorem resolve_eq_ok_iff {shape : Shape} {node? : Option Context} {v : List Int64} :
    shape.resolve node? = .ok v ↔ List.Forall₂ (Dim.ResolvesTo node?) shape v := by
  rw [resolve, resolveFrom_eq_traverseFrom]
  exact traverseFrom_eq_ok_iff (f := resolveDim node?) (fun _ _ _ => Dim.resolveDim_eq_ok_iff) 0 _ _

/-- A shape fails to resolve as the leftmost of its dimensions that does, by the rules for one. -/
theorem resolve_eq_error_iff {shape : Shape} {node? : Option Context} {e : ResolveError}
    {r : Dim → Int64 → Prop} {q : Nat → Dim → ResolveError → Prop}
    (hr : ∀ i d n, resolveDim node? i d = .ok n ↔ r d n)
    (hq : ∀ i d e, resolveDim node? i d = .error e ↔ q i d e) : shape.resolve node? = .error e ↔
      ∃ i d, FirstAt (fun _ d => ¬ ∃ n, r d n) shape i d ∧ q i d e := by
  have hplace : (fun (i : Nat) d => ∃ e, resolveDim node? (0 + i) d = .error e) =
      fun _ d => ¬ ∃ n, r d n := by
    funext i d
    simp only [← hr i]
    cases h : resolveDim node? i d <;> simp [h]
  rw [resolve, resolveFrom_eq_traverseFrom, traverseFrom_eq_error_iff, hplace]
  simp only [Nat.zero_add, hq]

/-- Where the sizes come from: each from a dimension of the shape, and from each dimension one. -/
theorem mem_iff_of_resolve {shape : Shape} {node? : Option Context} {v : List Int64}
    (h : shape.resolve node? = .ok v) {n : Int64} :
    n ∈ v ↔ ∃ d ∈ shape, d.ResolvesTo node? n := by
  replace h := resolve_eq_ok_iff.1 h
  constructor
  · intro hn
    obtain ⟨d, hd, hdn⟩ := exists_mem_of_forall₂ (List.Forall₂.flip (R := flip _) h) hn
    exact ⟨d, hd, hdn⟩
  · rintro ⟨d, hd, hdn⟩
    obtain ⟨m, hm, hdm⟩ := exists_mem_of_forall₂ h hd
    rwa [hdn.unique hdm]

/-- The sizes are valid unless an attribute brings in one that is not. -/
theorem forall_isValid_iff_of_resolve {shape : Shape} {node? : Option Context} {v : List Int64}
    (h : shape.resolve node? = .ok v) :
    (∀ n ∈ v, (Dim.size n).IsValid) ↔ ∀ node name n, node? = some node → .symbol name ∈ shape →
      node.attribute? name = some (.ofInt64 n) → (Dim.size n).IsValid := by
  constructor
  · rintro hv node name n rfl hname hn
    exact hv n ((mem_iff_of_resolve h).2 ⟨_, hname, .named hn⟩)
  · intro hnamed n hn
    obtain ⟨d, hd, hdn⟩ := (mem_iff_of_resolve h).1 hn
    cases hdn with
    | size hn => exact hn
    | named hn => exact hnamed _ _ n rfl hd hn

/-! ### Resolving again -/

/-- The shape that consists of these sizes. -/
def ofSizes (v : List Int64) : Shape := v.map .size

theorem forall₂_eq_size_iff {shape : Shape} {v : List Int64} :
    List.Forall₂ (fun d n => d = .size n) shape v ↔ shape = ofSizes v := by
  rw [← List.forall₂_map_right_iff (f := Dim.size), List.forall₂_eq_eq_eq, ofSizes]

theorem resolve_ofSizes_eq_ok_iff {v w : List Int64} {node? : Option Context} :
    (ofSizes v).resolve node? = .ok w ↔ w = v ∧ ∀ n ∈ v, (Dim.size n).IsValid := by
  rw [resolve_eq_ok_iff, ofSizes, List.forall₂_map_left_iff]
  simp only [Dim.resolvesTo_size_iff, Dim.isValid_size_iff]
  induction v generalizing w with
  | nil => simp
  | cons n v ih =>
    rw [List.forall₂_cons_left_iff]
    simp only [ih, List.forall_mem_cons]
    constructor
    · rintro ⟨_, _, ⟨hn, rfl⟩, ⟨rfl, hv⟩, rfl⟩
      exact ⟨rfl, hn, hv⟩
    · rintro ⟨rfl, hn, hv⟩
      exact ⟨n, v, ⟨hn, rfl⟩, ⟨rfl, hv⟩, rfl⟩

theorem resolve_ofSizes_eq_error_iff {v : List Int64} {node? : Option Context} {e : ResolveError} :
    (ofSizes v).resolve node? = .error e ↔
      ∃ i n, FirstAt (fun _ n => ¬ (Dim.size n).IsValid) v i n ∧ e = .invalidDescriptor i n := by
  have hplace : (fun (i : Nat) n => ∃ e, resolveDim node? (0 + i) (.size n) = .error e) =
      fun _ n => ¬ (Dim.size n).IsValid := by
    funext i n
    simp [Dim.resolveDim_size_eq_error_iff, Dim.isValid_size_iff, Int64.not_le]
  rw [resolve, resolveFrom_eq_traverseFrom, traverseFrom_eq_error_iff, ofSizes]
  simp only [FirstAt.map_iff, hplace]
  constructor
  · rintro ⟨i, _, ⟨n, rfl, hn⟩, he⟩
    rw [Nat.zero_add, Dim.resolveDim_size_eq_error_iff] at he
    exact ⟨i, n, hn, he.2⟩
  · rintro ⟨i, n, hn, rfl⟩
    refine ⟨i, _, ⟨n, rfl, hn⟩, ?_⟩
    rw [Nat.zero_add, Dim.resolveDim_size_eq_error_iff]
    exact ⟨Int64.not_le.1 hn.2.1, rfl⟩

/-! ### Printed sizes -/

theorem display_ofSizes (v : List Int64) :
    (ofSizes v).display = bracketed (v.map (decimalText ·.toInt)) := by
  rw [display, ofSizes, List.map_map]
  rfl

/-- The text of sizes is read as the shape that consists of them. -/
theorem readShape_display_ofSizes (v : List Int64) :
    Notation.readShape (ofSizes v).display = .ok (ofSizes v) := by
  have hwritable : (ofSizes v).IsWritable := by
    intro name hname
    obtain ⟨n, -, hn⟩ := List.mem_map.1 hname
    cases hn
  exact Notation.readShape_eq_ok_iff.2 (Notation.reads_display hwritable)

end Shape

namespace CommandLine

/-- The text of sizes, given as a shape without a node, comes to the same as resolving the sizes. -/
theorem runResolve_display_ofSizes (format : Format) (v : List Int64) :
    runResolve format (Shape.ofSizes v).display none =
      reportResolution format ((Shape.ofSizes v).resolve none) := by
  rw [runResolve, Shape.readShape_display_ofSizes]
  rfl

theorem runResolve_display_ofSizes_eq_iff {format : Format} {v : List Int64} :
    runResolve format (Shape.ofSizes v).display none = reportResolution format (.ok v) ↔
      ∀ n ∈ v, (Dim.size n).IsValid := by
  rw [runResolve_display_ofSizes]
  constructor
  · intro h
    have hexit := congrArg Outcome.exit h
    rw [exit_reportResolution, exit_reportResolution] at hexit
    cases hagain : (Shape.ofSizes v).resolve none with
    | error e =>
      rw [hagain] at hexit
      cases hexit
    | ok w => exact (Shape.resolve_ofSizes_eq_ok_iff.1 hagain).2
  · intro hv
    rw [Shape.resolve_ofSizes_eq_ok_iff.2 ⟨rfl, hv⟩]

end CommandLine

/-! ### Main statement -/

namespace Shape

/-- Sizes that a shape resolves to are valid exactly if the attributes are that it takes them from.
Exactly then they resolve to themselves, with a node or without, and the text that they are printed
as prints itself. Otherwise the first one that is not valid is the reason. -/
theorem resolve_resolved {shape : Shape} {node? : Option Context} {v : List Int64}
    (h : shape.resolve node? = .ok v) :
    ((∀ n ∈ v, n = -1 ∨ 0 ≤ n) ↔ ∀ node name n, node? = some node → .symbol name ∈ shape →
      node.attribute? name = some (.ofInt64 n) → n = -1 ∨ 0 ≤ n) ∧
    (∀ other?, (ofSizes v).resolve other? = .ok v ↔ ∀ n ∈ v, n = -1 ∨ 0 ≤ n) ∧
    (∀ other? e, (ofSizes v).resolve other? = .error e ↔
      ∃ i n, FirstAt (fun _ n => ¬ (n = -1 ∨ 0 ≤ n)) v i n ∧ e = .invalidDescriptor i n) ∧
    (CommandLine.reportResolution .text (.ok v)).stdout = (ofSizes v).display ++ "\n" ∧
    ∀ format, CommandLine.runResolve format (ofSizes v).display none =
      CommandLine.reportResolution format (.ok v) ↔ ∀ n ∈ v, n = -1 ∨ 0 ≤ n := by
  simp only [← Dim.isValid_size_iff_eq_or_le]
  refine ⟨forall_isValid_iff_of_resolve h, fun other? => ?_, fun _ _ => ?_, ?_, fun _ => ?_⟩
  · rw [resolve_ofSizes_eq_ok_iff]
    exact and_iff_right rfl
  · exact resolve_ofSizes_eq_error_iff
  · rw [display_ofSizes]
    rfl
  · exact CommandLine.runResolve_display_ofSizes_eq_iff

/-- A node with an attribute below the open size. -/
def below : Context := (Node.set {} "n" (.ofInt64 (-5))).context

theorem resolve_resolved_below : resolve [.symbol "n", .size 2] (some below) = .ok [-5, 2] ∧
    (ofSizes [-5, 2]).resolve none = .error (.invalidDescriptor 0 (-5)) := by
  have h : resolve [.symbol "n", .size 2] (some below) = .ok [-5, 2] :=
    toOption_eq_some_iff.1 (by decide +kernel)
  obtain ⟨-, -, hagain, -⟩ := resolve_resolved h
  refine ⟨h, (hagain none _).2 ⟨0, -5, ⟨rfl, by decide, fun j hj => ?_⟩, rfl⟩⟩
  omega

/-- Not all that a shape resolves to can be resolved again. -/
theorem not_resolve_resolved : ¬ ∀ (shape : Shape) (node? : Option Context) (v : List Int64),
    shape.resolve node? = .ok v →
      (∀ n ∈ v, n = -1 ∨ 0 ≤ n) ∧ ∀ other?, (ofSizes v).resolve other? = .ok v := by
  intro hall
  have h : resolve [.symbol "n"] (some below) = .ok [-5] :=
    toOption_eq_some_iff.1 (by decide +kernel)
  obtain ⟨hv, -⟩ := hall _ _ _ h
  exact absurd (hv (-5) List.mem_cons_self) (by decide)

end Shape

end Dataflow
