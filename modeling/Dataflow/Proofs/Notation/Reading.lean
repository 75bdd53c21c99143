import Dataflow.Proofs.Notation.Derivation
import Dataflow.Proofs.Notation.Scan
import Dataflow.Proofs.Traversal

/-! What the three ways in accept: of the texts that the grammar derives, those with the parts that
are welcome there. -/
namespace Dataflow.Notation

open Text (byteLength)

theorem toSpec_eq_ok_iff {n : Notation} {spec : Spec} :
    n.toSpec = .ok spec ↔
      ∃ name, n.dtype? = some name ∧ spec = ⟨.ofName name, n.shape, "", n.optional⟩ := by
  rw [toSpec]
  cases n.dtype? <;> simp [eq_comm]

theorem readSpec_eq_ok_iff {text : String} {spec : Spec} :
    readSpec text = .ok spec ↔
      ∃ name shape optional, Reads text ⟨some name, shape, optional, false⟩ ∧
        spec = ⟨.ofName name, shape, "", optional⟩ := by
  rw [readSpec, mapError_eq_ok_iff, specOf]
  simp only [bind_eq_ok_iff, ofText_eq_ok_iff]
  constructor
  · rintro ⟨⟨dtype?, shape, optional, variadic⟩, hn, hspec⟩
    cases variadic with
    | true => cases hspec
    | false =>
      obtain ⟨name, rfl, rfl⟩ := (toSpec_eq_ok_iff (n := ⟨dtype?, shape, optional, false⟩)).1 hspec
      exact ⟨name, shape, optional, hn, rfl⟩
  · rintro ⟨name, shape, optional, hn, rfl⟩
    exact ⟨_, hn, rfl⟩

theorem readInput_eq_ok_iff {text : String} {input : InputSpec} :
    readInput text = .ok input ↔
      ∃ name shape optional variadic, Reads text ⟨some name, shape, optional, variadic⟩ ∧
        input = if variadic then .variadic [⟨.ofName name, shape, "", optional⟩]
          else .single ⟨.ofName name, shape, "", optional⟩ := by
  rw [readInput, mapError_eq_ok_iff, inputOf]
  simp only [bind_eq_ok_iff, ofText_eq_ok_iff, toSpec_eq_ok_iff, pure_eq_ok_iff]
  constructor
  · rintro ⟨⟨dtype?, shape, optional, variadic⟩, hn, _, ⟨name, rfl, rfl⟩, rfl⟩
    exact ⟨name, shape, optional, variadic, hn, rfl⟩
  · rintro ⟨name, shape, optional, variadic, hn, rfl⟩
    exact ⟨_, hn, _, ⟨name, rfl, rfl⟩, rfl⟩

theorem readShape_eq_ok_iff {text : String} {shape : Shape} :
    readShape text = .ok shape ↔ Reads text ⟨none, shape, false, false⟩ := by
  rw [readShape, mapError_eq_ok_iff, shapeOf]
  simp only [bind_eq_ok_iff, ofText_eq_ok_iff]
  constructor
  · rintro ⟨⟨dtype?, shape', optional, variadic⟩, hn, hshape⟩
    match dtype?, optional, variadic, hshape with
    | none, false, false, rfl => exact hn
  · intro hn
    exact ⟨_, hn, rfl⟩

theorem Reads.unique {text : String} {n m : Notation} (hn : Reads text n) (hm : Reads text m) :
    n = m :=
  Except.ok.inj ((ofText_eq_ok_iff.2 hn).symm.trans (ofText_eq_ok_iff.2 hm))

/-- Each way in accepts exactly the texts of the grammar that have the parts it asks for, and
returns what they say. The names and numbers in it are those that stand in the text. -/
theorem accepts_iff_reads (text : String) :
    (∀ spec, readSpec text = .ok spec ↔
      ∃ name shape optional, Reads text ⟨some name, shape, optional, false⟩ ∧
        spec = ⟨.ofName name, shape, "", optional⟩) ∧
    (∀ input, readInput text = .ok input ↔
      ∃ name shape optional variadic, Reads text ⟨some name, shape, optional, variadic⟩ ∧
        input = if variadic then .variadic [⟨.ofName name, shape, "", optional⟩]
          else .single ⟨.ofName name, shape, "", optional⟩) ∧
    (∀ shape, readShape text = .ok shape ↔ Reads text ⟨none, shape, false, false⟩) ∧
    (∀ spec, readInput text = .ok (.single spec) ↔ readSpec text = .ok spec) ∧
    ¬ (∃ shape input, readShape text = .ok shape ∧ readInput text = .ok input) ∧
    (strays text ≠ [] → ∀ spec input shape, readSpec text ≠ .ok spec ∧ readInput text ≠ .ok input ∧
      readShape text ≠ .ok shape) ∧
    ∀ t span, (t, span) ∈ tokens text → ∃ before cs after, text.toList = before ++ cs ++ after ∧
      span = ⟨byteLength before, byteLength before + byteLength cs⟩ ∧ t.Spells cs := by
  refine ⟨fun _ => readSpec_eq_ok_iff, fun _ => readInput_eq_ok_iff, fun _ => readShape_eq_ok_iff,
    fun spec => ?_, ?_, fun hstrays spec input shape => ?_, fun _ _ => Lexeme.spells_of_mem_tokens⟩
  · rw [readInput_eq_ok_iff, readSpec_eq_ok_iff]
    constructor
    · rintro ⟨name, shape, optional, variadic, hn, hspec⟩
      cases variadic with
      | true => cases hspec
      | false => exact ⟨name, shape, optional, hn, InputSpec.single.inj hspec⟩
    · rintro ⟨name, shape, optional, hn, rfl⟩
      exact ⟨name, shape, optional, false, hn, rfl⟩
  · rintro ⟨shape, input, hshape, hinput⟩
    obtain ⟨name, shape', optional, variadic, hn, -⟩ := readInput_eq_ok_iff.1 hinput
    cases (readShape_eq_ok_iff.1 hshape).unique hn
  · refine ⟨fun h => ?_, fun h => ?_, fun h => ?_⟩
    · obtain ⟨_, _, _, hn, -⟩ := readSpec_eq_ok_iff.1 h
      exact hstrays hn.noStrays
    · obtain ⟨_, _, _, _, hn, -⟩ := readInput_eq_ok_iff.1 h
      exact hstrays hn.noStrays
    · exact hstrays (readShape_eq_ok_iff.1 h).noStrays

theorem accepts_iff_reads_stray : strays "Tensor[3; 4]" ≠ [] ∧
    readSpec "Tensor[3; 4]" ≠ .ok ⟨.tensor, [.size 3, .size 4], "", false⟩ := by
  have hstrays : strays "Tensor[3; 4]" ≠ [] := by decide +kernel
  obtain ⟨-, -, -, -, -, hnot, -⟩ := accepts_iff_reads "Tensor[3; 4]"
  exact ⟨hstrays, (hnot hstrays _ (.variadic []) []).1⟩

end Dataflow.Notation
