import Dataflow.Dtype
import Dataflow.Proofs.Text.Blank

/-! What a type is called is what it reads back from: blanks at the ends of a name are gone after
it has been read once, and a printed name is read as the type that it was printed for. -/
namespace Dataflow

namespace Dtype

theorem ofName_display_element (kind : ElementKind) : ofName kind.display = element kind := by
  cases kind <;> decide +kernel

/-- A name that means nothing else is the name of its own type. -/
theorem ofTrimmed_cases (s : String) :
    ofTrimmed s = tensor ∨ (∃ kind, ofTrimmed s = element kind) ∨ ofTrimmed s = other s := by
  rw [ofTrimmed]
  split
  · exact .inl rfl
  split
  · exact .inr (.inl ⟨_, rfl⟩)
  · exact .inr (.inr rfl)

theorem ofTrimmed_eq_other_iff {s name : String} :
    ofTrimmed s = other name ↔ (s ∉ tensorNames ∧ ElementKind.ofName? s = none) ∧ s = name := by
  rw [ofTrimmed]
  split
  · simp [*]
  · cases ElementKind.ofName? s <;> simp [*]

theorem ofName_display_ofName (s : String) : ofName (ofName s).display = ofName s := by
  have hs : ofName s = ofTrimmed (Text.trim s) := rfl
  obtain h | ⟨kind, h⟩ | h := ofTrimmed_cases (Text.trim s)
  · rw [hs, h]
    decide +kernel
  · rw [hs, h]
    exact ofName_display_element kind
  · rw [hs, h, display, ofName, Text.trim_trim, h]

/-! ### Stable types -/

/-- The name of another type stands for it only if it has no blanks at its ends and means nothing
else. -/
def IsStable : Dtype → Prop
  | tensor | element _ => True
  | other name =>
    ((∀ c ∈ name.toList.head?, ¬ Text.isBlank c) ∧ ∀ c ∈ name.toList.getLast?, ¬ Text.isBlank c) ∧
      name ∉ tensorNames ∧ ElementKind.ofName? name = none

/-- The stable types are those that are read back from what they are called. -/
theorem ofName_display_eq_self_iff {t : Dtype} : ofName t.display = t ↔ t.IsStable := by
  cases t with
  | tensor =>
    refine iff_of_true ?_ trivial
    decide +kernel
  | element kind => exact iff_of_true (ofName_display_element kind) trivial
  | other name =>
    rw [display, ofName, ofTrimmed_eq_other_iff, IsStable, ← Text.trim_eq_self_iff]
    constructor
    · rintro ⟨⟨hnames, hkind⟩, htrim⟩
      rw [htrim] at hnames hkind
      exact ⟨htrim, hnames, hkind⟩
    · rintro ⟨htrim, hnames, hkind⟩
      rw [htrim]
      exact ⟨⟨hnames, hkind⟩, rfl⟩

theorem isStable_ofName (s : String) : (ofName s).IsStable :=
  ofName_display_eq_self_iff.1 (ofName_display_ofName s)

end Dtype

end Dataflow
