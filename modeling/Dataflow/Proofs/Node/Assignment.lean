import Dataflow.Node
import Dataflow.Proofs.Json.Reader
import Dataflow.Proofs.Text.Blank

/-! Attributes given as text. The first equals sign divides the text; what stands after it is the
value that it reads as in JSON, if it does, and else a string as it stands. An attribute that is
written with its value in JSON is read back, whatever blanks stand around its two parts. -/
namespace Dataflow

open Text (isBlank IsBlank IsCore trim trim_eq_iff trim_eq_empty_iff)

/-! ### Ends of values -/

theorem not_isBlank_of_mem_decimal {n : Int} {c : Char} (h : c ∈ decimal n) : ¬ isBlank c := by
  have hdigits (hc : c ∈ Nat.toDigits 10 n.natAbs) : ¬ isBlank c := by
    have hdigit := Nat.isDigit_of_mem_toDigits (by decide) (by decide) hc
    simp only [Char.isDigit_iff_toNat, Char.reduceToNat] at hdigit
    exact Text.not_isBlank_of_visible (by omega)
  unfold decimal at h
  split at h
  · obtain rfl | hc := List.mem_cons.1 h
    · decide
    · exact hdigits hc
  · exact hdigits h

namespace Json

/-- The text of a value begins and ends with a character that is not blank. -/
theorem ends_line {v : Json} (h : v.IsFloatFree) :
    (∀ c ∈ v.line.head?, ¬ isBlank c) ∧ ∀ c ∈ v.line.getLast?, ¬ isBlank c := by
  have hbetween {first last : Char} (hfirst : ¬ isBlank first) (hlast : ¬ isBlank last)
      (cs : List Char) : (∀ c ∈ (first :: cs ++ [last]).head?, ¬ isBlank c) ∧
        ∀ c ∈ (first :: cs ++ [last]).getLast?, ¬ isBlank c := by
    rw [List.getLast?_concat]
    constructor
    · rintro _ ⟨⟩
      exact hfirst
    · rintro _ ⟨⟩
      exact hlast
  cases h with
  | null =>
    rw [line]
    exact hbetween (by decide) (by decide) ['u', 'l']
  | bool b =>
    cases b <;> rw [line]
    · exact hbetween (by decide) (by decide) ['a', 'l', 's']
    · exact hbetween (by decide) (by decide) ['r', 'u']
  | integer n =>
    rw [line, Number.text]
    exact ⟨fun c hc => not_isBlank_of_mem_decimal (List.mem_of_mem_head? hc),
      fun c hc => not_isBlank_of_mem_decimal (List.mem_of_mem_getLast? hc)⟩
  | string s =>
    rw [line, quoted]
    exact hbetween (by decide) (by decide) _
  | array =>
    rw [line]
    exact hbetween (by decide) (by decide) _
  | object =>
    rw [line]
    exact hbetween (by decide) (by decide) _

end Json

namespace Assignment

/-! ### The first equals sign -/

theorem ofText_of_noEquals {text : String} (h : '=' ∉ text.toList) :
    ofText text = .error (.noEquals text) := by
  have hnone : text.toList.dropWhile (· ≠ '=') = [] := by
    rw [List.dropWhile_eq_nil_iff]
    intro c hc
    exact decide_eq_true fun heq => h (heq ▸ hc)
  simp only [ofText, hnone]

theorem ofText_of_equals {before after : String} (h : '=' ∉ before.toList) :
    ofText (before ++ "=" ++ after) =
      if trim before = "" then .error (.noName (before ++ "=" ++ after))
      else .ok ⟨trim before, valueOf (trim after)⟩ := by
  have hchars : (before ++ "=" ++ after).toList = before.toList ++ '=' :: after.toList := by
    simp
  have hbefore : ∀ c ∈ before.toList, decide (c ≠ '=') :=
    fun c hc => decide_eq_true fun heq => h (heq ▸ hc)
  have hafter : ∀ c ∈ ('=' :: after.toList).head?, ¬ decide (c ≠ '=') := by
    rintro _ ⟨⟩
    decide
  simp only [ofText, hchars, takeWhile_append_of_head hbefore hafter,
    dropWhile_append_of_head hbefore hafter, String.ofList_toList]

theorem exists_equals {text : String} (h : '=' ∈ text.toList) :
    ∃ before after, text = before ++ "=" ++ after ∧ '=' ∉ before.toList := by
  obtain ⟨before, after, htext, hbefore⟩ := List.eq_append_cons_of_mem h
  refine ⟨String.ofList before, String.ofList after, ?_, by rwa [String.toList_ofList]⟩
  rw [← String.toList_inj, htext]
  simp

/-! ### Reading -/

/-- What comes of reading an attribute from a text. -/
inductive IsReadAs (text : String) : Except Problem Assignment → Prop
  | noEquals (h : '=' ∉ text.toList) : IsReadAs text (.error (.noEquals text))
  | noName {before after : String} (htext : text = before ++ "=" ++ after)
      (h : '=' ∉ before.toList) (hblank : IsBlank before) : IsReadAs text (.error (.noName text))
  | json {before after name written : String} {v : Value} (htext : text = before ++ "=" ++ after)
      (h : '=' ∉ before.toList) (hname : IsCore name before) (hne : name ≠ "")
      (hwritten : IsCore written after) (hv : Value.ofText written = .ok v) :
      IsReadAs text (.ok ⟨name, v⟩)
  | plain {before after name written : String} {e : Json.Error}
      (htext : text = before ++ "=" ++ after) (h : '=' ∉ before.toList)
      (hname : IsCore name before) (hne : name ≠ "") (hwritten : IsCore written after)
      (he : Value.ofText written = .error e) : IsReadAs text (.ok ⟨name, .ofString written⟩)

theorem ofText_eq_iff {text : String} {r : Except Problem Assignment} :
    ofText text = r ↔ IsReadAs text r := by
  constructor
  · rintro rfl
    by_cases h : '=' ∈ text.toList
    · obtain ⟨before, after, rfl, hbefore⟩ := exists_equals h
      rw [ofText_of_equals hbefore]
      split
      · rename_i hname
        exact .noName rfl hbefore (trim_eq_empty_iff.1 hname)
      · rename_i hname
        rw [valueOf]
        split
        · rename_i v hv
          exact .json rfl hbefore (Text.isCore_trim before) hname (Text.isCore_trim after) hv
        · rename_i e he
          exact .plain rfl hbefore (Text.isCore_trim before) hname (Text.isCore_trim after) he
    · rw [ofText_of_noEquals h]
      exact .noEquals h
  · intro hr
    cases hr with
    | noEquals h => exact ofText_of_noEquals h
    | noName htext h hblank =>
      subst htext
      rw [ofText_of_equals h, if_pos (trim_eq_empty_iff.2 hblank)]
    | json htext h hname hne hwritten hv =>
      subst htext
      rw [ofText_of_equals h, trim_eq_iff.2 hname, trim_eq_iff.2 hwritten, if_neg hne, valueOf, hv]
    | plain htext h hname hne hwritten he =>
      subst htext
      rw [ofText_of_equals h, trim_eq_iff.2 hname, trim_eq_iff.2 hwritten, if_neg hne, valueOf, he]

/-- An attribute that can be written: the name is the whole text before the sign but for blanks,
the value is one that is read back. -/
structure IsWritable (a : Assignment) : Prop where
  name_ne : a.name ≠ ""
  noEquals : '=' ∉ a.name.toList
  first : ∀ c ∈ a.name.toList.head?, ¬ isBlank c
  last : ∀ c ∈ a.name.toList.getLast?, ¬ isBlank c
  isFloatFree : a.value.json.IsFloatFree
  nestsWithin : a.value.json.NestsWithin Json.maxDepth

theorem IsWritable.ofText_value {a : Assignment} (h : a.IsWritable) :
    Value.ofText a.value.compact = .ok a.value := by
  have hends : Json.EndsNumber [] := nofun
  exact Json.readText_compact (Value.read_line h.nestsWithin h.isFloatFree hends)

/-- An attribute is read back from the text that it is written as with blanks around its parts. -/
theorem IsWritable.isReadAs {a : Assignment} (h : a.IsWritable) {w₁ w₂ w₃ w₄ : String}
    (h₁ : IsBlank w₁) (h₂ : IsBlank w₂) (h₃ : IsBlank w₃) (h₄ : IsBlank w₄) :
    IsReadAs ((w₁ ++ a.name ++ w₂) ++ "=" ++ (w₃ ++ a.value.compact ++ w₄)) (.ok a) := by
  have hblank {w : String} (hw : IsBlank w) : '=' ∉ w.toList :=
    fun hmem => absurd (hw '=' hmem) (by decide)
  have hbefore : '=' ∉ (w₁ ++ a.name ++ w₂).toList := by
    simp only [String.toList_append, List.mem_append, not_or]
    exact ⟨⟨hblank h₁, h.noEquals⟩, hblank h₂⟩
  have hname : IsCore a.name (w₁ ++ a.name ++ w₂) := ⟨h.first, h.last, w₁, w₂, rfl, h₁, h₂⟩
  have hvalue : IsCore a.value.compact (w₃ ++ a.value.compact ++ w₄) := by
    obtain ⟨hfirst, hlast⟩ := Json.ends_line h.isFloatFree
    have hchars : a.value.compact.toList = a.value.json.line := String.toList_ofList
    exact ⟨hchars ▸ hfirst, hchars ▸ hlast, w₃, w₄, rfl, h₃, h₄⟩
  exact .json rfl hbefore hname h.name_ne hvalue h.ofText_value

/-! ### Main statement -/

/-- An attribute is read back from the text that it is written as. Of all texts those are refused
that have no equals sign or nothing but blanks before it. What the others say is the text before
the sign without the blanks at its ends, and the value in JSON after it, or that text as it is. -/
theorem ofText_assignment :
    (∀ a : Assignment, a.IsWritable → ∀ w₁ w₂ w₃ w₄ : String,
      IsBlank w₁ → IsBlank w₂ → IsBlank w₃ → IsBlank w₄ →
        ofText ((w₁ ++ a.name ++ w₂) ++ "=" ++ (w₃ ++ a.value.compact ++ w₄)) = .ok a) ∧
    (∀ (text : String) (r : Except Problem Assignment), ofText text = r ↔ IsReadAs text r) ∧
    ∀ text : String, (∃ e, ofText text = .error e) ↔ '=' ∉ text.toList ∨
      ∃ before after, text = before ++ "=" ++ after ∧ '=' ∉ before.toList ∧ IsBlank before := by
  refine ⟨fun a ha w₁ w₂ w₃ w₄ h₁ h₂ h₃ h₄ => ofText_eq_iff.2 (ha.isReadAs h₁ h₂ h₃ h₄),
    fun _ _ => ofText_eq_iff, fun text => ?_⟩
  constructor
  · rintro ⟨e, he⟩
    cases ofText_eq_iff.1 he with
    | noEquals h => exact .inl h
    | noName htext h hblank => exact .inr ⟨_, _, htext, h, hblank⟩
  · rintro (h | ⟨before, after, htext, h, hblank⟩)
    · exact ⟨_, ofText_eq_iff.2 (.noEquals h)⟩
    · exact ⟨_, ofText_eq_iff.2 (.noName htext h hblank)⟩

/-- A name of two words, and an equals sign in the value. -/
def bounds : Assignment where
  name := "upper bound"
  value := ⟨.object [("n", .string " x = y "), ("of", .array [.null, .ofInt64 (-3)])], by
    simp only [Json.ofInt64, Json.canonical, Json.canonicalItems, Json.canonicalMembers]
    rfl⟩

theorem isWritable_bounds : bounds.IsWritable := by
  have hitems : ∀ v ∈ [Json.null, .ofInt64 (-3)], v.IsFloatFree ∧ v.NestsWithin 125 :=
    List.forall_mem_cons.2 ⟨⟨.null, .null⟩, List.forall_mem_singleton.2 ⟨.integer _, .number _⟩⟩
  refine ⟨by decide, by decide, ?_, ?_, .object ?_, .object ?_⟩
  · rintro _ ⟨⟩
    decide
  · rintro _ ⟨⟩
    decide
  · exact List.forall_mem_cons.2 ⟨.string _, List.forall_mem_singleton.2
      (.array fun v hv => (hitems v hv).1)⟩
  · exact List.forall_mem_cons.2 ⟨.string _, List.forall_mem_singleton.2
      (.array fun v hv => (hitems v hv).2)⟩

theorem ofText_assignment_bounds :
    ofText "\u3000upper bound\u00a0=\t\x7b\"n\":\" x = y \",\"of\":[null,-3]\x7d\n" = .ok bounds ∧
      ∃ e, ofText "\u2028 = 3" = .error e := by
  obtain ⟨hwritten, -, hrefused⟩ := ofText_assignment
  have hbounds := hwritten bounds isWritable_bounds "\u3000" "\u00a0" "\t" "\n" (by decide)
    (by decide) (by decide) (by decide)
  have htext : ("\u3000" ++ bounds.name ++ "\u00a0") ++ "=" ++
      ("\t" ++ bounds.value.compact ++ "\n") =
        "\u3000upper bound\u00a0=\t\x7b\"n\":\" x = y \",\"of\":[null,-3]\x7d\n" := by
    decide +kernel
  exact ⟨htext ▸ hbounds, (hrefused _).2 (.inr ⟨"\u2028 ", " 3", rfl, by decide, by decide⟩)⟩

end Assignment

end Dataflow
