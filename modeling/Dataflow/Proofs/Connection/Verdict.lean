import Dataflow.Connection
import Dataflow.Proofs.Json.Page

/-! Findings and verdicts in JSON. They are bare text but for one truth value, so that they are read
back as they are written. What is left out tells as much as what is there: no two of them are
written alike. -/
namespace Dataflow

/-! ### Findings -/

namespace Diagnostic

theorem exists_eq_of_mem_optionalMember {name : String} {text? : Option String}
    {e : String × Json} (h : e ∈ optionalMember name text?) : ∃ s, e = (name, .string s) := by
  cases text? with
  | none => exact absurd h List.not_mem_nil
  | some s => exact ⟨s, List.mem_singleton.1 h⟩

theorem name_ne_of_mem_optionalMember {name other : String} (hne : name ≠ other)
    {text? : Option String} : ∀ e ∈ optionalMember name text?, e.1 ≠ other := by
  intro e he
  obtain ⟨s, rfl⟩ := exists_eq_of_mem_optionalMember he
  exact hne

/-- Whether a member is left out can be told if none of those that follow has its name. -/
theorem optionalMember_append_inj {name : String} {a b : Option String}
    {l m : List (String × Json)} (hl : ∀ e ∈ l, e.1 ≠ name) (hm : ∀ e ∈ m, e.1 ≠ name)
    (h : optionalMember name a ++ l = optionalMember name b ++ m) : a = b ∧ l = m := by
  cases a with
  | none =>
    cases b with
    | none => exact ⟨rfl, h⟩
    | some t =>
      have hcons : l = (name, .string t) :: m := h
      exact absurd rfl (hl (name, .string t) (hcons ▸ List.mem_cons_self))
  | some s =>
    cases b with
    | none =>
      have hcons : (name, .string s) :: l = m := h
      exact absurd rfl (hm (name, .string s) (hcons ▸ List.mem_cons_self))
    | some t =>
      obtain ⟨hst, hlm⟩ := List.cons.inj h
      cases hst
      exact ⟨rfl, hlm⟩

theorem exists_string_of_mem {d : Diagnostic} {e : String × Json}
    (he : e ∈ optionalMember "code" (d.code?.map Code.text) ++
      [("level", .string d.level.display), ("message", .string d.message)] ++
      optionalMember "hint" d.hint?) : ∃ s, e.2 = .string s := by
  simp only [List.mem_append, List.mem_cons, List.not_mem_nil, or_false] at he
  obtain (he | rfl | rfl) | he := he
  · obtain ⟨s, rfl⟩ := exists_eq_of_mem_optionalMember he
    exact ⟨s, rfl⟩
  · exact ⟨_, rfl⟩
  · exact ⟨_, rfl⟩
  · obtain ⟨s, rfl⟩ := exists_eq_of_mem_optionalMember he
    exact ⟨s, rfl⟩

theorem isFloatFree_toJson (d : Diagnostic) : d.toJson.IsFloatFree := by
  refine .object fun e he => ?_
  obtain ⟨s, hs⟩ := exists_string_of_mem he
  rw [hs]
  exact .string s

theorem nestsWithin_toJson (depth : Nat) (d : Diagnostic) : d.toJson.NestsWithin (depth + 1) := by
  refine .object fun e he => ?_
  obtain ⟨s, hs⟩ := exists_string_of_mem he
  rw [hs]
  exact .string s

theorem level_display_inj {a b : Level} (h : a.display = b.display) : a = b := by
  revert h
  cases a <;> cases b <;> decide

theorem code_text_inj {a b : Option Code} (h : a.map Code.text = b.map Code.text) : a = b :=
  Option.map_injective (fun ⟨_⟩ ⟨_⟩ => congrArg Code.mk) h

theorem toJson_inj {d e : Diagnostic} (h : d.toJson = e.toJson) : d = e := by
  have hcode (level message : Json) (hint? : Option String) :
      ∀ m ∈ [("level", level), ("message", message)] ++ optionalMember "hint" hint?,
        m.1 ≠ "code" := by
    refine List.forall_mem_append.2 ⟨?_, name_ne_of_mem_optionalMember (by decide)⟩
    simp
  obtain ⟨code?, level, message, hint?⟩ := d
  obtain ⟨code?', level', message', hint?'⟩ := e
  have hmembers := Json.object.inj h
  rw [List.append_assoc, List.append_assoc] at hmembers
  obtain ⟨hcodes, hrest⟩ := optionalMember_append_inj (hcode _ _ _) (hcode _ _ _) hmembers
  obtain ⟨hlevel, hrest⟩ := List.cons.inj hrest
  obtain ⟨hmessage, hrest⟩ := List.cons.inj hrest
  rw [← List.append_nil (optionalMember _ hint?), ← List.append_nil (optionalMember _ hint?')]
    at hrest
  obtain ⟨hhint, -⟩ := optionalMember_append_inj (by simp) (by simp) hrest
  simp only [Prod.mk.injEq, true_and, Json.string.injEq] at hlevel hmessage
  rw [mk.injEq]
  exact ⟨code_text_inj hcodes, level_display_inj hlevel, hmessage, hhint⟩

end Diagnostic

/-! ### Verdicts -/

namespace Verdict

/-- The last member of a verdict, if it has any warnings. -/
def warningsMember (warnings : List Diagnostic) : List (String × Json) :=
  if warnings.isEmpty then [] else [("warnings", .array (warnings.map Diagnostic.toJson))]

theorem exists_eq_of_mem_warningsMember {warnings : List Diagnostic} {e : String × Json}
    (h : e ∈ warningsMember warnings) :
    e = ("warnings", .array (warnings.map Diagnostic.toJson)) := by
  unfold warningsMember at h
  split at h
  · exact absurd h List.not_mem_nil
  · exact List.mem_singleton.1 h

theorem warningsMember_inj {v w : List Diagnostic} (h : warningsMember v = warningsMember w) :
    v = w := by
  cases v with
  | nil =>
    cases w with
    | nil => rfl
    | cons e w => cases h
  | cons d v =>
    cases w with
    | nil => cases h
    | cons e w =>
      have hmembers := Json.array.inj (Prod.mk.inj (List.cons.inj h).1).2
      exact List.map_injective_iff.2 (fun _ _ => Diagnostic.toJson_inj) hmembers

theorem toJson_eq (v : Verdict) : v.toJson = .object
    (("compatible", .bool v.compatible) :: ("message", .string v.message) ::
      (Diagnostic.optionalMember "code" (v.code?.map Code.text) ++
        (Diagnostic.optionalMember "hint" v.hint? ++ warningsMember v.warnings))) := by
  rw [toJson, List.append_assoc, List.append_assoc]
  rfl

theorem toJson_inj {v w : Verdict} (h : v.toJson = w.toJson) : v = w := by
  have hwarnings {name : String} (hne : "warnings" ≠ name) (warnings : List Diagnostic) :
      ∀ e ∈ warningsMember warnings, e.1 ≠ name := by
    intro e he
    rw [exists_eq_of_mem_warningsMember he]
    exact hne
  have hhint (hint? : Option String) (warnings : List Diagnostic) :
      ∀ e ∈ Diagnostic.optionalMember "hint" hint? ++ warningsMember warnings, e.1 ≠ "code" :=
    List.forall_mem_append.2 ⟨Diagnostic.name_ne_of_mem_optionalMember (by decide),
      hwarnings (by decide) warnings⟩
  obtain ⟨compatible, message, code?, hint?, warnings⟩ := v
  obtain ⟨compatible', message', code?', hint?', warnings'⟩ := w
  rw [toJson_eq, toJson_eq] at h
  obtain ⟨hcompatible, hrest⟩ := List.cons.inj (Json.object.inj h)
  obtain ⟨hmessage, hrest⟩ := List.cons.inj hrest
  obtain ⟨hcode, hrest⟩ :=
    Diagnostic.optionalMember_append_inj (hhint _ _) (hhint _ _) hrest
  obtain ⟨hhint, hrest⟩ := Diagnostic.optionalMember_append_inj (hwarnings (by decide) _)
    (hwarnings (by decide) _) hrest
  simp only [Prod.mk.injEq, true_and, Json.bool.injEq, Json.string.injEq] at hcompatible hmessage
  rw [mk.injEq]
  exact ⟨hcompatible, hmessage, Diagnostic.code_text_inj hcode, hhint, warningsMember_inj hrest⟩

/-- What a verdict holds is a truth value, texts and a list of findings. -/
theorem forall_members {p : Json → Prop} (v : Verdict) (hbool : ∀ b, p (.bool b))
    (hstring : ∀ s, p (.string s))
    (hfindings : ∀ ds : List Diagnostic, p (.array (ds.map Diagnostic.toJson))) :
    ∃ members, v.toJson = .object members ∧ ∀ e ∈ members, p e.2 := by
  have hoptional (name : String) (text? : Option String) :
      ∀ e ∈ Diagnostic.optionalMember name text?, p e.2 := by
    intro e he
    obtain ⟨s, rfl⟩ := Diagnostic.exists_eq_of_mem_optionalMember he
    exact hstring s
  refine ⟨_, v.toJson_eq, ?_⟩
  refine List.forall_mem_cons.2 ⟨hbool _, List.forall_mem_cons.2 ⟨hstring _, ?_⟩⟩
  refine List.forall_mem_append.2 ⟨hoptional _ _, List.forall_mem_append.2 ⟨hoptional _ _, ?_⟩⟩
  intro e he
  rw [exists_eq_of_mem_warningsMember he]
  exact hfindings v.warnings

theorem isFloatFree_toJson (v : Verdict) : v.toJson.IsFloatFree := by
  obtain ⟨members, hv, hmembers⟩ := v.forall_members (p := Json.IsFloatFree) .bool .string
    fun ds => .array fun w hw => by
      obtain ⟨d, -, rfl⟩ := List.mem_map.1 hw
      exact d.isFloatFree_toJson
  rw [hv]
  exact .object hmembers

theorem nestsWithin_toJson (depth : Nat) (v : Verdict) : v.toJson.NestsWithin (depth + 3) := by
  obtain ⟨members, hv, hmembers⟩ := v.forall_members (p := Json.NestsWithin (depth + 2)) .bool
    .string fun ds => .array fun w hw => by
      obtain ⟨d, -, rfl⟩ := List.mem_map.1 hw
      exact d.nestsWithin_toJson depth
  rw [hv]
  exact .object hmembers

/-- A verdict is told from its text, whatever characters its messages have. -/
theorem ofText_pretty_newline_iff {v w : Verdict} :
    Json.ofText (v.toJson.pretty ++ "\n") = .ok w.toJson ↔ w = v := by
  rw [Json.ofText_pretty_newline (v.nestsWithin_toJson 124) v.isFloatFree_toJson, Except.ok.injEq]
  constructor
  · intro h
    exact (toJson_inj h).symm
  · rintro rfl
    rfl

end Verdict

end Dataflow
