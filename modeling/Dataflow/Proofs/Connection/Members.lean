import Dataflow.Proofs.Connection.Verdict

/-! What programs find in the JSON text of a verdict: each member under its name, and there what is
said as it was, whatever characters it has. What has nothing to say is not there. -/
namespace Dataflow

/-! ### Findings -/

namespace Diagnostic

theorem lookup_optionalMember (name : String) (text? : Option String) (other : String) :
    (optionalMember name text?).lookup other =
      if other = name then text?.map Json.string else none := by
  cases text? with
  | none => simp [optionalMember]
  | some text => simp [optionalMember, lookup_cons_eq_ite]

theorem names_optionalMember_sublist (name : String) (text? : Option String) :
    ((optionalMember name text?).map Prod.fst).Sublist [name] := by
  cases text? with
  | none => exact List.nil_sublist _
  | some text => exact List.Sublist.refl _

/-- These members tell the finding. -/
structure IsToldBy (d : Diagnostic) (members : List (String × Json)) : Prop where
  /-- Each member at most once, and no others. -/
  names : (members.map Prod.fst).Sublist ["code", "level", "message", "hint"]
  code : members.lookup "code" = (d.code?.map Code.text).map .string
  level : members.lookup "level" = some (.string d.level.display)
  message : members.lookup "message" = some (.string d.message)
  hint : members.lookup "hint" = d.hint?.map .string

/-- The object tells the finding. -/
def IsTold (d : Diagnostic) (v : Json) : Prop := ∃ members, v = .object members ∧ d.IsToldBy members

theorem isTold_toJson (d : Diagnostic) : d.IsTold d.toJson := by
  refine ⟨_, rfl, ?_⟩
  constructor
  case names =>
    rw [List.map_append, List.map_append]
    exact ((names_optionalMember_sublist _ _).append (List.Sublist.refl _)).append
      (names_optionalMember_sublist _ _)
  case code => simp [List.lookup_append, lookup_optionalMember, lookup_cons_eq_ite]
  case level => simp [List.lookup_append, lookup_optionalMember]
  case message => simp [List.lookup_append, lookup_optionalMember, lookup_cons_eq_ite]
  case hint => simp [List.lookup_append, lookup_optionalMember, lookup_cons_eq_ite]

end Diagnostic

/-! ### Verdicts -/

/-- Each kind of reason has its own code. -/
inductive Incompatibility.HasCode : Incompatibility → String → Prop
  | emptyVariadic : HasCode .emptyVariadic "E0100"
  | dtypeMismatch (actual expected : Dtype) : HasCode (.dtypeMismatch actual expected) "E0101"
  | resolution (e : ResolveError) : HasCode (.resolution e) "E0102"
  | rankMismatch (actual expected : Nat) : HasCode (.rankMismatch actual expected) "E0103"
  | dimensionMismatch (index : Nat) (actual expected : Dim) :
      HasCode (.dimensionMismatch index actual expected) "E0104"

theorem Incompatibility.hasCode_code (reason : Incompatibility) :
    reason.HasCode reason.code.text := by
  cases reason <;> constructor

namespace Verdict

/-- These members tell how a check has come out, with these warnings. -/
structure IsToldBy (result : Except Incompatibility Unit) (warnings : List Diagnostic)
    (members : List (String × Json)) : Prop where
  /-- Each member at most once, and no others. -/
  names : (members.map Prod.fst).Sublist ["compatible", "message", "code", "hint", "warnings"]
  compatible : members.lookup "compatible" = some (.bool result.toBool)
  ok : result = .ok () → members.lookup "message" = some (.string "") ∧
    members.lookup "code" = none ∧ members.lookup "hint" = none
  error : ∀ reason, result = .error reason →
    members.lookup "message" = some (.string reason.message) ∧
      (∃ code, reason.HasCode code ∧ members.lookup "code" = some (.string code)) ∧
      members.lookup "hint" = reason.diagnostic.hint?.map .string
  noWarnings : warnings = [] → members.lookup "warnings" = none
  warnings : warnings ≠ [] → ∃ items, members.lookup "warnings" = some (.array items) ∧
    List.Forall₂ Diagnostic.IsTold warnings items

theorem lookup_warningsMember (warnings : List Diagnostic) (name : String) :
    (warningsMember warnings).lookup name = if name = "warnings" ∧ warnings ≠ [] then
      some (.array (warnings.map Diagnostic.toJson)) else none := by
  unfold warningsMember
  cases warnings with
  | nil => simp
  | cons d warnings => simp [lookup_cons_eq_ite]

theorem names_warningsMember_sublist (warnings : List Diagnostic) :
    ((warningsMember warnings).map Prod.fst).Sublist ["warnings"] := by
  cases warnings with
  | nil => exact List.nil_sublist _
  | cons d warnings => exact List.Sublist.refl _

theorem isTold_map_toJson (warnings : List Diagnostic) :
    List.Forall₂ Diagnostic.IsTold warnings (warnings.map Diagnostic.toJson) := by
  rw [List.forall₂_map_right_iff, List.forall₂_same]
  exact fun d _ => d.isTold_toJson

/-- The members of a verdict by their names. -/
theorem exists_members (v : Verdict) : ∃ members, v.toJson = .object members ∧
    (members.map Prod.fst).Sublist ["compatible", "message", "code", "hint", "warnings"] ∧
    members.lookup "compatible" = some (.bool v.compatible) ∧
    members.lookup "message" = some (.string v.message) ∧
    members.lookup "code" = (v.code?.map Code.text).map .string ∧
    members.lookup "hint" = v.hint?.map .string ∧
    members.lookup "warnings" = if v.warnings = [] then none else
      some (.array (v.warnings.map Diagnostic.toJson)) := by
  refine ⟨_, v.toJson_eq, ?_, ?_, ?_, ?_, ?_, ?_⟩
  · rw [List.map_cons, List.map_cons, List.map_append, List.map_append]
    exact (((Diagnostic.names_optionalMember_sublist _ _).append
      ((Diagnostic.names_optionalMember_sublist _ _).append
        (names_warningsMember_sublist _))).cons_cons _).cons_cons _
  all_goals
    simp [List.lookup_append, Diagnostic.lookup_optionalMember, lookup_warningsMember,
      lookup_cons_eq_ite]

theorem exists_isToldBy (result : Except Incompatibility Unit) (warnings : List Diagnostic) :
    ∃ members, ((ofResult result).withWarnings warnings).toJson = .object members ∧
      IsToldBy result warnings members := by
  obtain ⟨members, hv, hnames, hcompatible, hmessage, hcode, hhint, hwarnings⟩ :=
    ((ofResult result).withWarnings warnings).exists_members
  refine ⟨members, hv, ?_⟩
  constructor
  case names => exact hnames
  case compatible => cases result <;> exact hcompatible
  case ok =>
    rintro rfl
    exact ⟨hmessage, hcode, hhint⟩
  case error =>
    rintro reason rfl
    exact ⟨hmessage, ⟨_, reason.hasCode_code, hcode⟩, hhint⟩
  case noWarnings =>
    rintro rfl
    exact hwarnings
  case warnings =>
    intro hne
    exact ⟨_, hwarnings.trans (if_neg hne), isTold_map_toJson warnings⟩

/-- The text of a verdict in JSON holds one value, an object that tells how the check has come out
and what is worth a remark, and nothing else. -/
theorem ofText_pretty_ofResult (result : Except Incompatibility Unit)
    (warnings : List Diagnostic) : ∃ members,
    Json.ofText ((ofResult result).withWarnings warnings).toJson.pretty = .ok (.object members) ∧
      IsToldBy result warnings members := by
  obtain ⟨members, hv, hmembers⟩ := exists_isToldBy result warnings
  have hread := Json.ofText_pretty
    (((ofResult result).withWarnings warnings).nestsWithin_toJson 124)
    ((ofResult result).withWarnings warnings).isFloatFree_toJson
  exact ⟨members, hread.trans (congrArg Except.ok hv), hmembers⟩

end Verdict

end Dataflow
