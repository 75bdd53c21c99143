import Dataflow.Proofs.CommandLine.Report
import Dataflow.Proofs.Compatibility
import Dataflow.Proofs.Connection.InFull
import Dataflow.Proofs.Connection.Outline
import Dataflow.Proofs.Notation.Ellipsis

/-! Variadic inputs. Of a list of contracts the first is checked as if it stood alone, wherever the
list comes from. That there are others is worth a warning, and that there is none is a reason to
refuse; notation makes lists of one contract, so that neither can happen there. -/
namespace Dataflow

/-! ### Checks -/

theorem Spec.fits_ne_emptyVariadic (source target : Spec)
    (sourceNode? targetNode? : Option Context) :
    source.fits target sourceNode? targetNode? ≠ .error .emptyVariadic := by
  intro h
  cases fits_eq_iff.1 h

namespace Connection

/-- The finding that of this many contracts only the first is checked. -/
structure IsUnchecked (d : Diagnostic) (count : Nat) : Prop where
  code : d.code? = some ⟨"W0100"⟩
  level : d.level = .warning
  message : d.message =
    "variadic target declares " ++ toString count ++ " specs; only the first is checked"

theorem isUnchecked_uncheckedSpecs_iff {m n : Nat} : IsUnchecked (uncheckedSpecs m) n ↔ m = n := by
  constructor
  · intro h
    have hmessage : "variadic target declares " ++ toString m ++
        " specs; only the first is checked" = "variadic target declares " ++ toString n ++
        " specs; only the first is checked" := h.message
    rw [String.append_left_inj, String.append_right_inj] at hmessage
    have hdigits : Nat.toDigits 10 m = Nat.toDigits 10 n := by
      simpa only [Nat.toString_eq_repr, Nat.toList_repr] using congrArg String.toList hmessage
    calc
      m = Nat.ofDigitChars 10 (Nat.toDigits 10 m) 0 := Nat.ofDigitChars_ten_toDigits.symm
      _ = Nat.ofDigitChars 10 (Nat.toDigits 10 n) 0 := by rw [hdigits]
      _ = n := Nat.ofDigitChars_ten_toDigits
  · rintro rfl
    exact ⟨rfl, rfl, rfl⟩

theorem warnings_variadic {c : Connection} {specs : List Spec} (h : c.target = .variadic specs) :
    c.warnings = if 1 < specs.length then [uncheckedSpecs specs.length] else [] := by
  rw [warnings, h]

theorem warnings_single {c : Connection} {spec : Spec} (h : c.target = .single spec) :
    c.warnings = [] := by
  rw [warnings, h]

theorem warnings_eq_nil_iff {c : Connection} :
    c.warnings = [] ↔ ∀ specs, c.target = .variadic specs → specs.length ≤ 1 := by
  cases htarget : c.target with
  | single spec => simp [warnings_single htarget]
  | variadic specs => simp [warnings_variadic htarget]

theorem exists_warnings_iff {c : Connection} {n : Nat} :
    (∃ d, c.warnings = [d] ∧ IsUnchecked d n) ↔
      ∃ specs, c.target = .variadic specs ∧ specs.length = n ∧ 1 < n := by
  constructor
  · rintro ⟨d, hd, hunchecked⟩
    cases htarget : c.target with
    | single spec =>
      rw [warnings_single htarget] at hd
      cases hd
    | variadic specs =>
      rw [warnings_variadic htarget] at hd
      split at hd
      · rename_i hmany
        cases hd
        have hn := isUnchecked_uncheckedSpecs_iff.1 hunchecked
        exact ⟨specs, rfl, hn, hn ▸ hmany⟩
      · cases hd
  · rintro ⟨specs, htarget, rfl, hmany⟩
    exact ⟨_, (warnings_variadic htarget).trans (if_pos hmany),
      isUnchecked_uncheckedSpecs_iff.2 rfl⟩

end Connection

/-! ### Documents -/

/-- The document with its target declared otherwise. -/
def Document.withTarget (d : Document) (declared : Declared InputSpec) : Document :=
  { d with target := { d.target with declared } }

theorem Document.map_check_withTarget {d : Document} {declared : Declared InputSpec} {t : Spec}
    {rest : List Spec} (hsingle : d.target.declared.read Notation.readInput = .ok (.single t))
    (hlist : declared.read Notation.readInput = .ok (.variadic (t :: rest))) :
    (d.withTarget declared).toConnection.map Connection.check =
      d.toConnection.map Connection.check := by
  simp only [toConnection, withTarget, hsingle, hlist, ok_bind]
  cases d.source.declared.read Notation.readSpec <;> rfl

theorem InputSpec.ofJson?_eq_single_iff {v : Json} {spec : Spec} :
    InputSpec.ofJson? v = some (.single spec) ↔ Spec.ofJson? v = some spec := by
  constructor
  · intro h
    exact (isGivenBy_of_ofJson? h).single spec rfl
  · intro h
    simp only [InputSpec.ofJson?, h]

theorem InputSpec.ofJson?_array_iff {items : List Json} {specs : List Spec} :
    InputSpec.ofJson? (.array items) = some (.variadic specs) ↔
      List.Forall₂ (fun v spec => Spec.ofJson? v = some spec) items specs := by
  constructor
  · intro h
    obtain ⟨_, ⟨⟩, hall⟩ := (isGivenBy_of_ofJson? h).variadic specs rfl
    exact hall
  · intro h
    have hnone : Spec.ofJson? (.array items) = none := by
      by_contra hne
      obtain ⟨spec, hspec⟩ := Option.ne_none_iff_exists'.1 hne
      obtain ⟨name, rest, heq⟩ := Spec.startsWithName_of_ofJson? hspec
      cases heq
      cases h with
      | cons hname _ => cases hname
    have hitems : (Json.array items).items? = some items := rfl
    have hspecs := mapM_eq_some_iff_forall₂.2 h
    simp only [InputSpec.ofJson?, hnone, hitems, hspecs, Option.bind_eq_bind, Option.bind_some]
    rfl

/-- A value that is no text in notation declares what it is read as. -/
theorem Declared.ofJson?_eq_given_iff {v : Json} {input : InputSpec} :
    Declared.ofJson? InputSpec.ofJson? v = some (.given input) ↔
      InputSpec.ofJson? v = some input := by
  unfold Declared.ofJson?
  split
  · exact iff_of_false nofun nofun
  · simp

/-- A list is read as the list of what its items are read as when they stand alone. -/
theorem Declared.ofJson?_array_iff {items : List Json} {specs : List Spec} :
    Declared.ofJson? InputSpec.ofJson? (.array items) = some (.given (.variadic specs)) ↔
      List.Forall₂ (fun v spec => Declared.ofJson? InputSpec.ofJson? v =
        some (.given (.single spec))) items specs := by
  simp only [ofJson?_eq_given_iff, InputSpec.ofJson?_array_iff, InputSpec.ofJson?_eq_single_iff]

/-! ### Notation -/

/-- Notation has one contract, marked as variadic or not. -/
theorem Notation.exists_eq_of_readInput {text : String} {input : InputSpec}
    (h : readInput text = .ok input) :
    ∃ spec, input = .single spec ∨ input = .variadic [spec] := by
  obtain ⟨name, shape, optional, variadic, -, rfl⟩ := readInput_eq_ok_iff.1 h
  cases variadic with
  | false => exact ⟨_, .inl rfl⟩
  | true => exact ⟨_, .inr rfl⟩

theorem Notation.readInput_of_readSpec {text : String} {spec : Spec}
    (h : readSpec text = .ok spec) : readInput text = .ok (.single spec) := by
  obtain ⟨name, shape, optional, hreads, rfl⟩ := readSpec_eq_ok_iff.1 h
  exact readInput_eq_ok_iff.2 ⟨name, shape, optional, false, hreads, rfl⟩

/-! ### Findings -/

/-- Only the empty list has its code, and no reason has that of the warning. -/
theorem Incompatibility.code_eq_iff (reason : Incompatibility) :
    (reason.code = ⟨"E0100"⟩ ↔ reason = .emptyVariadic) ∧ reason.code ≠ ⟨"W0100"⟩ := by
  cases reason <;> simp [code, Code.emptyVariadic, Code.dtypeMismatch, Code.shapeResolution,
    Code.rankMismatch, Code.dimensionMismatch]

/-- A target with one contract is neither refused nor remarked on for their number. -/
theorem Connection.code?_ne_of_mem_findings {c : Connection} {spec : Spec}
    (h : c.target = .single spec ∨ c.target = .variadic [spec]) {d : Diagnostic}
    (hd : d ∈ c.verdict.findings) : d.code? ≠ some ⟨"E0100"⟩ ∧ d.code? ≠ some ⟨"W0100"⟩ := by
  have hwarnings : c.warnings = [] := by
    obtain h | h := h
    · exact warnings_single h
    · exact (warnings_variadic h).trans (if_neg (Nat.lt_irrefl 1))
  have hcheck : c.check = c.source.fits spec (c.sourceNode?.map Node.context)
      (c.targetNode?.map Node.context) := by
    obtain h | h := h <;> rw [check, h] <;> rfl
  cases hresult : c.check with
  | ok =>
    rw [findings_verdict_of_ok hresult, hwarnings] at hd
    cases hd
  | error reason =>
    have hreason : reason ≠ .emptyVariadic := by
      rintro rfl
      exact Spec.fits_ne_emptyVariadic _ _ _ _ (hcheck.symm.trans hresult)
    rw [findings_verdict_of_error hresult, hwarnings, List.nil_append, List.mem_singleton] at hd
    subst hd
    obtain ⟨hempty, hunchecked⟩ := reason.code_eq_iff
    constructor
    · intro hcode
      exact hreason (hempty.1 (Option.some.inj hcode))
    · intro hcode
      exact hunchecked (Option.some.inj hcode)

namespace CommandLine

variable {files : Files} {source target : String} {sourceNode? targetNode? : Option Node}

/-! ### Checks in place -/

theorem outcome_ellipsis {spec : Spec} (h : Notation.readSpec target = .ok spec)
    (format : Format) :
    (Command.check (.inline source (target ++ "...") sourceNode? targetNode?)).outcome files
        format =
      (Command.check (.inline source target sourceNode? targetNode?)).outcome files format := by
  have hsingle := Notation.readInput_of_readSpec h
  have hlist := Notation.readInput_ellipsis h
  simp only [Command.outcome_check_eq, runCheck, connectionOf, hsingle, hlist]
  cases Notation.readSpec source with
  | error e => rfl
  | ok contract => cases format <;> rfl

theorem exists_target_of_gives {c : Connection}
    (h : (CheckInput.inline source target sourceNode? targetNode?).Gives files c) :
    ∃ spec, c.target = .single spec ∨ c.target = .variadic [spec] := by
  obtain ⟨d, hd, hc⟩ := h
  cases hd
  obtain ⟨contract, input, -, hinput, rfl⟩ := Document.toConnection_eq_ok_iff.1 hc
  exact Notation.exists_eq_of_readInput hinput

/-! ### Main statement -/

/-- A list of contracts is checked as its first one alone, in a document as elsewhere, and an empty
one is refused for that. A warning counts the contracts of a list if there are more than one. An
ellipsis in notation makes a list of one, which changes nothing in what comes out of a check in
place; no such check tells of an empty list or of more than one contract. -/
theorem check_variadic (files : Files) :
    (∀ (source t : Spec) (rest : List Spec) (sourceNode? targetNode? : Option Context),
      source.check (.variadic (t :: rest)) sourceNode? targetNode? =
        source.check (.single t) sourceNode? targetNode?) ∧
    (∀ (source : Spec) (sourceNode? targetNode? : Option Context),
      source.check (.variadic []) sourceNode? targetNode? = .error .emptyVariadic) ∧
    (∀ (d : Document) (declared : Declared InputSpec) (t : Spec) (rest : List Spec),
      d.target.declared.read Notation.readInput = .ok (.single t) →
      declared.read Notation.readInput = .ok (.variadic (t :: rest)) →
        (d.withTarget declared).toConnection.map Connection.check =
          d.toConnection.map Connection.check) ∧
    (∀ (d : Document) (c : Connection),
      d.target.declared.read Notation.readInput = .ok (.variadic []) → d.toConnection = .ok c →
        c.check = .error .emptyVariadic) ∧
    (∀ (items : List Json) (specs : List Spec),
      Declared.ofJson? InputSpec.ofJson? (.array items) = some (.given (.variadic specs)) ↔
        List.Forall₂ (fun v spec => Declared.ofJson? InputSpec.ofJson? v =
          some (.given (.single spec))) items specs) ∧
    (∀ (c : Connection) (n : Nat), (∃ d, c.warnings = [d] ∧ Connection.IsUnchecked d n) ↔
      ∃ specs, c.target = .variadic specs ∧ specs.length = n ∧ 1 < n) ∧
    (∀ c : Connection,
      c.warnings = [] ↔ ∀ specs, c.target = .variadic specs → specs.length ≤ 1) ∧
    (∀ (text : String) (spec : Spec), Notation.readSpec text = .ok spec →
      Notation.readInput (text ++ "...") = .ok (.variadic [spec])) ∧
    (∀ (source target : String) (sourceNode? targetNode? : Option Node) (spec : Spec)
      (format : Format), Notation.readSpec target = .ok spec →
        (Command.check (.inline source (target ++ "...") sourceNode? targetNode?)).outcome files
          format =
        (Command.check (.inline source target sourceNode? targetNode?)).outcome files format) ∧
    ∀ (source target : String) (sourceNode? targetNode? : Option Node) (c : Connection),
      (CheckInput.inline source target sourceNode? targetNode?).Gives files c →
        ∀ d ∈ c.verdict.findings, d.code? ≠ some ⟨"E0100"⟩ ∧ d.code? ≠ some ⟨"W0100"⟩ := by
  refine ⟨fun _ _ _ _ _ => rfl, fun _ _ _ => rfl,
    fun _ _ _ _ hsingle hlist => Document.map_check_withTarget hsingle hlist, ?_,
    fun _ _ => Declared.ofJson?_array_iff, fun _ _ => Connection.exists_warnings_iff,
    fun _ => Connection.warnings_eq_nil_iff, fun _ _ => Notation.readInput_ellipsis,
    fun _ _ _ _ _ format h => outcome_ellipsis h format, ?_⟩
  · intro d c hempty hc
    obtain ⟨source, input, -, hinput, rfl⟩ := Document.toConnection_eq_ok_iff.1 hc
    cases hempty.symm.trans hinput
    rfl
  · intro source target sourceNode? targetNode? c hgives d hd
    obtain ⟨spec, htarget⟩ := exists_target_of_gives hgives
    exact Connection.code?_ne_of_mem_findings htarget hd

/-- A target with blanks behind its last mark. -/
def blankTarget : String := "Tensor[n,] ? \n"

def blankSpec : Spec := { dtype := .tensor, shape := [.symbol "n"], optional := true }

def blankConnection : Connection where
  source := { dtype := .tensor, shape := [.size 3] }
  target := .variadic [blankSpec]

def singleDocument : Document := mismatchedDocument.withTarget (.written "Tensor[4]")

theorem check_variadic_blank :
    mismatchedDocument.toConnection.map Connection.check =
      singleDocument.toConnection.map Connection.check ∧
    (∃ d, mismatchedConnection.warnings = [d] ∧ Connection.IsUnchecked d 2) ∧
    Connection.check { mismatchedConnection with target := .variadic [] } =
      .error .emptyVariadic ∧
    Notation.readInput (blankTarget ++ "...") = .ok (.variadic [blankSpec]) ∧
    (Command.check (.inline "Tensor[3]" (blankTarget ++ "...") none none)).outcome mismatched
        .json =
      (Command.check (.inline "Tensor[3]" blankTarget none none)).outcome mismatched .json ∧
    ∀ d ∈ blankConnection.verdict.findings,
      d.code? ≠ some ⟨"E0100"⟩ ∧ d.code? ≠ some ⟨"W0100"⟩ := by
  obtain ⟨-, -, hdocument, hempty, -, hwarnings, -, hinput, houtcome, hfindings⟩ :=
    check_variadic mismatched
  have hsingle : singleDocument.target.declared.read Notation.readInput =
      .ok (.single { dtype := .tensor, shape := [.size 4] }) :=
    toOption_eq_some_iff.1 (by decide +kernel)
  have hnone : (mismatchedDocument.withTarget (.given (.variadic []))).toConnection =
      .ok { mismatchedConnection with target := .variadic [] } :=
    toOption_eq_some_iff.1 (by decide +kernel)
  have hspec : Notation.readSpec blankTarget = .ok blankSpec :=
    toOption_eq_some_iff.1 (by decide +kernel)
  have hgives : (CheckInput.inline "Tensor[3]" (blankTarget ++ "...") none none).Gives mismatched
      blankConnection :=
    ⟨_, .inline _ _ _ _, toOption_eq_some_iff.1 (by decide +kernel)⟩
  exact ⟨hdocument singleDocument mismatchedDocument.target.declared _ _ hsingle rfl,
    (hwarnings _ _).2 ⟨_, rfl, rfl, by decide⟩, hempty _ _ rfl hnone, hinput _ _ hspec,
    houtcome _ _ _ _ _ _ hspec, hfindings _ _ _ _ _ hgives⟩

end CommandLine

end Dataflow
