import Dataflow.Proofs.Compatibility
import Dataflow.Proofs.Resolution.Repair
import Dataflow.Terminal

/-! Hints that ask for a node. One asks for the attributes of a node before two dimensions are
compared, and comes only if one of them is a name on a side without a node. The other asks for the
node that a name belongs to, and never comes of a check. A connection has a node on both sides, so
neither comes of it, and what it misses is missed on the node whose label it reports. -/
namespace Dataflow

/-! ### What a hint asks for -/

/-- Of the failures to resolve only that for want of a node has this second letter in its hint. -/
theorem ResolveError.eq_missingContext {e : ResolveError} (h : e.hint.toList[1]? = some 'a') :
    ∃ name, e = .missingContext name := by
  rw [getElem?_hint, Option.some.injEq] at h
  cases e with
  | missingContext name => exact ⟨name, rfl⟩
  | unresolvedSymbol | wrongAttributeType | invalidDescriptor => cases h

namespace Incompatibility

/-- The hint asks for attributes to resolve names with before they are compared. -/
def AsksForAttributes (r : Incompatibility) : Prop :=
  r.diagnostic.hint? =
    some "pass node attributes to resolve symbolic dimensions before comparing"

/-- The hint asks for the node in which to look up a name. -/
def AsksForOwner (r : Incompatibility) : Prop :=
  r.diagnostic.hint? = some "pass the owning node so symbolic dimensions can be looked up"

theorem AsksForAttributes.not_asksForOwner {r : Incompatibility} (h : r.AsksForAttributes) :
    ¬ r.AsksForOwner := by
  intro howner
  exact absurd (Option.some.inj (h.symm.trans howner)) (by simp)

theorem asksForAttributes_of_symbol {index : Nat} {a b : Dim} {name : String}
    (h : a = .symbol name ∨ b = .symbol name) :
    (dimensionMismatch index a b).AsksForAttributes := by
  obtain rfl | rfl := h
  · rfl
  · cases a <;> rfl

/-- Of all hints only those that ask for a node have this second letter. -/
theorem missingContext_or_symbol {r : Incompatibility} {s : String}
    (h : r.diagnostic.hint? = some s) (hs : s.toList[1]? = some 'a') :
    (∃ name, r = .resolution (.missingContext name)) ∨
      ∃ index a b, r = .dimensionMismatch index a b ∧ ∃ name, a = .symbol name ∨ b = .symbol name := by
  simp only [diagnostic] at h
  cases r with
  | emptyVariadic =>
    simp only [hint?, Option.some.injEq] at h
    subst h
    exact absurd hs (by decide)
  | dtypeMismatch | rankMismatch => cases h
  | resolution e =>
    simp only [hint?, Option.some.injEq] at h
    subst h
    obtain ⟨name, rfl⟩ := ResolveError.eq_missingContext hs
    exact .inl ⟨name, rfl⟩
  | dimensionMismatch index a b =>
    refine .inr ⟨index, a, b, rfl, ?_⟩
    cases a with
    | symbol name => exact ⟨name, .inl rfl⟩
    | size m =>
      cases b with
      | symbol name => exact ⟨name, .inr rfl⟩
      | size n =>
        simp only [hint?, Option.some.injEq] at h
        subst h
        exact absurd hs (by decide)

theorem asksForAttributes_iff {r : Incompatibility} : r.AsksForAttributes ↔
    ∃ index a b, r = .dimensionMismatch index a b ∧ ∃ name, a = .symbol name ∨ b = .symbol name := by
  constructor
  · intro h
    obtain ⟨name, rfl⟩ | hsymbol := missingContext_or_symbol h (by decide)
    · exact absurd rfl h.not_asksForOwner
    · exact hsymbol
  · rintro ⟨index, a, b, rfl, name, hname⟩
    exact asksForAttributes_of_symbol hname

theorem asksForOwner_iff {r : Incompatibility} :
    r.AsksForOwner ↔ ∃ name, r = .resolution (.missingContext name) := by
  constructor
  · intro h
    obtain hname | ⟨index, a, b, rfl, name, hname⟩ := missingContext_or_symbol h (by decide)
    · exact hname
    · exact absurd h (asksForAttributes_of_symbol hname).not_asksForOwner
  · rintro ⟨name, rfl⟩
    rfl

end Incompatibility

/-! ### What is missing -/

/-- The shape has this name, and the node with this label has nothing under it. -/
structure Shape.Misses (shape : Shape) (node : Context) (name label : String) : Prop where
  mem : .symbol name ∈ shape
  absent : node.attribute? name = none
  label : label = node.label

theorem Shape.Fails.misses {shape : Shape} {node? : Option Context} {name label : String}
    (h : shape.Fails node? (.unresolvedSymbol name label)) :
    ∃ node, node? = some node ∧ shape.Misses node name label := by
  obtain ⟨i, d, ⟨hd, -⟩, hfails⟩ := h
  cases hfails with
  | absent habsent => exact ⟨_, rfl, List.mem_of_getElem? hd, habsent, rfl⟩

/-- Without a node a name stays, so that none is missing for it. -/
theorem Shape.Fails.ne_missingContext {shape : Shape} {node? : Option Context} {e : ResolveError}
    (h : shape.Fails node? e) (name : String) : e ≠ .missingContext name := by
  obtain ⟨i, d, -, hfails⟩ := h
  cases hfails <;> nofun

namespace Spec

variable {source target : Spec} {input : InputSpec} {n? m? : Option Context}

theorem fails_of_fits {e : ResolveError} (h : source.fits target n? m? = .error (.resolution e)) :
    source.shape.Fails n? e ∨ target.shape.Fails m? e := by
  cases fits_eq_iff.1 h with
  | sourceShape _ hfails => exact .inl hfails
  | targetShape _ _ hfails => exact .inr hfails

theorem differs_of_fits {index : Nat} {a b : Dim}
    (h : source.fits target n? m? = .error (.dimensionMismatch index a b)) : a.Differs b := by
  cases fits_eq_iff.1 h with
  | dimension _ _ _ _ hfirst => exact hfirst.2.1

theorem symbol_of_check {index : Nat} {a b : Dim}
    (h : source.check input n? m? = .error (.dimensionMismatch index a b)) :
    (∀ name, a = .symbol name → n? = none ∧ source.shape[index]? = some a) ∧
      ∀ name, b = .symbol name → m? = none ∧
        ∃ target ∈ input.first?, target.shape[index]? = some b := by
  obtain ⟨target, htarget, hfits⟩ := exists_fits_of_check h nofun
  obtain ⟨ha, hb⟩ := symbol_of_fits hfits
  refine ⟨ha, fun name hname => ?_⟩
  obtain ⟨hnone, hmem⟩ := hb name hname
  exact ⟨hnone, target, htarget, hmem⟩

theorem not_asksForOwner_of_check {r : Incompatibility}
    (h : source.check input n? m? = .error r) : ¬ r.AsksForOwner := by
  intro hasks
  obtain ⟨name, rfl⟩ := Incompatibility.asksForOwner_iff.1 hasks
  obtain ⟨target, -, hfits⟩ := exists_fits_of_check h nofun
  obtain hfails | hfails := fails_of_fits hfits
  · exact hfails.ne_missingContext name rfl
  · exact hfails.ne_missingContext name rfl

theorem exists_size_of_check {n m : Context} {index : Nat} {a b : Dim}
    (h : source.check input (some n) (some m) = .error (.dimensionMismatch index a b)) :
    ∃ k l, a = .size k ∧ b = .size l ∧ k ≠ l ∧ k ≠ -1 ∧ l ≠ -1 := by
  obtain ⟨target, -, hfits⟩ := exists_fits_of_check h nofun
  obtain ⟨k, l, rfl, rfl⟩ := exists_size_of_fits hfits
  obtain ⟨hk, hl, hne⟩ := differs_of_fits hfits
  exact ⟨k, l, rfl, rfl, mt (congrArg Dim.size) hne, mt (congrArg Dim.size) hk,
    mt (congrArg Dim.size) hl⟩

theorem misses_of_check {n m : Context} {name label : String}
    (h : source.check input (some n) (some m) =
      .error (.resolution (.unresolvedSymbol name label))) :
    source.shape.Misses n name label ∨
      ∃ target ∈ input.first?, target.shape.Misses m name label := by
  obtain ⟨target, htarget, hfits⟩ := exists_fits_of_check h nofun
  obtain hfails | hfails := fails_of_fits hfits
  · obtain ⟨_, ⟨⟩, hmisses⟩ := hfails.misses
    exact .inl hmisses
  · obtain ⟨_, ⟨⟩, hmisses⟩ := hfails.misses
    exact .inr ⟨target, htarget, hmisses⟩

end Spec

/-! ### Connecting -/

theorem Output.connect_eq_error_iff {output : Output} {input : Input} {e : ConnectError} :
    output.connect input = .error e ↔ ∃ r, output.contract.check input.contract
        (some output.owner.node) (some input.owner.node) = .error r ∧
      e = ⟨output.display, input.display, r⟩ := by
  rw [connect, mapError_eq_error_iff]
  simp only [eq_comm]

/-! ### Main statement -/

/-- A hint that asks for attributes comes only of a mismatch over a name, and the side on which the
name stands has no node. The hint that asks for the owner of a name does not come of any check. A
connection is refused exactly for the reason for which the check with both nodes is. So neither hint
comes of it, a mismatch is one of two sizes, and an attribute that is missing is so on the node with
the label in the reason, for a name in the shape on the same side. -/
theorem Spec.asks_of_check :
    (∀ (source : Spec) (input : InputSpec) (n? m? : Option Context) (r : Incompatibility),
      source.check input n? m? = .error r →
      (r.AsksForAttributes ↔ ∃ index a b, r = .dimensionMismatch index a b ∧
        (∃ name, a = .symbol name ∨ b = .symbol name) ∧
        (∀ name, a = .symbol name → n? = none ∧ source.shape[index]? = some a) ∧
        ∀ name, b = .symbol name → m? = none ∧
          ∃ target ∈ input.first?, target.shape[index]? = some b) ∧
      ¬ r.AsksForOwner) ∧
    ∀ (output : Output) (input : Input),
      (∀ r, (∃ e, output.connect input = .error e ∧ e.reason = r) ↔
        output.contract.check input.contract (some output.owner.node) (some input.owner.node) =
          .error r) ∧
      ∀ e, output.connect input = .error e →
        ¬ e.reason.AsksForAttributes ∧ ¬ e.reason.AsksForOwner ∧
        (∀ index a b, e.reason = .dimensionMismatch index a b →
          ∃ k l, a = .size k ∧ b = .size l ∧ k ≠ l ∧ k ≠ -1 ∧ l ≠ -1) ∧
        ∀ name label, e.reason = .resolution (.unresolvedSymbol name label) →
          output.contract.shape.Misses output.owner.node name label ∨
            ∃ target ∈ input.contract.first?,
              target.shape.Misses input.owner.node name label := by
  refine ⟨fun source input n? m? r h => ⟨?_, not_asksForOwner_of_check h⟩,
    fun output input => ⟨fun r => ?_, fun e he => ?_⟩⟩
  · rw [Incompatibility.asksForAttributes_iff]
    constructor
    · rintro ⟨index, a, b, rfl, hname⟩
      obtain ⟨ha, hb⟩ := symbol_of_check h
      exact ⟨index, a, b, rfl, hname, ha, hb⟩
    · rintro ⟨index, a, b, rfl, hname, -, -⟩
      exact ⟨index, a, b, rfl, hname⟩
  · simp only [Output.connect_eq_error_iff]
    constructor
    · rintro ⟨_, ⟨r, h, rfl⟩, rfl⟩
      exact h
    · intro h
      exact ⟨_, ⟨r, h, rfl⟩, rfl⟩
  · obtain ⟨r, h, rfl⟩ := Output.connect_eq_error_iff.1 he
    refine ⟨fun hasks => ?_, not_asksForOwner_of_check h, fun index a b hr => ?_,
      fun name label hr => ?_⟩
    · -- a name would have to be left on one of the sides, and both have a node
      obtain ⟨index, a, b, rfl, name, hname⟩ := Incompatibility.asksForAttributes_iff.1 hasks
      obtain ⟨k, l, rfl, rfl, -⟩ := exists_size_of_check h
      obtain hname | hname := hname
      · cases hname
      · cases hname
    · obtain rfl : r = .dimensionMismatch index a b := hr
      exact exists_size_of_check h
    · obtain rfl : r = .resolution (.unresolvedSymbol name label) := hr
      exact misses_of_check h

/-- Images of three channels. -/
def Spec.images (height : Dim) : Spec := { dtype := .tensor, shape := [height, .size 3] }

def Output.scanner : Output :=
  ⟨⟨0, ((Node.withId "scanner").set "height" (.ofInt64 4)).context⟩, "out",
    .images (.symbol "height")⟩

/-- Names the height of its images, but its node does not know it. -/
def Input.viewer : Input :=
  ⟨⟨1, (Node.withId "viewer").context⟩, "in", .variadic [.images (.symbol "height")]⟩

/-- Where the name has no node the hint asks for attributes. In the connection it is the node of the
input that has none under the name. -/
theorem Spec.asks_of_check_images :
    Output.scanner.contract.check (.single (images (.size 4))) none (some Input.viewer.owner.node) =
      .error (.dimensionMismatch 0 (.symbol "height") (.size 4)) ∧
    (Incompatibility.dimensionMismatch 0 (.symbol "height") (.size 4)).AsksForAttributes ∧
    ∃ e, Output.scanner.connect .viewer = .error e ∧
      e.reason = .resolution (.unresolvedSymbol "height" "viewer") ∧
      ¬ e.reason.AsksForAttributes ∧ ¬ e.reason.AsksForOwner ∧
      (images (.symbol "height")).shape.Misses Input.viewer.owner.node "height" "viewer" := by
  have hcheck : Output.scanner.contract.check (.single (images (.size 4))) none
      (some Input.viewer.owner.node) =
        .error (.dimensionMismatch 0 (.symbol "height") (.size 4)) := by rfl
  have hconnect : Output.scanner.contract.check Input.viewer.contract
      (some Output.scanner.owner.node) (some Input.viewer.owner.node) =
        .error (.resolution (.unresolvedSymbol "height" "viewer")) := by rfl
  obtain ⟨hhint, hconnection⟩ := asks_of_check
  obtain ⟨hasks, -⟩ := hhint _ _ _ _ _ hcheck
  obtain ⟨hreason, hrefused⟩ := hconnection .scanner .viewer
  obtain ⟨e, he, hr⟩ := (hreason _).2 hconnect
  obtain ⟨hattributes, howner, -, hmisses⟩ := hrefused e he
  refine ⟨hcheck, hasks.2 ⟨0, _, _, rfl, ⟨"height", .inl rfl⟩, fun _ _ => ⟨rfl, rfl⟩, nofun⟩, e, he,
    hr, hattributes, howner, ?_⟩
  obtain hscanner | ⟨target, ⟨⟩, hviewer⟩ := hmisses "height" "viewer" hr
  · exact absurd hscanner.label (by decide)
  · exact hviewer

end Dataflow
