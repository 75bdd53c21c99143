import Dataflow.Proofs.Connection.Document

/-! Documents with their contracts as bare JSON values. A document is read if its outline is and
each of these values is one of a contract. For a target the value tells which form the contracts
have: a list is one of contracts unless it starts with a string. Then it is the list of the fields
of a single one. -/
namespace Dataflow

/-! ### Lists in place of contracts -/

/-- A list that starts with a string. -/
def Json.StartsWithName (v : Json) : Prop := ∃ name rest, v = array (string name :: rest)

theorem Spec.startsWithName_of_ofJson? {items : List Json} {spec : Spec}
    (h : Spec.ofJson? (.array items) = some spec) : (Json.array items).StartsWithName := by
  obtain ⟨name, rest, rfl, -⟩ := exists_name_of_ofJson?_array h
  exact ⟨name, rest, rfl⟩

namespace InputSpec

/-- The value is one of these contracts in their order, or of the single one. -/
structure IsGivenBy (v : Json) (input : InputSpec) : Prop where
  isVariadic_iff : input.isVariadic ↔ (∃ items, v = .array items) ∧ ¬ v.StartsWithName
  variadic : ∀ specs, input = variadic specs → ∃ items, v = .array items ∧
    List.Forall₂ (fun w spec => Spec.ofJson? w = some spec) items specs
  single : ∀ spec, input = single spec → Spec.ofJson? v = some spec

theorem isGivenBy_of_ofJson? {v : Json} {input : InputSpec} (h : InputSpec.ofJson? v = some input) :
    input.IsGivenBy v := by
  unfold InputSpec.ofJson? at h
  split at h
  · rename_i spec hspec
    cases h
    refine ⟨iff_of_false Bool.false_ne_true ?_, nofun, ?_⟩
    · rintro ⟨⟨items, rfl⟩, hname⟩
      exact hname (Spec.startsWithName_of_ofJson? hspec)
    · rintro _ ⟨⟩
      exact hspec
  · obtain ⟨items, hitems, h⟩ := Option.bind_eq_some_iff.1 h
    obtain ⟨specs, hspecs, h⟩ := Option.bind_eq_some_iff.1 h
    cases h
    obtain rfl := Json.items?_eq_some_iff.1 hitems
    have hall := mapM_eq_some_iff_forall₂.1 hspecs
    refine ⟨iff_of_true rfl ⟨⟨items, rfl⟩, ?_⟩, ?_, nofun⟩
    · -- The first item would have to be a contract, and a string is none.
      rintro ⟨name, rest, heq⟩
      cases heq
      cases hall with
      | cons hname _ => cases hname
    · rintro _ ⟨⟩
      exact ⟨items, rfl, hall⟩

end InputSpec

/-! ### Values in place of contracts -/

/-- The one is in the same notation as the other, or is a value that the other is read from. -/
inductive Declared.Decodes (contract? : Json → Option α) : Declared Json → Declared α → Prop
  | written (text : String) : Decodes contract? (.written text) (.written text)
  | given {v : Json} {a : α} (h : contract? v = some a) : Decodes contract? (.given v) (.given a)

/-- What is declared by a value is so by the value as it stands. -/
theorem Declared.exists_decodes {contract? : Json → Option α} {v : Json} {declared : Declared α}
    (h : Declared.ofJson? contract? v = some declared) :
    ∃ raw, Declared.ofJson? some v = some raw ∧ raw.Decodes contract? declared := by
  unfold Declared.ofJson? at h ⊢
  split at h
  · cases h
    exact ⟨_, rfl, .written _⟩
  · obtain ⟨a, ha, rfl⟩ := Option.map_eq_some_iff.1 h
    exact ⟨.given v, rfl, .given ha⟩

namespace Endpoint

variable {contract? : Json → Option α}

structure Decodes (contract? : Json → Option α) (raw : Endpoint Json) (e : Endpoint α) : Prop where
  declared : raw.declared.Decodes contract? e.declared
  node : raw.node? = e.node?

structure Draft.Decodes (contract? : Json → Option α) (s : Draft α) (raw : Draft Json) : Prop where
  declared : Option.Rel (fun x y => y.Decodes contract? x) s.declared? raw.declared?
  node : s.node? = raw.node?

theorem fieldsAgree_record (form : String) (depth : Nat) :
    List.Forall₂ (Json.Record.FieldsAgree (Draft.Decodes contract?) depth)
      (record form contract?).fields (record form some).fields := by
  have hspec : ∀ cs declared rest,
      Json.readAlternative form (Declared.ofJson? contract?) depth cs = .ok (declared, rest) →
      ∃ raw, Json.readAlternative form (Declared.ofJson? some) depth cs = .ok (raw, rest) ∧
        raw.Decodes contract? declared := by
    intro cs declared rest h
    obtain ⟨v, hread, hv⟩ := Json.readAlternative_eq_ok_iff.1 h
    obtain ⟨raw, hraw, hdecodes⟩ := Declared.exists_decodes hv
    exact ⟨raw, Json.readAlternative_eq_ok_iff.2 ⟨v, hread, hraw⟩, hdecodes⟩
  refine .cons (Json.Record.fieldsAgree_reading ?_ ?_ hspec)
    (.cons (Json.Record.fieldsAgree_reading (q := Eq) ?_ ?_ ?_) .nil)
  · rintro ⟨_, _⟩ ⟨_, _⟩ ⟨hdeclared, -⟩
    cases hdeclared <;> rfl
  · rintro s raw x y ⟨-, hnode⟩ hxy
    exact ⟨.some hxy, hnode⟩
  · rintro s raw ⟨-, hnode⟩
    rw [hnode]
  · rintro s raw x _ ⟨hdeclared, -⟩ rfl
    exact ⟨hdeclared, rfl⟩
  · intro cs node? rest h
    exact ⟨node?, h, rfl⟩

/-- A side that is read is also read with the value of its contract as it stands. -/
theorem exists_decodes_of_read {form : String} {depth : Nat} {cs rest : List Char} {e : Endpoint α}
    (h : (record form contract?).read (depth + 1) cs = .ok (e, rest)) :
    ∃ raw, (record form some).read (depth + 1) cs = .ok (raw, rest) ∧
      raw.Decodes contract? e := by
  obtain ⟨⟨declared?, node?⟩, ⟨raw?, rawNode?⟩, ⟨hdeclared, hnode⟩, hfinish, hread⟩ :=
    Json.Record.exists_drafts_of_read ⟨.none, rfl⟩ (fieldsAgree_record form depth) h
  cases hdeclared with
  | none => cases hfinish
  | some hdeclared =>
    cases hfinish
    cases hnode
    exact ⟨_, hread _ rfl, hdeclared, rfl⟩

end Endpoint

namespace Document

/-- A document with the values of its contracts as they stand. -/
structure Outline where
  source : Endpoint Json
  target : Endpoint Json

namespace Outline

/-- What has been read of an outline. -/
structure Draft where
  source? : Option (Endpoint Json) := none
  target? : Option (Endpoint Json) := none

/-- The sides of a document, as `Document.record` has them, with any value for a contract. -/
def record : Json.Record Draft Outline where
  name := Document.record.name
  fields := [
    .reading "source" Draft.source? (fun d x => { d with source? := some x })
      (Endpoint.record "SourceDecl" some).read,
    .reading "target" Draft.target? (fun d x => { d with target? := some x })
      (Endpoint.record "TargetDecl" some).read]
  blank := {}
  finish d :=
    match d.source?, d.target? with
    | none, _ => .error "source"
    | _, none => .error "target"
    | some source, some target => .ok ⟨source, target⟩

def ofText (text : String) : Except Json.Error Outline :=
  Json.readText (record.read Json.maxDepth) text

/-- The contracts of the document are read from the values of the outline. -/
structure Decodes (outline : Outline) (d : Document) : Prop where
  source : outline.source.Decodes Spec.ofJson? d.source
  target : outline.target.Decodes InputSpec.ofJson? d.target

structure Draft.Decodes (s : Document.Draft) (raw : Draft) : Prop where
  source : Option.Rel (fun e r => r.Decodes Spec.ofJson? e) s.source? raw.source?
  target : Option.Rel (fun e r => r.Decodes InputSpec.ofJson? e) s.target? raw.target?

theorem fieldsAgree_record (depth : Nat) :
    List.Forall₂ (Json.Record.FieldsAgree Draft.Decodes (depth + 1))
      Document.record.fields record.fields := by
  refine .cons (Json.Record.fieldsAgree_reading ?_ ?_ fun _ _ _ => Endpoint.exists_decodes_of_read)
    (.cons (Json.Record.fieldsAgree_reading ?_ ?_ fun _ _ _ => Endpoint.exists_decodes_of_read)
      .nil)
  · rintro ⟨_, _⟩ ⟨_, _⟩ ⟨hsource, -⟩
    cases hsource <;> rfl
  · rintro s raw x y ⟨-, htarget⟩ hxy
    exact ⟨.some hxy, htarget⟩
  · rintro ⟨_, _⟩ ⟨_, _⟩ ⟨-, htarget⟩
    cases htarget <;> rfl
  · rintro s raw x y ⟨hsource, -⟩ hxy
    exact ⟨hsource, .some hxy⟩

/-- A document that is read has an outline that is read, from which its contracts are. -/
theorem exists_decodes_of_ofText {text : String} {d : Document} (h : Document.ofText text = .ok d) :
    ∃ outline, ofText text = .ok outline ∧ outline.Decodes d := by
  obtain ⟨rest, hread, hrest⟩ := Json.readText_eq_ok_iff.1 h
  obtain ⟨⟨source?, target?⟩, ⟨rawSource?, rawTarget?⟩, ⟨hsource, htarget⟩, hfinish, hraw⟩ :=
    Json.Record.exists_drafts_of_read ⟨.none, .none⟩ (fieldsAgree_record 125) hread
  cases hsource with
  | none => cases hfinish
  | some hsource =>
    cases htarget with
    | none => cases hfinish
    | some htarget =>
      cases hfinish
      exact ⟨_, Json.readText_eq_ok_iff.2 ⟨rest, hraw _ rfl, hrest⟩, hsource, htarget⟩

end Outline

end Document

/-! ### Main statement -/

namespace InputSpec

/-- What is read as the contracts of an input, in a text of its own or in a document, is read from
a value that gives them: as a list of contracts in their order if it is a list that starts with no
string, and as a single contract otherwise. -/
theorem isGivenBy_of_ofText (text : String) :
    (∀ input, InputSpec.ofText text = .ok input →
      ∃ v, Json.ofText text = .ok v ∧ input.IsGivenBy v) ∧
    ∀ d input, Document.ofText text = .ok d → d.target.declared = .given input →
      ∃ outline v, Document.Outline.ofText text = .ok outline ∧
        outline.target.declared = .given v ∧ input.IsGivenBy v := by
  refine ⟨fun input h => ?_, fun d input h hgiven => ?_⟩
  · obtain ⟨rest, hread, hrest⟩ := Json.readText_eq_ok_iff.1 h
    obtain ⟨v, hv, hinput⟩ := Json.readAlternative_eq_ok_iff.1 hread
    exact ⟨v, Json.readText_eq_ok_iff.2 ⟨rest, hv, hrest⟩, isGivenBy_of_ofJson? hinput⟩
  · obtain ⟨outline, houtline, -, htarget⟩ := Document.Outline.exists_decodes_of_ofText h
    have hdeclared := htarget.declared
    rw [hgiven] at hdeclared
    generalize hraw : outline.target.declared = raw at hdeclared
    cases hdeclared with
    | given hv => exact ⟨outline, _, houtline, hraw, isGivenBy_of_ofJson? hv⟩

/-- A list of contracts, the second of them as the list of its fields. -/
def pairText : String := "[\x7b\"shape\": [\"n\", -1], \"dtype\": \"int8\"\x7d, [\"x\", [1]]]"

def pairDocument : String :=
  "\x7b\"target\": \x7b\"spec\": " ++ pairText ++
    "\x7d, \"source\": \x7b\"spec\": \"int8[4, 2]\"\x7d\x7d"

def pair : InputSpec :=
  .variadic [{ dtype := .element .int8, shape := [.symbol "n", .size (-1)] },
    { dtype := .other "x", shape := [.size 1] }]

theorem isGivenBy_of_ofText_pair :
    (∃ v, Json.ofText pairText = .ok v ∧ pair.IsGivenBy v) ∧
    ∃ outline v, Document.Outline.ofText pairDocument = .ok outline ∧
      outline.target.declared = .given v ∧ pair.IsGivenBy v := by
  have hinput : InputSpec.ofText pairText = .ok pair := toOption_eq_some_iff.1 (by decide +kernel)
  have hdocument : Document.ofText pairDocument = .ok ⟨⟨.written "int8[4, 2]", none⟩,
      ⟨.given pair, none⟩⟩ := toOption_eq_some_iff.1 (by decide +kernel)
  obtain ⟨hpair, -⟩ := isGivenBy_of_ofText pairText
  obtain ⟨-, htarget⟩ := isGivenBy_of_ofText pairDocument
  exact ⟨hpair pair hinput, htarget _ pair hdocument rfl⟩

/-- Not every list is one of contracts. -/
theorem not_isVariadic_iff_array :
    ¬ ∀ text input v, InputSpec.ofText text = .ok input → Json.ofText text = .ok v →
      (input.isVariadic ↔ ∃ items, v = .array items) := by
  intro h
  have hinput : InputSpec.ofText "[\"x\",[1]]" = .ok (.single ⟨.other "x", [.size 1], "", false⟩) :=
    toOption_eq_some_iff.1 (by decide +kernel)
  have hvalue : Json.ofText "[\"x\",[1]]" = .ok (.array [.string "x", .array [.ofInt64 1]]) :=
    toOption_eq_some_iff.1 (by decide +kernel)
  exact Bool.false_ne_true ((h _ _ _ hinput hvalue).2 ⟨_, rfl⟩)

end InputSpec

end Dataflow
