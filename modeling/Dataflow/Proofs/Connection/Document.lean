import Dataflow.Connection.Document
import Dataflow.Proofs.Node
import Dataflow.Proofs.Spec.Json

/-! Connection documents. In whatever form a document has been written, it is written again in one
that is read as the same document. -/
namespace Dataflow

open Json (MembersRead)

/-! ### Declared contracts -/

namespace Declared

variable {contract : α → Json} {contract? : Json → Option α}

/-- A contract that is given in full is no text in notation. -/
theorem ofJson?_given (h : Rereads contract contract?) {a : α}
    (ha : contract? (contract a) = some a) :
    Declared.ofJson? contract? ((given a).toJson contract) = some (given a) := by
  have hstring := h.notString a
  rw [toJson]
  unfold Declared.ofJson?
  split
  · rename_i heq
    rw [heq] at hstring
    cases hstring
  · rw [ha]
    rfl

theorem again (h : Rereads contract contract?) {v : Json} {declared : Declared α}
    (hdeclared : Declared.ofJson? contract? v = some declared) :
    Declared.ofJson? contract? (declared.toJson contract) = some declared := by
  unfold Declared.ofJson? at hdeclared
  split at hdeclared
  · cases hdeclared
    rfl
  · obtain ⟨a, ha, rfl⟩ := Option.map_eq_some_iff.1 hdeclared
    exact ofJson?_given h (h.again ha)

theorem isFloatFree_toJson (h : Rereads contract contract?) (declared : Declared α) :
    (declared.toJson contract).IsFloatFree := by
  cases declared with
  | written text => exact .string text
  | given a => exact h.isFloatFree a

theorem nestsWithin_toJson (h : Rereads contract contract?) (depth : Nat) (declared : Declared α) :
    (declared.toJson contract).NestsWithin (depth + 3) := by
  cases declared with
  | written text => exact .string text
  | given a => exact h.nestsWithin depth a

end Declared

/-! ### Sides of a connection -/

namespace Endpoint

variable {contract : α → Json} {contract? : Json → Option α}

/-- A side that has been read at some depth. -/
structure IsReadable (contract : α → Json) (contract? : Json → Option α) (depth : Nat)
    (e : Endpoint α) : Prop where
  declared : Declared.ofJson? contract? (e.declared.toJson contract) = some e.declared
  node : ∀ n, e.node? = some n → n.IsReadable depth

/-- What has been read of a side so far. -/
structure Draft.IsReadable (contract : α → Json) (contract? : Json → Option α) (depth : Nat)
    (s : Draft α) : Prop where
  declared : ∀ x, s.declared? = some x → Declared.ofJson? contract? (x.toJson contract) = some x
  node : ∀ n, s.node? = some (some n) → n.IsReadable depth

def IsFloatFree (e : Endpoint α) : Prop := ∀ n, e.node? = some n → n.IsFloatFree

theorem keeps_field (h : Rereads contract contract?) {form : String} {depth : Nat}
    {field : Json.Field (Draft α)} (hfield : field ∈ (record form contract?).fields) :
    Json.Keeps (Draft.IsReadable contract contract? depth) (field.read (depth + 1)) := by
  intro s cs s' rest hs hread
  simp only [record, List.mem_cons, List.not_mem_nil, or_false] at hfield
  obtain rfl | rfl := hfield
  · obtain ⟨declared, hdeclared, rfl⟩ := Json.exists_of_read_reading hread
    obtain ⟨v, -, hv⟩ := Json.readAlternative_eq_ok_iff.1 hdeclared
    refine ⟨fun x hx => ?_, hs.node⟩
    cases hx
    exact Declared.again h hv
  · obtain ⟨node?, hnode, rfl⟩ := Json.exists_of_read_reading hread
    refine ⟨hs.declared, fun n hn => ?_⟩
    cases hn
    obtain ⟨_, _, hn⟩ := Json.exists_read_of_readOption hnode
    exact Node.isReadable_of_read hn

theorem isReadable_of_read (h : Rereads contract contract?) {form : String} {depth : Nat}
    {cs rest : List Char} {e : Endpoint α}
    (he : (record form contract?).read (depth + 2) cs = .ok (e, rest)) :
    e.IsReadable contract contract? depth := by
  have hblank : (record form contract?).blank.IsReadable contract contract? depth :=
    ⟨fun _ hx => (Option.some_ne_none _ hx.symm).elim,
      fun _ hn => (Option.some_ne_none _ hn.symm).elim⟩
  obtain ⟨⟨declared?, node?⟩, hs, hfinish⟩ :=
    Json.Record.exists_draft_of_read hblank (fun _ hfield => keeps_field h hfield) he
  cases declared? with
  | none => cases hfinish
  | some declared =>
    cases hfinish
    exact ⟨hs.declared declared rfl, fun n hn => hs.node n (Option.join_eq_some_iff.1 hn)⟩

/-- An absent node is written as null, and a node is not. -/
theorem readOption_node {depth : Nat} {node? : Option Node}
    (h : ∀ n, node? = some n → n.IsReadable depth) (hfloat : ∀ n, node? = some n → n.IsFloatFree)
    (rest : List Char) :
    Json.readOption (Node.read (depth + 1)) (((node?.map Node.toJson).getD .null).line ++ rest) =
      .ok (node?, rest) := by
  cases node? with
  | none => exact Json.readOption_null _ rest
  | some n =>
    have hread := Node.read_line (h n rfl) (hfloat n rfl) rest
    rw [Node.toJson, Json.line_object_append] at hread
    rw [Option.map_some, Option.getD_some, Node.toJson, Json.line_object_append]
    exact Json.readOption_cons (by decide) (by decide) hread

theorem read_line (h : Rereads contract contract?) (form : String) {depth : Nat} {e : Endpoint α}
    (he : e.IsReadable contract contract? (depth + 2)) (hfloat : e.IsFloatFree)
    (rest : List Char) : (record form contract?).read (depth + 4)
      ((e.toJson contract).line ++ rest) = .ok (e, rest) := by
  have hdeclared (rest : List Char) (hrest : Json.EndsNumber rest) :=
    Json.readAlternative_line form (Declared.nestsWithin_toJson h depth e.declared)
      (Declared.isFloatFree_toJson h e.declared) he.declared hrest
  have hnode := readOption_node he.node hfloat
  have hmembers : MembersRead ((record form contract?).readMember (depth + 3)) {}
      [("spec", e.declared.toJson contract), ("node", (e.node?.map Node.toJson).getD .null)]
      { declared? := some e.declared, node? := some e.node? } :=
    .cons (fun rest hrest => Json.Record.readMember_colon rfl rfl (hdeclared rest hrest))
      (.cons (fun rest _ => Json.Record.readMember_colon rfl rfl (hnode rest)) (.nil _))
  exact Json.Record.read_line hmembers rfl rest

end Endpoint

/-! ### Documents -/

namespace Document

/-- A document that has been read, its nodes at some depth. -/
structure IsReadable (depth : Nat) (d : Document) : Prop where
  source : d.source.IsReadable Spec.toJson Spec.ofJson? depth
  target : d.target.IsReadable InputSpec.toJson InputSpec.ofJson? depth

/-- What has been read of a document so far. -/
structure Draft.IsReadable (depth : Nat) (s : Draft) : Prop where
  source : ∀ e, s.source? = some e → e.IsReadable Spec.toJson Spec.ofJson? depth
  target : ∀ e, s.target? = some e → e.IsReadable InputSpec.toJson InputSpec.ofJson? depth

/-- No attribute of a node holds a float. -/
def IsFloatFree (d : Document) : Prop := d.source.IsFloatFree ∧ d.target.IsFloatFree

theorem keeps_field {depth : Nat} {field : Json.Field Draft} (hfield : field ∈ record.fields) :
    Json.Keeps (Draft.IsReadable depth) (field.read (depth + 2)) := by
  intro s cs s' rest hs hread
  simp only [record, List.mem_cons, List.not_mem_nil, or_false] at hfield
  obtain rfl | rfl := hfield
  · obtain ⟨e, he, rfl⟩ := Json.exists_of_read_reading hread
    refine ⟨fun e' he' => ?_, hs.target⟩
    cases he'
    exact Endpoint.isReadable_of_read Spec.rereads he
  · obtain ⟨e, he, rfl⟩ := Json.exists_of_read_reading hread
    refine ⟨hs.source, fun e' he' => ?_⟩
    cases he'
    exact Endpoint.isReadable_of_read InputSpec.rereads he

theorem isReadable_of_read {depth : Nat} {cs rest : List Char} {d : Document}
    (hd : record.read (depth + 3) cs = .ok (d, rest)) : d.IsReadable depth := by
  have hblank : record.blank.IsReadable depth :=
    ⟨fun _ he => (Option.some_ne_none _ he.symm).elim,
      fun _ he => (Option.some_ne_none _ he.symm).elim⟩
  obtain ⟨⟨source?, target?⟩, hs, hfinish⟩ :=
    Json.Record.exists_draft_of_read hblank (fun _ hfield => keeps_field hfield) hd
  cases source? with
  | none => cases hfinish
  | some source =>
    cases target? with
    | none => cases hfinish
    | some target =>
      cases hfinish
      exact ⟨hs.source source rfl, hs.target target rfl⟩

theorem read_line {depth : Nat} {d : Document} (hd : d.IsReadable (depth + 2))
    (hfloat : d.IsFloatFree) (rest : List Char) :
    record.read (depth + 5) (d.toJson.line ++ rest) = .ok (d, rest) := by
  have hsource := Endpoint.read_line Spec.rereads "SourceDecl" hd.source hfloat.1
  have htarget := Endpoint.read_line InputSpec.rereads "TargetDecl" hd.target hfloat.2
  have hmembers : MembersRead (record.readMember (depth + 4)) {}
      [("source", d.source.toJson Spec.toJson), ("target", d.target.toJson InputSpec.toJson)]
      { source? := some d.source, target? := some d.target } :=
    .cons (fun rest _ => Json.Record.readMember_colon rfl rfl (hsource rest))
      (.cons (fun rest _ => Json.Record.readMember_colon rfl rfl (htarget rest)) (.nil _))
  exact Json.Record.read_line hmembers rfl rest

theorem ofText_toJson {d : Document} (hd : d.IsReadable 124) (hfloat : d.IsFloatFree) :
    ofText d.toJson.compact = .ok d :=
  Json.readText_compact (read_line hd hfloat [])

/-- A document whose nodes hold no floats is read again from the text that it is written as. -/
theorem ofText_compact {text : String} {d : Document} (h : ofText text = .ok d)
    (hfloat : d.IsFloatFree) : ofText d.toJson.compact = .ok d := by
  obtain ⟨rest, hread, -⟩ := Json.readText_eq_ok_iff.1 h
  have hd : d.IsReadable 124 := isReadable_of_read hread
  exact Json.readText_compact (read_line hd hfloat [])

/-- The sides in another order, one of them and its contract as lists, with an unknown member, no
identifier, and an attribute that is given twice. -/
def shuffled : String :=
  "\x7b\"version\": 1.5, \"target\": [[\" torch.Tensor\", [\"n\"]]], \"source\": " ++
    "\x7b\"spec\": \"Tensor[n]\", \"node\": \x7b\"id\": null, \"n\": 2.5, \"n\": 3\x7d\x7d\x7d"

def settled : Document where
  source := { declared := .written "Tensor[n]", node? := some (Node.set {} "n" (.ofInt64 3)) }
  target := { declared := .given (.single { dtype := .tensor, shape := [.symbol "n"] }) }

theorem ofText_compact_settled :
    ofText shuffled = .ok settled ∧ ofText settled.toJson.compact = .ok settled := by
  have hread : ofText shuffled = .ok settled := toOption_eq_some_iff.1 (by decide +kernel)
  have hfloat : settled.IsFloatFree := by
    refine ⟨fun n hn e he => ?_, nofun⟩
    cases hn
    cases List.mem_singleton.1 he
    exact .integer _
  exact ⟨hread, ofText_compact hread hfloat⟩

end Document

end Dataflow
