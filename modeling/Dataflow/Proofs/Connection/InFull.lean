import Dataflow.Proofs.Connection.Document
import Dataflow.Proofs.Notation.Reading

/-! Documents with their contracts in full. A contract that is written in notation may give way to
the contract that it is read as: the document with it in place is written, read again and made into
the same connection. -/
namespace Dataflow

/-! ### Contracts from notation -/

/-- The type of a contract from notation is one that a name is read as. -/
theorem Spec.ofJson?_toJson_ofName (name : String) (shape : Shape) (optional : Bool) :
    Spec.ofJson? (Spec.toJson ⟨.ofName name, shape, "", optional⟩) =
      some ⟨.ofName name, shape, "", optional⟩ := by
  apply Spec.ofJson?_toJson
  dsimp only
  exact Dtype.ofName_display_ofName name

theorem Spec.ofJson?_toJson_of_readSpec {text : String} {spec : Spec}
    (h : Notation.readSpec text = .ok spec) : Spec.ofJson? spec.toJson = some spec := by
  obtain ⟨name, shape, optional, -, rfl⟩ := Notation.readSpec_eq_ok_iff.1 h
  exact ofJson?_toJson_ofName name shape optional

theorem InputSpec.ofJson?_toJson_of_readInput {text : String} {input : InputSpec}
    (h : Notation.readInput text = .ok input) : InputSpec.ofJson? input.toJson = some input := by
  obtain ⟨name, shape, optional, variadic, -, rfl⟩ := Notation.readInput_eq_ok_iff.1 h
  have hspec := Spec.ofJson?_toJson_ofName name shape optional
  cases variadic with
  | false => exact ofJson?_toJson_single hspec
  | true =>
    apply ofJson?_toJson_variadic
    intro spec hmem
    rw [List.mem_singleton.1 hmem]
    exact hspec

/-! ### Contracts in full -/

/-- A contract in notation gives way to the one that it is read as. -/
def Declared.inFull (reader : String → Except Notation.Error α) :
    Declared α → Except Notation.Error (Declared α)
  | written text => (reader text).map given
  | given a => .ok (given a)

theorem Declared.inFull_eq_ok {reader : String → Except Notation.Error α} {declared : Declared α}
    {a : α} (h : declared.read reader = .ok a) : declared.inFull reader = .ok (given a) := by
  cases declared with
  | written text => exact map_eq_ok_iff.2 ⟨a, h, rfl⟩
  | given b => exact congrArg _ (congrArg given (Except.ok.inj h))

/-- A side that has been read stays readable with its contract in full. -/
theorem Endpoint.IsReadable.inFull {contract : α → Json} {contract? : Json → Option α}
    (h : Rereads contract contract?) {reader : String → Except Notation.Error α}
    (hreader : ∀ {text a}, reader text = .ok a → contract? (contract a) = some a) {depth : Nat}
    {e : Endpoint α} (he : e.IsReadable contract contract? depth) {a : α}
    (ha : e.declared.read reader = .ok a) :
    Endpoint.IsReadable contract contract? depth { e with declared := .given a } := by
  refine ⟨?_, he.node⟩
  obtain ⟨declared, node?⟩ := e
  cases declared with
  | written text => exact Declared.ofJson?_given h (hreader ha)
  | given b =>
    cases ha
    exact he.declared

namespace Document

/-- The document with both contracts in full. -/
def inFull (d : Document) : Except Notation.Error Document := do
  let source ← d.source.declared.inFull Notation.readSpec
  let target ← d.target.declared.inFull Notation.readInput
  return ⟨{ d.source with declared := source }, { d.target with declared := target }⟩

theorem toConnection_eq_ok_iff {d : Document} {c : Connection} :
    d.toConnection = .ok c ↔ ∃ source target,
      d.source.declared.read Notation.readSpec = .ok source ∧
      d.target.declared.read Notation.readInput = .ok target ∧
      c = ⟨source, d.source.node?, target, d.target.node?⟩ := by
  simp only [toConnection, bind_eq_ok_iff, pure_eq_ok_iff]
  constructor
  · rintro ⟨source, hsource, target, htarget, rfl⟩
    exact ⟨source, target, hsource, htarget, rfl⟩
  · rintro ⟨source, target, hsource, htarget, rfl⟩
    exact ⟨source, hsource, target, htarget, rfl⟩

/-! ### Main statement -/

/-- A document that has been read and makes a connection makes the same one with its contracts in
full, when it has been written and read again. -/
theorem toConnection_inFull {text : String} {d : Document} {c : Connection}
    (h : ofText text = .ok d) (hfloat : d.IsFloatFree) (hc : d.toConnection = .ok c) :
    ∃ full, d.inFull = .ok full ∧ ofText full.toJson.compact = .ok full ∧
      full.toConnection = .ok c := by
  obtain ⟨source, target, hsource, htarget, rfl⟩ := toConnection_eq_ok_iff.1 hc
  obtain ⟨rest, hread, -⟩ := Json.readText_eq_ok_iff.1 h
  have hd : d.IsReadable 124 := isReadable_of_read hread
  refine ⟨⟨{ d.source with declared := .given source },
    { d.target with declared := .given target }⟩, ?_, ofText_toJson ⟨?_, ?_⟩ hfloat, rfl⟩
  · rw [inFull, Declared.inFull_eq_ok hsource, Declared.inFull_eq_ok htarget]
    rfl
  · exact hd.source.inFull Spec.rereads Spec.ofJson?_toJson_of_readSpec hsource
  · exact hd.target.inFull InputSpec.rereads InputSpec.ofJson?_toJson_of_readInput htarget

/-- Both contracts in notation, that of the target variadic. -/
def abbreviated : String :=
  "\x7b\"target\": \x7b\"spec\": \"my.Kind [n , -1,]?...\"\x7d, \"source\": " ++
    "\x7b\"spec\": \"my.Kind[n, 2]\", \"node\": \x7b\"n\": 3\x7d\x7d\x7d"

def named : Document where
  source := { declared := .written "my.Kind[n, 2]", node? := some (Node.set {} "n" (.ofInt64 3)) }
  target := { declared := .written "my.Kind [n , -1,]?..." }

def namedConnection : Connection where
  source := { dtype := .other "my.Kind", shape := [.symbol "n", .size 2] }
  sourceNode? := some (Node.set {} "n" (.ofInt64 3))
  target := .variadic
    [{ dtype := .other "my.Kind", shape := [.symbol "n", .size (-1)], optional := true }]

theorem toConnection_inFull_named : ofText abbreviated = .ok named ∧
    named.toConnection = .ok namedConnection ∧ ∃ full, named.inFull = .ok full ∧
      ofText full.toJson.compact = .ok full ∧ full.toConnection = .ok namedConnection := by
  have hread : ofText abbreviated = .ok named := toOption_eq_some_iff.1 (by decide +kernel)
  have hconnection : named.toConnection = .ok namedConnection :=
    toOption_eq_some_iff.1 (by decide +kernel)
  have hfloat : named.IsFloatFree := by
    refine ⟨fun n hn e he => ?_, nofun⟩
    cases hn
    cases List.mem_singleton.1 he
    exact .integer _
  exact ⟨hread, hconnection, toConnection_inFull hread hfloat hconnection⟩

end Document

end Dataflow
